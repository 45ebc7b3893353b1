import Dissect.Path
import Dissect.Script.Module

/-!
# Output files

Which files modules are written to, and the directory they go to if none is asked for.
-/

set_option autoImplicit false

namespace Dissect.Script

/-- How modules are spread over files. -/
inductive OutputMode where
  | perNamespace
  | singleFile
deriving DecidableEq

/-- The name of the file that holds all modules. -/
def singleFileName : String := s!"rmc_protocols.{extension}"

/-- The files of modules in a directory: their paths and texts. -/
def planFiles (dir : String) (mode : OutputMode) (modules : List Module) :
    List (String × String) :=
  match mode with
  | .perNamespace => modules.map fun m => (Path.join dir m.fileName, m.source)
  | .singleFile => [(Path.join dir singleFileName, singleSource modules)]

/-- What the default directory depends on. -/
structure Surroundings where
  /-- A directory asked for. -/
  outDir : Option String
  /-- Where applications keep their data, on Windows. -/
  appData : Option String
  /-- The home directory. -/
  home : Option String
  windows : Bool

/-- A setting that is there and not empty. -/
def given (setting : Option String) : Option String := setting.filter fun s => !s.isEmpty

/-- The directory for generated modules: the one asked for, or that of personal plugins. -/
def Surroundings.directory? (s : Surroundings) : Option String :=
  match given s.outDir with
  | some dir => some dir
  | none =>
    if s.windows then
      (given s.appData).map fun dir => ["Wireshark", "plugins", "quazal"].foldl Path.join dir
    else
      (given s.home).map fun dir =>
        [".local", "lib", "wireshark", "plugins", "quazal"].foldl Path.join dir

end Dissect.Script
