import Dissect.CommandLine.Hex
import Dissect.CommandLine.Request
import Dissect.Document.Parse
import Dissect.Files.Error
import Dissect.Report
import Dissect.Script.Output

/-!
# Running requests

What the command line does, apart from touching files, which a host does for it.
-/

set_option autoImplicit false

namespace Dissect.CommandLine

open Files (FileError)
open Schema (Registry)

/-- What a program may do with files. -/
structure Host (m : Type → Type) where
  readText : String → m (Except FileError String)
  /-- Makes a directory in one that is there. -/
  makeDirectory : String → m (Except FileError Unit)
  writeText : String → String → m (Except FileError Unit)

/-- The surroundings in which a program runs. -/
structure Environment where
  setting? : String → Option String
  windows : Bool

/-- What a run leaves behind, files apart. -/
structure Result where
  exit : UInt8
  stdout : String
  stderr : String

/-- How a run ends. -/
inductive Ending where
  /-- There is no request to run. -/
  | stopped (reason : Stop)
  | finished (result : Result)

/-- Why a request fails: the failure and its causes, outermost first. -/
abbrev Failure := List String

/-- What a run that failed leaves behind. -/
def Result.ofFailure (causes : Failure) : Result :=
  ⟨1, "", "error: " ++ ": ".intercalate causes ++ "\n"⟩

/-- The failure to read or write a file. -/
def fileFailure (what : String) (e : FileError) : Failure := [s!"{what}: {e.message}", e.message]

variable {m : Type → Type} [Monad m]

/-- The registry of a document in a file. -/
def load (host : Host m) (path : String) : m (Except Failure Registry) := do
  match ← host.readText path with
  | .error e => return .error (s!"loading {path}" :: fileFailure "IO error" e)
  | .ok text =>
    match Document.parse text with
    | .error e => return .error [s!"loading {path}", e.message]
    | .ok registry => return .ok registry

namespace Host

/-- Whether a path leads to a directory, which is when it cannot be read for that reason. -/
def isDirectory (host : Host m) (path : String) : m Bool := do
  match ← host.readText path with
  | .error .isADirectory => return true
  | _ => return false

/-- Makes a directory unless it is there. -/
def ensureDirectory (host : Host m) (path : String) : m (Except FileError Unit) := do
  match ← host.makeDirectory path with
  | .error .alreadyExists =>
    if ← host.isDirectory path then return .ok () else return .error .alreadyExists
  | result => return result

/-- Makes the first of the directories, each of which lies in the next. Where one is missed on
the way, the next is made before. -/
def ensureLineage (host : Host m) : List String → m (Except FileError Unit)
  | [] => return .ok ()
  | path :: outer => do
    match ← host.ensureDirectory path with
    | .error .notFound =>
      match ← host.ensureLineage outer with
      | .error e => return .error e
      | .ok () => host.ensureDirectory path
    | result => return result

end Host

/-- Writes files in order, up to the first that cannot be written. -/
def writeFiles (host : Host m) : List (String × String) → m (Except Failure Unit)
  | [] => return .ok ()
  | (path, text) :: rest => do
    match ← host.writeText path text with
    | .error e => return .error (fileFailure s!"failed to write '{path}'" e)
    | .ok () => writeFiles host rest

/-- Writes modules to a directory, which is made if it is not there. -/
def writeModules (host : Host m) (dir : String) (mode : Script.OutputMode)
    (modules : List Script.Module) : m (Except Failure Unit) := do
  match ← host.ensureLineage (Path.lineage dir) with
  | .error e => return .error (fileFailure s!"failed to write '{dir}'" e)
  | .ok () => writeFiles host (Script.planFiles dir mode modules)

/-- The end of a run that generated modules. Placeholders make a strict run fail. -/
def generated (q : GenerateRequest) (modules : List Script.Module) (stdout : String) : Result :=
  let count := (modules.flatMap fun m => m.diagnostics).length
  if q.strict && 0 < count then ⟨2, stdout, s!"{count} field(s) replaced by placeholders\n"⟩
  else ⟨0, stdout, ""⟩

/-- The directory that modules are written to. -/
def GenerateRequest.directory? (q : GenerateRequest) (env : Environment) : Option String :=
  match q.outDir with
  | some dir => some dir
  | none =>
    Script.Surroundings.directory?
      ⟨env.setting? outDirVariable, env.setting? "APPDATA", env.setting? "HOME", env.windows⟩

/-- Generates modules. -/
def runGenerate (host : Host m) (env : Environment) (q : GenerateRequest) : m Result := do
  match ← load host q.schema with
  | .error failure => return .ofFailure failure
  | .ok registry =>
    match Script.generate registry q.settings with
    | .error e => return .ofFailure [e.message]
    | .ok modules =>
      if q.toStdout then return generated q modules (Script.singleSource modules)
      else
        match q.directory? env with
        | none =>
          return .ofFailure
            [s!"no output directory: pass --out-dir or set {outDirVariable}"]
        | some dir =>
          match ← writeModules host dir (if q.singleFile then .singleFile else .perNamespace)
            modules with
          | .error failure => return .ofFailure failure
          | .ok () => return generated q modules ""

/-- The failure to inspect a payload. -/
def inspectFailure : Report.InspectError → Failure
  | .decode e => [(Report.InspectError.decode e).message, e.message]
  | e => [e.message]

/-- The end of a run that decoded a payload. -/
def inspected (r : Report) : Result :=
  ⟨0, s!"{r.text}\n",
    String.join (r.diagnostics.map fun d => s!"warning: {d.path}: {d.error.message}\n")⟩

/-- Decodes a payload. -/
def runInspect (host : Host m) (q : InspectRequest) : m Result := do
  match ← load host q.schema with
  | .error failure => return .ofFailure failure
  | .ok registry =>
    match payloadBytes q.payload with
    | .error e => return .ofFailure ["payload is not valid hex", e.message]
    | .ok payload =>
      match Report.inspect registry q.protocol q.method q.direction payload.toArray with
      | .error e => return .ofFailure (inspectFailure e)
      | .ok report => return inspected report

/-- Runs a command line. -/
def run (host : Host m) (env : Environment) (words : List String) : m Ending := do
  match request env.setting? words with
  | .error reason => return .stopped reason
  | .ok (.generate q) => return .finished (← runGenerate host env q)
  | .ok (.inspect q) => return .finished (← runInspect host q)

/-- How the commands are used. -/
def usage : String :=
  "Compile DDL schema documents into Wireshark Lua dissectors\n\n" ++
  "Usage: ddlc [-v | -q] generate [-o DIR] [--single-file] [-n NS]... [--no-stubs] [--stdout]\n" ++
  "                               [--dissector-table TABLE] [--strict] SCHEMA\n" ++
  "       ddlc [-v | -q] inspect -p PROTOCOL -m METHOD [--response] --payload HEX SCHEMA\n"

/-- The name and version of the program. -/
def versionText : String := "ddlc 0.3.0\n"

/-- What a run leaves behind, files apart. -/
def Ending.result : Ending → Result
  | .stopped .misuse => ⟨2, "", usage⟩
  | .stopped .help => ⟨0, usage, ""⟩
  | .stopped .version => ⟨0, versionText, ""⟩
  | .finished r => r

end Dissect.CommandLine
