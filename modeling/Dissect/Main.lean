import Dissect.CommandLine.Run

/-!
# The program

Runs the command line on the files of the machine.
-/

set_option autoImplicit false

namespace Dissect

open CommandLine (Host)
open Files (FileError)

/-- The error that the machine reports. -/
def fileErrorOf (e : IO.Error) : FileError :=
  match e with
  | .noFileOrDirectory .. => .notFound
  | .alreadyExists .. => .alreadyExists
  | .inappropriateType _ code _ => if code = 21 then .isADirectory else .notADirectory
  | .invalidArgument _ code _ => if code = 36 then .nameTooLong else .other (toString e)
  | e => .other (toString e)

/-- Does something with files. -/
def attempt {α : Type} (action : IO α) : IO (Except FileError α) := do
  try return .ok (← action)
  catch e => return .error (fileErrorOf e)

/-- The text of a file. -/
def readTextFile (path : String) : IO (Except FileError String) := do
  match ← attempt (IO.FS.withFile path .read fun handle => handle.readBinToEnd) with
  | .error e => return .error e
  | .ok bytes =>
    match String.fromUTF8? bytes with
    | some text => return .ok text
    | none => return .error .notText

/-- The host that works on the files of the machine. -/
def machine : Host IO where
  readText := readTextFile
  makeDirectory path := attempt (IO.FS.createDir path)
  writeText path text := attempt (IO.FS.writeFile path text)

end Dissect

/-- Runs the command line. -/
def main (words : List String) : IO UInt32 := do
  let names := [Dissect.CommandLine.outDirVariable, "APPDATA", "HOME"]
  let values ← names.mapM fun name => do return (name, ← IO.getEnv name)
  let setting? (name : String) : Option String :=
    (values.find? fun v => v.1 = name).bind fun v => v.2
  let ending ← Dissect.CommandLine.run Dissect.machine ⟨setting?, false⟩ words
  let result := ending.result
  IO.print result.stdout
  IO.eprint result.stderr
  return result.exit.toUInt32
