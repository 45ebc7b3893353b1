import Dissect.CommandLine.Options
import Dissect.Schema.Model
import Dissect.Script.Module

/-!
# Requests

What a command line asks for.
-/

set_option autoImplicit false

namespace Dissect.CommandLine

open Schema (Direction)

/-- The variable that names the output directory if no option does. -/
def outDirVariable : String := "DDLC_OUT_DIR"

/-- A request to generate modules. -/
structure GenerateRequest where
  schema : String
  outDir : Option String
  singleFile : Bool
  settings : Script.Settings
  /-- Print the modules instead of writing files. -/
  toStdout : Bool
  /-- Fail if a field was replaced by a placeholder. -/
  strict : Bool

/-- A request to decode a payload. -/
structure InspectRequest where
  schema : String
  protocol : String
  method : Nat
  direction : Direction
  payload : String

/-- What a command line asks for. -/
inductive Request where
  | generate (request : GenerateRequest)
  | inspect (request : InspectRequest)

/-- Help, which every command has. -/
def helpOption : OptionSpec := ⟨"help", some 'h', none, true⟩

/-- Options about the amount of messages, which may stand before or after the command. -/
def commonOptions : List OptionSpec :=
  [⟨"verbose", some 'v', none, true⟩, ⟨"quiet", some 'q', none, false⟩, helpOption]

/-- Options before the command. -/
def leadingOptions : List OptionSpec := ⟨"version", some 'V', none, true⟩ :: commonOptions

/-- Any text. -/
def anyText (_ : String) : Bool := true

/-- A path, which is not empty. -/
def isPath (text : String) : Bool := !text.isEmpty

/-- The number that digits spell. -/
def digitsNumber? (digits : List Char) : Option Nat :=
  if digits.isEmpty || !digits.all Char.isDigit then none
  else some (digits.foldl (fun n c => 10 * n + (c.toNat - '0'.toNat)) 0)

/-- A number with 32 bits. It may have a sign, but it is not negative. -/
def word32? (text : String) : Option Nat :=
  let number :=
    match text.toList with
    | '+' :: digits => digitsNumber? digits
    | '-' :: digits => (digitsNumber? digits).filter (· = 0)
    | digits => digitsNumber? digits
  number.filter (· < Nat.pow 2 32)

/-- What the command that generates modules takes. -/
def generateSpec : CommandSpec where
  options :=
    [⟨"out-dir", some 'o', some isPath, false⟩, ⟨"single-file", none, none, false⟩,
      ⟨"namespace", some 'n', some anyText, true⟩, ⟨"dissector-table", none, some anyText, false⟩,
      ⟨"no-stubs", none, none, false⟩, ⟨"stdout", none, none, false⟩,
      ⟨"strict", none, none, false⟩] ++ commonOptions
  operands := [isPath]

/-- What the command that decodes a payload takes. -/
def inspectSpec : CommandSpec where
  options :=
    [⟨"protocol", some 'p', some anyText, false⟩,
      ⟨"method", some 'm', some fun text => (word32? text).isSome, false⟩,
      ⟨"response", none, none, false⟩, ⟨"payload", none, some anyText, false⟩] ++ commonOptions
  operands := [isPath]

/-- An option or word that the command line has to give. -/
def required {α : Type} : Option α → Except Stop α
  | some a => .ok a
  | none => .error .misuse

/-- Messages cannot be both more and fewer. -/
def checkMessages (p : Parsed) : Except Stop Unit :=
  if p.has "verbose" && p.has "quiet" then .error .misuse else .ok ()

/-- The request to generate modules. -/
def generateRequest (setting? : String → Option String) (words : List String) :
    Except Stop GenerateRequest := do
  let p ← divide generateSpec .empty .nothing words
  checkMessages p
  let schema ← required p.words.head?
  let outDir := (p.value? "out-dir").or (setting? outDirVariable)
  if outDir.any fun dir => !isPath dir then .error .misuse
  let settings : Script.Settings :=
    ⟨(p.value? "dissector-table").getD Script.defaultTable, !p.has "no-stubs",
      p.values "namespace"⟩
  .ok ⟨schema, outDir, p.has "single-file", settings, p.has "stdout", p.has "strict"⟩

/-- The request to decode a payload. -/
def inspectRequest (words : List String) : Except Stop InspectRequest := do
  let p ← divide inspectSpec .empty .nothing words
  checkMessages p
  let schema ← required p.words.head?
  let protocol ← required (p.value? "protocol")
  let method ← required ((p.value? "method").bind word32?)
  let payload ← required (p.value? "payload")
  .ok ⟨schema, protocol, method, if p.has "response" then .response else .request, payload⟩

/-- The request that a command makes with the words behind its name. Help is a command, too: it may
be asked about one command. -/
def commandRequest (setting? : String → Option String) : List String → Except Stop Request
  | "generate" :: words => (generateRequest setting? words).map .generate
  | "inspect" :: words => (inspectRequest words).map .inspect
  | ["help"] => .error .help
  | ["help", name] =>
    if ["generate", "inspect", "help"].contains name then .error .help else .error .misuse
  | _ => .error .misuse

/-- What a command line asks for, given the variables of the surroundings. The options before the
command are checked against each other last. -/
def request (setting? : String → Option String) (words : List String) : Except Stop Request := do
  let (p, words) ← leading leadingOptions .empty words
  let r ← commandRequest setting? words
  checkMessages p
  .ok r

end Dissect.CommandLine
