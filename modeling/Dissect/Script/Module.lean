import Dissect.Document.Parse
import Dissect.Script.Block

/-!
# Modules

One script per namespace, with the blocks of its protocols.
-/

set_option autoImplicit false

namespace Dissect.Script

open Schema

/-- The dissector table in which protocols are registered by default. -/
def defaultTable : String := "rmc.protocol_id"

/-- What to generate. -/
structure Settings where
  /-- The dissector table in which protocols are registered. -/
  table : String
  /-- Whether protocols without an id are described in comments. -/
  stubs : Bool
  /-- The namespaces to generate; none means all. -/
  only : List String

/-- All namespaces, with comments on protocols without an id. -/
def Settings.default : Settings := ⟨defaultTable, true, []⟩

/-- The script of a namespace. -/
structure Module where
  space : String
  statements : List Statement
  diagnostics : List Diagnostic

/-- The first line of a module: fields that the parent dissector passes in. -/
def header : String := "local method_id_field, is_request_field, is_success_field = ..."

/-- The end of the names of module files. The parent dissector loads them itself. -/
def extension : String := "lua.noload"

namespace Module

/-- The blocks of a module as text. -/
def body (m : Module) : String := (writeAll m.statements Writer.empty).text

/-- The complete text of a module. -/
def source (m : Module) : String := s!"\n{header}\n{m.body}"

/-- The name of the file of a module. -/
def fileName (m : Module) : String := s!"{m.space}.{extension}"

/-- The block of a protocol in the namespace at place `view`. -/
def ofProtocol (r : Registry) (settings : Settings) (view : Nat) (space : String)
    (p : Protocol) : List Statement × List Diagnostic :=
  match p.id with
  | some id =>
    let l := ProtocolLayout.build r view p
    (protocolBlock space settings.table p id l ++ [.blank], l.diagnostics space p.name)
  | none => (if settings.stubs then stub space p ++ [.blank] else [], [])

/-- The module of the namespace at place `view`. -/
def ofNamespace (r : Registry) (settings : Settings) (view : Nat) (n : Namespace) : Module :=
  let blocks := n.protocols.map (ofProtocol r settings view n.name)
  ⟨n.name, blocks.flatMap fun b => b.1, blocks.flatMap fun b => b.2⟩

end Module

/-- Why nothing is generated. -/
inductive GenerateError where
  /-- A namespace to generate is not there. -/
  | unknownNamespace (name : String)
  /-- The document is refused. -/
  | document (error : Document.DocumentError)
deriving DecidableEq

/-- The text of a generation error. -/
def GenerateError.message : GenerateError → String
  | .unknownNamespace name => s!"unknown namespace '{name}'"
  | .document error => s!"schema parse error: {error.message}"

/-- The modules of a registry in document order. -/
def generate (r : Registry) (settings : Settings) : Except GenerateError (List Module) :=
  match settings.only.find? fun name => (r.find? name).isNone with
  | some missing => .error (.unknownNamespace missing)
  | none =>
    let selected := r.namespaces.zipIdx.filter fun n =>
      settings.only.isEmpty || settings.only.contains n.1.name
    .ok (selected.map fun n => Module.ofNamespace r settings n.2 n.1)

/-- The modules of a document given as JSON text. -/
def generateText (text : String) : Except GenerateError (List Module) :=
  match Document.parse text with
  | .error e => .error (.document e)
  | .ok r => generate r .default

/-- All modules in one text with a single header. -/
def singleSource (modules : List Module) : String :=
  s!"\n{header}\n" ++ String.join (modules.map fun m => s!"\n-- namespace {m.space}\n{m.body}")

end Dissect.Script
