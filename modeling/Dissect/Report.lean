import Dissect.Layout.Builder
import Dissect.Wire.Decoder

/-!
# Inspection reports

A captured payload decoded with the layout of its method.
-/

set_option autoImplicit false

namespace Dissect

open Layout (Builder Diagnostic)
open Schema
open Wire (Buffer DecodeError DecodedField)

/-- Why a payload cannot be inspected. -/
inductive Report.InspectError where
  | protocolNotFound (name : String)
  | ambiguousProtocol (name : String) (namespaces : List String)
  | methodNotFound (protocol : String) (method : Nat)
  | decode (error : DecodeError)
deriving DecidableEq

/-- The text of an inspection error. -/
def Report.InspectError.message : Report.InspectError → String
  | .protocolNotFound name => s!"protocol '{name}' not found"
  | .ambiguousProtocol name namespaces =>
    s!"protocol '{name}' is declared in " ++ ", ".intercalate namespaces
      ++ "; qualify it as Namespace::Protocol"
  | .methodNotFound protocol method => s!"protocol '{protocol}' has no method {method}"
  | .decode error => s!"decode failed: {error.message}"

/-- What a payload holds. -/
structure Report where
  /-- The protocol and the method. -/
  title : String
  fields : List DecodedField
  /-- The bytes that the layout takes. -/
  consumed : Nat
  /-- The bytes behind them. -/
  trailing : Nat
  diagnostics : List Diagnostic

namespace Report

/-- A text with spaces in front, at least `width` characters long. -/
def padLeft (width : Nat) (text : String) : String :=
  String.ofList (List.replicate (width - text.length) ' ') ++ text

/-- The line of a field. -/
def fieldLine (f : DecodedField) : String :=
  s!"  {padLeft 6 (toString f.offset)}  {padLeft 5 (toString f.length)}"
    ++ s!"  {f.field}  {f.value.render}\n"

/-- The text of a report. -/
def text (r : Report) : String :=
  s!"{r.title}\n" ++ String.join (r.fields.map fieldLine) ++ s!"consumed {r.consumed} bytes"
    ++ (if 0 < r.trailing then s!", {r.trailing} trailing" else "")

/-- Splits a name at the first double colon, given what stands in front so far. -/
def splitQualified (front : List Char) : List Char → Option (List Char × List Char)
  | ':' :: ':' :: rest => some (front, rest)
  | c :: rest => splitQualified (front ++ [c]) rest
  | [] => none

/-- The namespace that a name is qualified with, if it is, and the name itself. -/
def qualification (name : String) : Option String × String :=
  match splitQualified [] name.toList with
  | some (space, rest) => (some (String.ofList space), String.ofList rest)
  | none => (none, name)

/-- The protocol of a name, possibly qualified, with its namespace and the place of that. -/
def findProtocol (r : Registry) (given : String) :
    Except InspectError (Nat × Namespace × Protocol) :=
  let (space, name) := qualification given
  let found := r.namespaces.zipIdx.filterMap fun n =>
    if space.all fun s => s = n.1.name then (n.1.protocol? name).map fun p => (n.2, n.1, p)
    else none
  match found with
  | [one] => .ok one
  | [] => .error (.protocolNotFound given)
  | many => .error (.ambiguousProtocol given (many.map fun f => f.2.1.name))

/-- Decodes a payload with a layout. -/
def reading (title : String) (layout : Layout) (payload : Buffer) : Except InspectError Report :=
  match Wire.decodePayload layout.instructions payload with
  | .error e => .error (.decode e)
  | .ok (fields, consumed) =>
    .ok ⟨title, fields.toList, consumed, payload.size - consumed, layout.diagnostics⟩

/-- Decodes the payload of a message. -/
def inspect (r : Registry) (protocol : String) (method : Nat) (direction : Direction)
    (payload : Buffer) : Except InspectError Report :=
  match findProtocol r protocol with
  | .error e => .error e
  | .ok (view, _, p) =>
    match p.method? method with
    | none => .error (.methodNotFound p.name method)
    | some m =>
      reading s!"{p.name}.{m.name}" ((Builder.start r view p.name).methodLayout m direction).1
        payload

/-- An inspection looks a method up by its id and reads with the layout that a new builder gives. -/
theorem inspect_eq {r : Registry} {given : String} {view : Nat} {n : Namespace} {p : Protocol}
    (found : findProtocol r given = .ok (view, n, p)) (k : Nat) (d : Direction) (payload : Buffer) :
    inspect r given k d payload =
      match p.method? k with
      | none => .error (.methodNotFound p.name k)
      | some m => reading s!"{p.name}.{m.name}" ((Builder.start r view p.name).methodLayout m d).1
        payload := by
  rw [inspect, found]

end Report

end Dissect
