import Dissect.Document.Syntax
import Dissect.Json.Basic

/-!
# Reading documents

From JSON values to documents. A record is an object with known keys or an array of its fields in
order; an element is an object with one member, whose key is its kind. Containers that are read
may nest only so deep. What is skipped, the contents of unread elements and members with unknown
keys, may be any JSON, but a type is read with all that it holds.
-/

set_option autoImplicit false

namespace Dissect.Document

open Json (Value)

/-- How deep containers may nest. -/
def nestingLimit : Nat := 127

/-- A text. -/
def readText : Value → Option String
  | .string text => text
  | _ => none

/-- A value that may be null. -/
def readNullable {α : Type} (read : Value → Option α) : Value → Option (Option α)
  | .null => some none
  | v => (read v).map some

/-- A field that may be null or missing. -/
def readOptional {α : Type} (read : Value → Option α) : Option Value → Option (Option α)
  | none => some none
  | some v => readNullable read v

/-- A natural number below a limit. -/
def readBelow (limit : Nat) : Value → Option Nat
  | .number n =>
    match n.natural? with
    | some k => if k < limit then some k else none
    | none => none
  | _ => none

/-- The value of the one member whose key is among `names`; a second one is an error. -/
def memberOf (members : List (String × Value)) (names : List String) : Option (Option Value) :=
  match members.filter fun m => names.contains m.1 with
  | [] => some none
  | [m] => some (some m.2)
  | _ => none

/-- The members of an object, all of whose keys have to denote texts. -/
def namedMembers (members : List (Option String × Value)) : Option (List (String × Value)) :=
  members.mapM fun m => m.1.map fun key => (key, m.2)

/-- The fields of a record, each known under one or more names. Fields may be missing. -/
def recordFields (fields : List (List String)) : Value → Option (List (Option Value))
  | .array items =>
    if items.length ≤ fields.length then
      some (items.map some ++ List.replicate (fields.length - items.length) none)
    else none
  | .object members => do
    let members ← namedMembers members
    fields.mapM (memberOf members)
  | _ => none

/-! ## Types -/

/-- Whether a value can be read with all that it holds: containers nest at most `depth` deep, all
strings denote texts and all numbers are in range. -/
def isReadable : Nat → Value → Bool
  | _, .null => true
  | _, .bool _ => true
  | _, .number n => n.inRange
  | _, .string text => text.isSome
  | depth + 1, .array items => items.all (isReadable depth)
  | depth + 1, .object members => members.all fun m => m.1.isSome && isReadable depth m.2
  | 0, .array _ => false
  | 0, .object _ => false

/-- A type; its parameters nest at most `depth` deep. -/
def readVariant : Nat → Value → Option TypeVariant
  | depth + 1, .object [(some kind, payload)] =>
    match kind with
    | "Simple" => (readText payload).map .simple
    | "Class" => (readText payload).map .classRef
    | "DOClass" => (readText payload).map .distributedObject
    | "Dataset" => (readText payload).map .dataset
    | "Template" =>
      match recordFields [["name"], ["template_name"], ["parameters"]] payload with
      | some [name, some template, parameters] => do
        let name ← readOptional readText name
        let template ← readText template
        let parameters ←
          match parameters with
          | none => some []
          | some (.array items) => items.mapM (readVariant depth)
          | some _ => none
        some (.template name template parameters)
      | _ => none
    | _ => none
  | _, _ => none

/-- A type that is wrapped: an object, not an array, with the type under the key `ty`. -/
def readWrapped (depth : Nat) : Value → Option TypeDescriptor
  | .object members =>
    match recordFields [["ty"], ["unknown"]] (.object members) with
    | some [some type, unknown] => do
      let type ← readVariant depth type
      let unknown ←
        match unknown with
        | none => some 0
        | some v => readBelow (Nat.pow 2 32) v
      some (.wrapped type (UInt32.ofNat unknown))
    | _ => none
  | _ => none

/-- A type, wrapped or bare, in which containers nest at most `depth` deep. -/
def readType (depth : Nat) (v : Value) : Option TypeDescriptor :=
  if isReadable depth v then
    match readWrapped depth v with
    | some type => some type
    | none => (readVariant depth v).map .bare
  else none

/-! ## Elements -/

/-- An element, in which containers nest at most `depth` deep. -/
def readElement : Nat → Value → Option Element
  | depth + 1, .object [(some kind, payload)] =>
    match UnreadKind.ofName? kind with
    | some unread => some (.unread unread)
    | none =>
      match depth with
      | 0 => none
      | depth + 1 =>
        let elements : Option Value → Option (List Element)
          | none => some []
          | some (.array items) =>
            match depth with
            | 0 => none
            | depth + 1 => items.mapM (readElement depth)
          | some _ => none
        match kind with
        | "DDLUnitDeclaration" =>
          match recordFields [["name1"]] payload with
          | some [some name] => (readText name).map .unitDeclaration
          | _ => none
        | "ClassDeclaration" =>
          match recordFields [["name1"], ["namespace"], ["base", "maybe_base"], ["variables"]]
            payload with
          | some [some name, space, base, vars] => do
            let name ← readText name
            let space ← readOptional readText space
            let base ← readOptional readText base
            let vars ← elements vars
            some (.classDeclaration name space base vars)
          | _ => none
        | "ProtocolDeclaration" =>
          match recordFields [["name1"], ["namespace"], ["id"], ["methods"]] payload with
          | some [some name, space, id, methods] => do
            let name ← readText name
            let space ← readOptional readText space
            let id ← readOptional (readBelow (Nat.pow 2 16)) id
            let methods ← elements methods
            some (.protocolDeclaration name space (id.map UInt16.ofNat) methods)
          | _ => none
        | "Method" =>
          match recordFields [["name1"], ["elements1"]] payload with
          | some [some name, parts] => do
            let name ← readText name
            let parts ← elements parts
            some (.method name parts)
          | _ => none
        | "Parameter" =>
          match recordFields [["name1"], ["dtype1"], ["ty"]] payload with
          | some [some name, some type, some direction] => do
            let name ← readText name
            let type ← readType depth type
            let direction ← readText direction
            some (.parameter name type direction)
          | _ => none
        | "ReturnValue" =>
          match recordFields [["dtype1"]] payload with
          | some [some type] => (readType depth type).map .returnValue
          | _ => none
        | "Variable" =>
          match recordFields [["name1"], ["ty"]] payload with
          | some [some name, some type] => do
            let name ← readText name
            let type ← readType depth type
            some (.fieldVariable name type)
          | _ => none
        | _ => none
  | _, _ => none

/-- A unit, in whose elements containers nest at most `depth` deep. -/
def readUnit (depth : Nat) (v : Value) : Option DocumentUnit :=
  match recordFields [["elements"]] v with
  | some [some (.array items)] => (items.mapM (readElement depth)).map .mk
  | _ => none

/-- A document: the units, the record of a unit and the list of its elements are the three
outermost levels of nesting. -/
def readUnits : Value → Option (List DocumentUnit)
  | .array units => units.mapM (readUnit (nestingLimit - 3))
  | _ => none

/-- The units of a document given as JSON text. -/
def unitsOfText? (text : String) : Option (List DocumentUnit) :=
  match Json.parse? text with
  | some v => readUnits v
  | none => none

/-- The type descriptor given as JSON text. -/
def typeOfText? (text : String) : Option TypeDescriptor :=
  match Json.parse? text with
  | some v => readType nestingLimit v
  | none => none

end Dissect.Document
