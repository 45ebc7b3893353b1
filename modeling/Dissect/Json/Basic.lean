import Dissect.Json.Token

/-!
# JSON values

A JSON text is one value. Values keep all that is written: every member of an object in order,
also repeated ones, numbers as they are spelled, and strings that denote no text. The tokens are
read by a machine that keeps the containers still open on a stack, so nesting has no limit here.
-/

set_option autoImplicit false

namespace Dissect.Json

/-- A JSON value. -/
inductive Value where
  | null
  | bool (value : Bool)
  | number (value : Number)
  | string (text : Option String)
  | array (items : List Value)
  | object (members : List (Option String × Value))

/-- A container still open, with what has been read of it, the latest first. In an object the key
of the value that comes next has been read. -/
inductive Frame where
  | array (items : List Value)
  | object (members : List (Option String × Value)) (key : Option String)

/-- What the reader waits for, and the containers open around it, the innermost first. -/
inductive State where
  /-- A value. -/
  | value (around : List Frame)
  /-- The first item of an array, or its end. -/
  | firstItem (around : List Frame)
  /-- The first key of an object, or its end. -/
  | firstKey (around : List Frame)
  /-- A further key of an object. -/
  | key (members : List (Option String × Value)) (around : List Frame)
  /-- The colon after a key. -/
  | colon (members : List (Option String × Value)) (key : Option String) (around : List Frame)
  /-- What follows a value: more of the innermost container, or its end. -/
  | after (value : Value) (around : List Frame)

/-- Begins a value. -/
def beginValue (around : List Frame) : Token → Option State
  | .null => some (.after .null around)
  | .bool b => some (.after (.bool b) around)
  | .number n => some (.after (.number n) around)
  | .string s => some (.after (.string s) around)
  | .openArray => some (.firstItem around)
  | .openObject => some (.firstKey around)
  | _ => none

/-- Reads one token. -/
def State.step : State → Token → Option State
  | .value around, t => beginValue around t
  | .firstItem around, .closeArray => some (.after (.array []) around)
  | .firstItem around, t => beginValue (.array [] :: around) t
  | .firstKey around, .closeObject => some (.after (.object []) around)
  | .firstKey around, .string k => some (.colon [] k around)
  | .key members around, .string k => some (.colon members k around)
  | .colon members k around, .colon => some (.value (.object members k :: around))
  | .after v (.array items :: around), .comma => some (.value (.array (v :: items) :: around))
  | .after v (.array items :: around), .closeArray =>
    some (.after (.array (v :: items).reverse) around)
  | .after v (.object members k :: around), .comma => some (.key ((k, v) :: members) around)
  | .after v (.object members k :: around), .closeObject =>
    some (.after (.object ((k, v) :: members).reverse) around)
  | _, _ => none

/-- Reads tokens to their end, where one value has to be complete. -/
def State.run : State → List Token → Option Value
  | .after v [], [] => some v
  | _, [] => none
  | s, t :: rest =>
    match s.step t with
    | none => none
    | some s => s.run rest

/-- The value that a JSON text spells. -/
def parse? (text : String) : Option Value :=
  match tokens text.toList with
  | none => none
  | some ts => State.run (.value []) ts

end Dissect.Json
