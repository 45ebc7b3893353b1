/-!
# Scalar types

The types that values have on the wire, their names in schema documents, and how many bytes they
take.
-/

set_option autoImplicit false

namespace Dissect.Wire

/-- The type of a value on the wire. -/
inductive Scalar where
  | bool | byte | uint8 | int8 | uint16 | int16 | uint32 | int32 | uint64 | int64
  | double | dateTime | variant | string | stationUrl | qresult | buffer
deriving DecidableEq

/-- How many bytes a value takes. -/
inductive Width where
  /-- Always the same number. -/
  | fixed (bytes : Nat)
  /-- A length in front tells. -/
  | lengthPrefixed
  /-- The value is not on the wire. -/
  | unwrapped
deriving DecidableEq

namespace Scalar

/-- All scalar types in table order. -/
def all : List Scalar :=
  [.bool, .byte, .uint8, .int8, .uint16, .int16, .uint32, .int32, .uint64, .int64,
    .double, .dateTime, .variant, .string, .stationUrl, .qresult, .buffer]

/-- The name of a scalar type in schema documents. -/
def name : Scalar → String
  | .bool => "bool"
  | .byte => "byte"
  | .uint8 => "uint8"
  | .int8 => "int8"
  | .uint16 => "uint16"
  | .int16 => "int16"
  | .uint32 => "uint32"
  | .int32 => "int32"
  | .uint64 => "uint64"
  | .int64 => "int64"
  | .double => "double"
  | .dateTime => "datetime"
  | .variant => "variant"
  | .string => "string"
  | .stationUrl => "stationurl"
  | .qresult => "qresult"
  | .buffer => "buffer"

/-- The scalar type of a name. -/
def ofName? (name : String) : Option Scalar :=
  all.find? fun s => s.name = name

/-- The place of a scalar type in the table. -/
def index (s : Scalar) : Nat := all.idxOf s

/-- How many bytes a value of the type takes. -/
def width : Scalar → Width
  | .bool | .byte | .uint8 | .int8 => .fixed 1
  | .uint16 | .int16 => .fixed 2
  | .uint32 | .int32 | .dateTime | .qresult => .fixed 4
  | .uint64 | .int64 | .double => .fixed 8
  | .string | .stationUrl | .buffer => .lengthPrefixed
  | .variant => .unwrapped

/-- Whether a length stands in front of a value of the type. -/
def isPrefixed (s : Scalar) : Bool := s.width = .lengthPrefixed

end Scalar

end Dissect.Wire
