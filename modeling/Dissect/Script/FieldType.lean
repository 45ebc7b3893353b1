import Dissect.Wire.Value

/-!
# Field types of the analyser

How Wireshark is told about a scalar: the type of its field, how its bytes are encoded, and
further arguments of its declaration.
-/

set_option autoImplicit false

namespace Dissect.Script

open Wire (Scalar)

/-- The field type of a scalar. -/
def fieldType : Scalar → String
  | .bool => "ftypes.BOOLEAN"
  | .byte | .uint8 => "ftypes.UINT8"
  | .int8 => "ftypes.INT8"
  | .uint16 => "ftypes.UINT16"
  | .int16 => "ftypes.INT16"
  | .uint32 | .qresult => "ftypes.UINT32"
  | .int32 => "ftypes.INT32"
  | .uint64 => "ftypes.UINT64"
  | .int64 => "ftypes.INT64"
  | .double => "ftypes.DOUBLE"
  | .dateTime => "ftypes.ABSOLUTE_TIME"
  | .variant => "ftypes.NONE"
  | .string | .stationUrl | .buffer => "ftypes.STRINGZ"

/-- How the bytes of a scalar are encoded, if it is on the wire. -/
def encoding? : Scalar → Option String
  | .variant => none
  | .string | .stationUrl | .buffer => some "ENC_STRING + ENC_ASCII"
  | _ => some "ENC_LITTLE_ENDIAN"

/-- Further arguments of the declaration of a scalar. Result codes are shown in hexadecimal, with
the code of success by name. -/
def extraArguments : Scalar → String
  | .qresult => ", \x7b[0x" ++ Wire.paddedHex 1 Wire.successCode ++ "] = \"Ok\"\x7d, base.HEX"
  | _ => ""

end Dissect.Script
