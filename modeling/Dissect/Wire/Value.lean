import Dissect.Decimal.Positional
import Dissect.Text.Quoted
import Dissect.Wire.Buffer
import Dissect.Wire.Scalar

/-!
# Decoded values

What the bytes of a scalar stand for, and how a value is shown.
-/

set_option autoImplicit false

namespace Dissect.Wire

/-- A decoded value. -/
inductive Value where
  | bool (value : Bool)
  | unsigned (value : Nat)
  | signed (value : Int)
  /-- A double, by its bits. -/
  | double (bits : UInt64)
  /-- A packed date and time, not unpacked. -/
  | dateTime (packed : Nat)
  /-- A result code. -/
  | result (code : Nat)
  | text (value : String)
  | bytes (value : List UInt8)
deriving DecidableEq

/-- The result code of success. -/
def successCode : Nat := 0x10001

/-- The value that the bytes of a scalar stand for. -/
def Scalar.value (s : Scalar) (bytes : List UInt8) : Value :=
  match s with
  | .bool => .bool (littleEndian bytes ≠ 0)
  | .byte | .uint8 | .uint16 | .uint32 | .uint64 => .unsigned (littleEndian bytes)
  | .int8 | .int16 | .int32 | .int64 =>
    .signed (twosComplement bytes.length (littleEndian bytes))
  | .double => .double (UInt64.ofNat (littleEndian bytes))
  | .dateTime => .dateTime (littleEndian bytes)
  | .qresult => .result (littleEndian bytes)
  | .string | .stationUrl => .text (textOf bytes)
  | .buffer | .variant => .bytes bytes

/-- A number in hexadecimal, filled up with zeros to the given number of digits. -/
def paddedHex (digits n : Nat) : String :=
  let hex := Text.hexDigits n
  String.ofList (List.replicate (digits - hex.length) '0' ++ hex)

/-- Bytes in hexadecimal, two digits each. -/
def hexText (bytes : List UInt8) : String :=
  String.join (bytes.map fun b => paddedHex 2 b.toNat)

/-- How a value is shown. -/
def Value.render : Value → String
  | .bool b => if b then "true" else "false"
  | .unsigned n => toString n
  | .signed n => toString n
  | .double bits => (Decimal.Double.ofBits bits).text
  | .dateTime n => "datetime(0x" ++ paddedHex 8 n ++ ")"
  | .result n => if n = successCode then "Ok" else "0x" ++ paddedHex 1 n
  | .text s => Text.quoted s
  | .bytes bs => hexText bs

end Dissect.Wire
