import Dissect.Text.Blank
import Dissect.Text.Quoted

/-!
# Payloads in hexadecimal

A payload is given as hexadecimal digits, two a byte. Blanks and colons between them do not
count.
-/

set_option autoImplicit false

namespace Dissect.CommandLine

/-- Why digits spell no bytes. -/
inductive HexError where
  | oddLength
  /-- A byte of the text is no digit. -/
  | invalidDigit (byte : UInt8) (position : Nat)
deriving DecidableEq

/-- The text of an error in hexadecimal digits. -/
def HexError.message : HexError → String
  | .oddLength => "Odd number of digits"
  | .invalidDigit byte position =>
    s!"Invalid character {Text.quotedChar (Char.ofNat byte.toNat)} at position {position}"

/-- The value of a digit. -/
def hexDigit? (b : UInt8) : Option UInt8 :=
  if '0'.toUInt8 ≤ b && b ≤ '9'.toUInt8 then some (b - '0'.toUInt8)
  else if 'a'.toUInt8 ≤ b && b ≤ 'f'.toUInt8 then some (b - 'a'.toUInt8 + 10)
  else if 'A'.toUInt8 ≤ b && b ≤ 'F'.toUInt8 then some (b - 'A'.toUInt8 + 10)
  else none

/-- The bytes that pairs of digits spell, given the position of the first pair. -/
def hexPairs (position : Nat) : List UInt8 → Except HexError (List UInt8)
  | [] => .ok []
  | [_] => .error .oddLength
  | a :: b :: rest =>
    match hexDigit? a, hexDigit? b with
    | none, _ => .error (.invalidDigit a position)
    | _, none => .error (.invalidDigit b (position + 1))
    | some high, some low => (hexPairs (position + 2) rest).map ((high * 16 + low) :: ·)

/-- The bytes that digits spell. -/
def hexBytes (digits : List UInt8) : Except HexError (List UInt8) :=
  if digits.length % 2 = 1 then .error .oddLength else hexPairs 0 digits

/-- The bytes of a payload. -/
def payloadBytes (text : String) : Except HexError (List UInt8) :=
  let cleaned := text.toList.filter fun c => !Text.isBlank c && c ≠ ':'
  hexBytes (String.ofList cleaned).toUTF8.toList

end Dissect.CommandLine
