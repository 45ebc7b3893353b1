import Dissect.Text.Utf8
import Dissect.Wire.Error

/-!
# Payload bytes

A captured payload and what its bytes stand for: little-endian numbers, two's complement, and
text that ends at the first zero byte.
-/

set_option autoImplicit false

namespace Dissect.Wire

/-- The bytes of a payload. -/
abbrev Buffer := Array UInt8

/-- Addresses are 64 bits wide. -/
def addressLimit : Nat := Nat.pow 2 64

/-- The number that bytes spell, least significant byte first. -/
def littleEndian : List UInt8 → Nat
  | [] => 0
  | b :: rest => b.toNat + 256 * littleEndian rest

/-- The number that `n` stands for in two's complement of the given number of bytes. -/
def twosComplement (bytes n : Nat) : Int :=
  if 2 * n < Nat.pow 256 bytes then n else (n : Int) - Nat.pow 256 bytes

/-- The text that bytes spell: it ends before the first zero byte. -/
def textOf (bytes : List UInt8) : String :=
  Text.Utf8.read (bytes.takeWhile (· ≠ 0))

namespace Buffer

/-- The `length` bytes at an offset. -/
def slice (b : Buffer) (offset length : Nat) : Except DecodeError (List UInt8) :=
  if addressLimit ≤ offset + length then .error (.offsetOutOfBounds offset b.size)
  else if b.size < offset + length then .error (.bufferTooShort (offset + length) b.size)
  else .ok (b.extract offset (offset + length)).toList

/-- Whether there are `length` bytes at an offset. -/
def checkRange (b : Buffer) (offset length : Nat) : Except DecodeError Unit :=
  (b.slice offset length).map fun _ => ()

/-- The number spelled by the bytes at an offset. -/
def unsigned (b : Buffer) (offset bytes : Nat) : Except DecodeError Nat :=
  (b.slice offset bytes).map littleEndian

/-- The number spelled in two's complement by the bytes at an offset. -/
def signed (b : Buffer) (offset bytes : Nat) : Except DecodeError Int :=
  (b.unsigned offset bytes).map (twosComplement bytes)

/-- The text spelled by the bytes at an offset. -/
def text (b : Buffer) (offset length : Nat) : Except DecodeError String :=
  (b.slice offset length).map textOf

end Buffer

/-- The width of the length in front of a string. -/
def lengthWidth : Nat := 2

/-- The width of the count in front of a sequence. -/
def countWidth : Nat := 4

/-- The length in front of a string. -/
def Buffer.lengthPrefix (b : Buffer) (offset : Nat) : Except DecodeError Nat :=
  b.unsigned offset lengthWidth

/-- The count in front of a sequence. -/
def Buffer.countPrefix (b : Buffer) (offset : Nat) : Except DecodeError Nat :=
  b.unsigned offset countWidth

end Dissect.Wire
