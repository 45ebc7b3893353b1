/-!
# Reading UTF-8 with replacement

Bytes are read as UTF-8. Each maximal part that cannot be continued to a character becomes one
replacement character, and reading goes on with the byte that broke it. The reader is a machine
with one state: nothing under way, or a character of which some bytes have been read.
-/

set_option autoImplicit false

namespace Dissect.Text.Utf8

/-- What stands for bytes that spell no character. -/
def replacement : Char := Char.ofNat 0xFFFD

/-- A character under way: the bits read so far, how many bytes follow the next one, and the
range in which the next one has to lie. -/
structure Pending where
  bits : Nat
  after : Nat
  least : Nat
  greatest : Nat

/-- Whether a byte continues the character under way. -/
def Pending.accepts (p : Pending) (b : UInt8) : Bool :=
  p.least ≤ b.toNat && b.toNat ≤ p.greatest

/-- The bits of the character under way, with those of one more byte. -/
def Pending.extended (p : Pending) (b : UInt8) : Nat :=
  p.bits * 64 + (b.toNat - 0x80)

/-- What a byte begins: a character of its own, a longer one, or nothing. Second bytes are
restricted where a longer form, a surrogate or a value beyond the last character would follow. -/
def start (b : UInt8) : List Char × Option Pending :=
  let n := b.toNat
  if n < 0x80 then ([Char.ofNat n], none)
  else if n < 0xC2 then ([replacement], none)
  else if n < 0xE0 then ([], some ⟨n - 0xC0, 0, 0x80, 0xBF⟩)
  else if n = 0xE0 then ([], some ⟨0, 1, 0xA0, 0xBF⟩)
  else if n = 0xED then ([], some ⟨0xD, 1, 0x80, 0x9F⟩)
  else if n < 0xF0 then ([], some ⟨n - 0xE0, 1, 0x80, 0xBF⟩)
  else if n = 0xF0 then ([], some ⟨0, 2, 0x90, 0xBF⟩)
  else if n < 0xF4 then ([], some ⟨n - 0xF0, 2, 0x80, 0xBF⟩)
  else if n = 0xF4 then ([], some ⟨4, 2, 0x80, 0x8F⟩)
  else ([replacement], none)

/-- Reads bytes, given the character under way. -/
def readFrom : Option Pending → List UInt8 → List Char
  | none, [] => []
  | some _, [] => [replacement]
  | none, b :: rest =>
    let (chars, next) := start b
    chars ++ readFrom next rest
  | some p, b :: rest =>
    if p.accepts b then
      match p.after with
      | 0 => Char.ofNat (p.extended b) :: readFrom none rest
      | n + 1 => readFrom (some ⟨p.extended b, n, 0x80, 0xBF⟩) rest
    else
      let (chars, next) := start b
      replacement :: (chars ++ readFrom next rest)

/-- Reads bytes as UTF-8, one replacement character for each maximal invalid part. -/
def read (bytes : List UInt8) : String := String.ofList (readFrom none bytes)

end Dissect.Text.Utf8
