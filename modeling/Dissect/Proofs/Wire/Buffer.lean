import Dissect.Wire.Buffer
import Mathlib.Data.Nat.Digits.Lemmas

/-!
# Reading payload bytes

A slice of a payload that fits in memory is there exactly when it ends within the payload, and a
slice that is not there fails because the payload is too short. Little-endian numbers are read in
base 256, and writing them in a fixed number of bytes is inverse to reading.
-/

set_option autoImplicit false

namespace Dissect.Wire

/-- The payload fits in memory, where objects have fewer than 2^63 bytes. -/
def Buffer.Addressable (b : Buffer) : Prop := b.size < Nat.pow 2 63

instance (b : Buffer) : Decidable b.Addressable := inferInstanceAs (Decidable (_ < _))

namespace Buffer

variable {b : Buffer}

/-- Bytes that end within the payload can be read. -/
theorem slice_of_le (fits : b.Addressable) {offset length : Nat}
    (within : offset + length ≤ b.size) :
    b.slice offset length = .ok ((b.toList.drop offset).take length) := by
  have address : offset + length < addressLimit := by
    have limit : Nat.pow 2 63 < addressLimit := by decide
    exact Nat.lt_trans (Nat.lt_of_le_of_lt within fits) limit
  unfold slice
  rw [if_neg (Nat.not_le.2 address), if_neg (Nat.not_lt.2 within)]
  simp [List.extract_eq_take_drop]

/-- Bytes that run past the end of the payload are missing. -/
theorem slice_of_lt (fits : b.Addressable) {offset length : Nat} (start : offset ≤ b.size)
    (short : length < Nat.pow 2 63) (past : b.size < offset + length) :
    b.slice offset length = .error (.bufferTooShort (offset + length) b.size) := by
  have address : offset + length < addressLimit := by
    have limit : Nat.pow 2 63 + Nat.pow 2 63 = addressLimit := by decide
    have start' : offset < Nat.pow 2 63 := Nat.lt_of_le_of_lt start fits
    omega
  unfold slice
  rw [if_neg (Nat.not_le.2 address), if_pos past]

/-- Bytes that are read end within the payload. -/
theorem le_size_of_slice {offset length : Nat} {bytes : List UInt8}
    (read : b.slice offset length = .ok bytes) : offset + length ≤ b.size := by
  unfold slice at read
  split at read
  · cases read
  · split at read
    · cases read
    · omega

/-- Which bytes are read, and when. -/
theorem slice_eq_ok_iff (fits : b.Addressable) {offset length : Nat} {bytes : List UInt8} :
    b.slice offset length = .ok bytes ↔
      offset + length ≤ b.size ∧ bytes = (b.toList.drop offset).take length := by
  constructor
  · intro read
    have within := le_size_of_slice read
    rw [slice_of_le fits within] at read
    cases read
    exact ⟨within, rfl⟩
  · rintro ⟨within, rfl⟩
    exact slice_of_le fits within

theorem unsigned_of_le (fits : b.Addressable) {offset length : Nat}
    (within : offset + length ≤ b.size) :
    b.unsigned offset length = .ok (littleEndian ((b.toList.drop offset).take length)) := by
  rw [unsigned, slice_of_le fits within]
  rfl

theorem unsigned_of_lt (fits : b.Addressable) {offset length : Nat} (start : offset ≤ b.size)
    (short : length < Nat.pow 2 63) (past : b.size < offset + length) :
    b.unsigned offset length = .error (.bufferTooShort (offset + length) b.size) := by
  rw [unsigned, slice_of_lt fits start short past]
  rfl

end Buffer

/-- Reading little-endian is reading digits in base 256. -/
theorem littleEndian_eq_ofDigits (bytes : List UInt8) :
    littleEndian bytes = Nat.ofDigits 256 (bytes.map UInt8.toNat) := by
  induction bytes with
  | nil => rfl
  | cons byte rest ih =>
    rw [List.map_cons, Nat.ofDigits_cons, littleEndian, ih]

/-- A number read from bytes has no more digits than there are bytes. -/
theorem littleEndian_lt (bytes : List UInt8) : littleEndian bytes < 256 ^ bytes.length := by
  induction bytes with
  | nil => decide
  | cons byte rest ih =>
    have digit := byte.toNat_lt
    rw [littleEndian, List.length_cons, Nat.pow_succ]
    omega

/-! ## Writing numbers -/

/-- A number in the given number of bytes, least significant byte first. -/
def spell : Nat → Nat → List UInt8
  | 0, _ => []
  | width + 1, n => UInt8.ofNat n :: spell width (n / 256)

@[simp] theorem length_spell (width n : Nat) : (spell width n).length = width := by
  induction width generalizing n with
  | zero => rfl
  | succ width ih => simp [spell, ih]

/-- A number that fits is read back. -/
theorem littleEndian_spell {width n : Nat} (small : n < 256 ^ width) :
    littleEndian (spell width n) = n := by
  induction width generalizing n with
  | zero => simp at small; simp [spell, littleEndian, small]
  | succ width ih =>
    rw [Nat.pow_succ] at small
    rw [spell, littleEndian, ih (by omega), UInt8.toNat_ofNat']
    omega

/-- Bytes are what the number that they spell is written as. -/
theorem spell_littleEndian (bytes : List UInt8) :
    spell bytes.length (littleEndian bytes) = bytes := by
  induction bytes with
  | nil => rfl
  | cons byte rest ih =>
    have digit := byte.toNat_lt
    have quotient : (byte.toNat + 256 * littleEndian rest) / 256 = littleEndian rest := by omega
    have remainder : UInt8.ofNat (byte.toNat + 256 * littleEndian rest) = byte := by
      apply UInt8.toNat_inj.1
      rw [UInt8.toNat_ofNat']
      omega
    rw [List.length_cons, littleEndian, spell, quotient, remainder, ih]

/-- A number that fits is determined by the bytes that begin with it. -/
theorem spell_append_inj {width m n : Nat} {r s : List UInt8} (hm : m < 256 ^ width)
    (hn : n < 256 ^ width) (same : spell width m ++ r = spell width n ++ s) : m = n ∧ r = s := by
  obtain ⟨number, rest⟩ := List.append_inj same (by rw [length_spell, length_spell])
  exact ⟨by rw [← littleEndian_spell hm, number, littleEndian_spell hn], rest⟩

/-! ## Bytes at a place -/

namespace Buffer

/-- The given bytes stand in the payload at an offset. -/
def HasAt (b : Buffer) (offset : Nat) (bytes : List UInt8) : Prop :=
  offset + bytes.length ≤ b.size ∧ (b.toList.drop offset).take bytes.length = bytes

variable {b : Buffer}

theorem hasAt_nil_iff {offset : Nat} : b.HasAt offset [] ↔ offset ≤ b.size := by
  simp [HasAt]

theorem hasAt_append_iff {offset : Nat} {x y : List UInt8} :
    b.HasAt offset (x ++ y) ↔ b.HasAt offset x ∧ b.HasAt (offset + x.length) y := by
  unfold HasAt
  rw [List.length_append, List.take_add, List.drop_drop]
  constructor
  · rintro ⟨within, same⟩
    have lengths : ((b.toList.drop offset).take x.length).length = x.length := by
      simp
      omega
    obtain ⟨first, second⟩ := List.append_inj same lengths
    exact ⟨⟨by omega, first⟩, by omega, second⟩
  · rintro ⟨⟨-, first⟩, within, second⟩
    exact ⟨by omega, by rw [first, second]⟩

/-- Reading bytes, by what stands in the payload. -/
theorem slice_eq_ok_iff_hasAt (fits : b.Addressable) {offset length : Nat} {bytes : List UInt8} :
    b.slice offset length = .ok bytes ↔ b.HasAt offset bytes ∧ bytes.length = length := by
  rw [slice_eq_ok_iff fits]
  constructor
  · rintro ⟨within, rfl⟩
    have lengths : ((b.toList.drop offset).take length).length = length := by
      simp
      omega
    exact ⟨⟨by rw [lengths]; exact within, by rw [lengths]⟩, lengths⟩
  · rintro ⟨⟨within, same⟩, rfl⟩
    exact ⟨within, same.symm⟩

/-- Reading a number, by what stands in the payload. -/
theorem unsigned_eq_ok_iff_hasAt (fits : b.Addressable) {offset width n : Nat} :
    b.unsigned offset width = .ok n ↔ n < 256 ^ width ∧ b.HasAt offset (spell width n) := by
  constructor
  · intro read
    unfold unsigned at read
    cases found : b.slice offset width with
    | error e =>
      rw [found] at read
      cases read
    | ok bytes =>
      rw [found] at read
      cases read
      obtain ⟨here, rfl⟩ := (slice_eq_ok_iff_hasAt fits).1 found
      rw [spell_littleEndian]
      exact ⟨littleEndian_lt bytes, here⟩
  · rintro ⟨small, here⟩
    have found := (slice_eq_ok_iff_hasAt fits).2 ⟨here, length_spell width n⟩
    rw [unsigned, found]
    show Except.ok (littleEndian (spell width n)) = Except.ok n
    rw [littleEndian_spell small]

end Buffer

end Dissect.Wire
