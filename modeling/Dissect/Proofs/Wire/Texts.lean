import Dissect.Proofs.Text.Utf8
import Dissect.Proofs.Wire.Grammar

/-!
# Texts on the wire

A string on the wire is a length and as many bytes, of which those in front of the first zero byte
spell its text. A text without the character zero is decoded as it was written, with or without a
zero byte and whatever else behind it, and what other bytes are decoded as is settled by those in
front of the first zero byte (`decodedAs_of_terminated`).
-/

set_option autoImplicit false

namespace Dissect.Wire

open Text.Utf8 (Reads bytesOf)

/-- The bytes end behind `before`, or go on with a zero byte there. -/
def Terminated (before bytes : List UInt8) : Prop :=
  bytes = before ∨ ∃ junk, bytes = before ++ 0 :: junk

/-- Wherever the bytes stand behind their length, strings and station addresses are decoded there as
the text, and the cursor comes to stand behind the bytes. -/
def DecodedAs (bytes : List UInt8) (text : String) : Prop :=
  ∀ type ∈ [Scalar.string, Scalar.stationUrl], ∀ b : Buffer, b.Addressable → ∀ p : Progress,
    b.HasAt p.cursor (spell lengthWidth bytes.length ++ bytes) → ∀ field,
      runAll b [.scalar field type] p =
        .finished ⟨p.cursor + lengthWidth + bytes.length,
          p.fields.push ⟨field, p.cursor + lengthWidth, bytes.length, .text text⟩⟩

/-- What stands in front of the first zero byte. -/
theorem takeWhile_of_terminated {before bytes : List UInt8} (plain : 0 ∉ before)
    (terminated : Terminated before bytes) : bytes.takeWhile (· ≠ 0) = before := by
  have nonzero : ∀ byte ∈ before, decide (byte ≠ 0) = true := by
    intro byte mem
    refine decide_eq_true fun zero => plain ?_
    rwa [← zero]
  have whole (rest : List UInt8) :
      (before ++ rest).takeWhile (· ≠ 0) = before ++ rest.takeWhile (· ≠ 0) :=
    List.takeWhile_append_of_pos nonzero
  rcases terminated with rfl | ⟨junk, rfl⟩
  · simpa using whole []
  · rw [whole, List.takeWhile_cons_of_neg (by simp), List.append_nil]

/-- Bytes of a length that can be written are decoded as what stands in front of the first zero byte
spells. -/
theorem decodedAs_textOf {bytes : List UInt8} (short : bytes.length ≤ 0xffff) :
    DecodedAs bytes (textOf bytes) := by
  intro type mem b fits p here field
  have width : type.width = .lengthPrefixed := by
    rcases List.mem_pair.1 mem with rfl | rfl <;> rfl
  have value : type.value bytes = .text (textOf bytes) := by
    rcases List.mem_pair.1 mem with rfl | rfl <;> rfl
  -- the bytes with their length are the only item
  let item : Item (.scalar field type) := .lengthPrefixed bytes width short
  have whole : b.HasAt p.cursor (Instance.cons item .nil).encode := by
    simpa [item, Instance.encode, Item.encode, lengthWidth] using here
  rw [Instance.run_eq_finished fits _ p whole, ← value, type.value_eq_meaning]
  simp [item, Progress.past, Instance.encode, Instance.fields, Item.encode, Item.fields,
    lengthWidth, Nat.add_assoc]

/-- A text without the character zero is decoded as it is from its bytes, alone or with a zero byte
and anything behind it. Any bytes without a zero are decoded as the text that they are read as, with
a replacement for every broken part, and a zero byte and anything behind it changes nothing. -/
theorem decodedAs_of_terminated :
    (∀ text : String, '\x00' ∉ text.toList → ∀ bytes, Terminated (bytesOf text) bytes →
      bytes.length ≤ 65535 → DecodedAs bytes text) ∧
    ∀ before : List UInt8, 0 ∉ before → ∃ text : String, Reads before text.toList ∧
      ∀ bytes, Terminated before bytes → bytes.length ≤ 65535 → DecodedAs bytes text := by
  constructor
  · intro text plain bytes terminated short
    have decoded := decodedAs_textOf short
    rwa [textOf, takeWhile_of_terminated (Text.Utf8.zero_not_mem_bytesOf plain) terminated,
      Text.Utf8.read_bytesOf] at decoded
  · intro before plain
    refine ⟨Text.Utf8.read before, ?_, ?_⟩
    · rw [Text.Utf8.read, String.toList_ofList]
      exact Text.Utf8.reads_iff.2 rfl
    · intro bytes terminated short
      have decoded := decodedAs_textOf short
      rwa [textOf, takeWhile_of_terminated plain terminated] at decoded

namespace Greeting

/-- Characters of one to four bytes. -/
def text : String := "aé€😀"

/-- The bytes of the text with a zero byte behind them, and the first half of a character. -/
def bytes : List UInt8 := [97, 195, 169, 226, 130, 172, 240, 159, 152, 128, 0, 195]

/-- One byte in front of the string. -/
def payload : Buffer := #[7, 12, 0, 97, 195, 169, 226, 130, 172, 240, 159, 152, 128, 0, 195]

/-- Half a character in front of a complete one. -/
def cut : List UInt8 := [226, 130, 97]

theorem bytesOf_text : bytesOf text = [97, 195, 169, 226, 130, 172, 240, 159, 152, 128] := by
  rw [Text.Utf8.bytesOf_eq_flatMap]
  rfl

/-- The text is decoded from the middle of the payload, and half a character as one replacement. -/
theorem decoded_greeting :
    runAll payload [.scalar "text" .string] ⟨1, #[]⟩ =
        .finished ⟨15, #[⟨"text", 3, 12, .text "aé€😀"⟩]⟩ ∧
      DecodedAs cut "\uFFFDa" := by
  obtain ⟨texts, all⟩ := decodedAs_of_terminated
  constructor
  · refine texts text (by decide) bytes (.inr ⟨[195], ?_⟩) (by decide) .string (by simp) payload
      (by decide) ⟨1, #[]⟩ ⟨by decide, by decide⟩ "text"
    rw [bytesOf_text]
    rfl
  · obtain ⟨s, reads, decoded⟩ := all cut (by decide)
    have chars : s.toList = "\uFFFDa".toList := Text.Utf8.reads_iff.1 reads
    rw [← String.toList_inj.1 chars]
    exact decoded cut (.inl rfl) (by decide)

end Greeting

end Dissect.Wire
