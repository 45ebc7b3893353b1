import Dissect.Text.Utf8

/-!
# Reading UTF-8

What the reader makes of bytes, said without its states. Where the bytes begin with those of a
character, that is read; where they do not, the longest part that could still be the beginning of a
character is replaced, or a single byte (`Broken`). `Reads` says so for whole lists of bytes, in one
way only (`Reads.unique`), and the reader does what it says (`reads_readFrom`). A state of the
reader stands for the codes whose bytes begin with what has been read (`Pending.Behind`).

Bytes of a text are read as the text (`read_bytesOf`), and have no zero among them unless the text
has (`zero_not_mem_bytesOf`).
-/

set_option autoImplicit false

namespace Dissect.Text.Utf8

open String (utf8EncodeChar)

/-- The bytes of a text. -/
def bytesOf (text : String) : List UInt8 := text.toUTF8.data.toList

theorem bytesOf_eq_flatMap (text : String) : bytesOf text = text.toList.flatMap utf8EncodeChar := by
  have bytes : text.toUTF8 = text.toList.utf8Encode := by
    rw [String.toUTF8_eq_toByteArray, ← String.toByteArray_ofList, String.ofList_toList]
  rw [bytesOf, bytes, List.utf8Encode]
  simp

/-! ## Parts of characters -/

/-- The bytes are those of a character, or can be continued to such. -/
def Begins (part : List UInt8) : Prop := ∃ c, part <+: utf8EncodeChar c

/-- In front of `rest`, the bytes of `part` are the longest beginning of a character that does not
come to its end, or a single byte if there is none. -/
structure Broken (part rest : List UInt8) : Prop where
  nonempty : part ≠ []
  noChar : ∀ c, ¬ utf8EncodeChar c <+: part ++ rest
  begins : Begins part ∨ part.length = 1
  longest : ∀ longer, longer <+: part ++ rest → part.length < longer.length → ¬ Begins longer

/-- Bytes are read as characters, with one replacement for every broken part. -/
inductive Reads : List UInt8 → List Char → Prop
  | done : Reads [] []
  | char {c : Char} {rest : List UInt8} {cs : List Char} (behind : Reads rest cs) :
      Reads (utf8EncodeChar c ++ rest) (c :: cs)
  | replaced {part rest : List UInt8} {cs : List Char} (broken : Broken part rest)
      (behind : Reads rest cs) : Reads (part ++ rest) (replacement :: cs)

/-! ## The bytes of characters -/

/-- How the bytes of a character come from its code. -/
inductive Coded (code : Nat) : List UInt8 → Prop
  | one {a : UInt8} (value : a.toNat = code) (range : code < 0x80) : Coded code [a]
  | two {a b : UInt8} (first : a.toNat = 0xC0 + code / 64) (second : b.toNat = 0x80 + code % 64)
      (range : 0x80 ≤ code ∧ code < 0x800) : Coded code [a, b]
  | three {a b c : UInt8} (first : a.toNat = 0xE0 + code / 4096)
      (second : b.toNat = 0x80 + code / 64 % 64) (third : c.toNat = 0x80 + code % 64)
      (range : 0x800 ≤ code ∧ code < 0x10000) (char : code < 0xD800 ∨ 0xDFFF < code) :
      Coded code [a, b, c]
  | four {a b c d : UInt8} (first : a.toNat = 0xF0 + code / 262144)
      (second : b.toNat = 0x80 + code / 4096 % 64) (third : c.toNat = 0x80 + code / 64 % 64)
      (fourth : d.toNat = 0x80 + code % 64) (range : 0x10000 ≤ code ∧ code < 0x110000) :
      Coded code [a, b, c, d]

theorem coded_utf8EncodeChar (c : Char) : Coded c.toNat (utf8EncodeChar c) := by
  have range : c.toNat < 0xD800 ∨ 0xDFFF < c.toNat ∧ c.toNat < 0x110000 := c.valid
  unfold utf8EncodeChar
  simp only [show c.val.toNat = c.toNat from rfl]
  split
  · refine .one ?_ (by omega)
    rw [UInt8.toNat_ofNat']
    omega
  · split
    · refine .two ?_ ?_ (by omega) <;> rw [UInt8.toNat_ofNat'] <;> omega
    · split
      · refine .three ?_ ?_ ?_ (by omega) (by omega) <;> rw [UInt8.toNat_ofNat'] <;> omega
      · refine .four ?_ ?_ ?_ ?_ (by omega) <;> rw [UInt8.toNat_ofNat'] <;> omega

/-- What a byte counts that is followed by the given number of bytes of its character. -/
def weight : Nat → Nat
  | 0 => 1
  | after + 1 => 64 * weight after

/-- Bytes behind the first have six bits of the code each. -/
theorem Coded.toNat_later {code : Nat} {part rest : List UInt8} {b : UInt8}
    (coded : Coded code (part ++ b :: rest)) (later : part ≠ []) :
    b.toNat = 0x80 + code / weight rest.length % 64 := by
  have last : code / weight ([] : List UInt8).length = code := Nat.div_one code
  generalize all : part ++ b :: rest = bytes at coded
  cases coded with
  | one value range =>
    cases part with
    | nil => exact absurd rfl later
    | cons z part => simp at all
  | two first second range =>
    rcases part with _ | ⟨y, _ | ⟨z, part⟩⟩
    · exact absurd rfl later
    · cases all
      rwa [last]
    · simp at all
  | three first second third range char =>
    rcases part with _ | ⟨x, _ | ⟨y, _ | ⟨z, part⟩⟩⟩
    · exact absurd rfl later
    · cases all
      exact second
    · cases all
      rwa [last]
    · simp at all
  | four first second third fourth range =>
    rcases part with _ | ⟨w, _ | ⟨x, _ | ⟨y, _ | ⟨z, part⟩⟩⟩⟩
    · exact absurd rfl later
    · cases all
      exact second
    · cases all
      exact third
    · cases all
      rwa [last]
    · simp at all

/-- No character begins with another one. -/
theorem eq_of_prefix_utf8EncodeChar {c d : Char} (first : utf8EncodeChar c <+: utf8EncodeChar d) :
    c = d := by
  have coded := coded_utf8EncodeChar c
  have coded' := coded_utf8EncodeChar d
  apply Char.toNat_inj.1
  generalize utf8EncodeChar c = bytes at first coded
  generalize utf8EncodeChar d = bytes' at first coded'
  cases coded <;> cases coded' <;>
    simp only [List.cons_prefix_cons, List.nil_prefix, List.prefix_nil, and_true, and_false,
      List.cons_ne_nil, ← UInt8.toNat_inj] at first <;> omega

/-! ## States of the reader -/

namespace Pending

/-- A code has the bits read so far, and its next byte lies in the range. -/
structure Fits (p : Pending) (code : Nat) : Prop where
  bits : code / weight (p.after + 1) = p.bits
  least : p.least ≤ 0x80 + code / weight p.after % 64
  greatest : 0x80 + code / weight p.after % 64 ≤ p.greatest

/-- The state stands for the characters that begin with the bytes read. -/
structure Behind (p : Pending) (part : List UInt8) : Prop where
  nonempty : part ≠ []
  range : 0x80 ≤ p.least ∧ p.least ≤ p.greatest ∧ p.greatest ≤ 0xBF
  valid : ∀ code, p.Fits code → code.isValidChar
  prefix_iff : ∀ c : Char, part <+: utf8EncodeChar c ↔ p.Fits c.toNat
  length : ∀ c : Char, part <+: utf8EncodeChar c →
    (utf8EncodeChar c).length = part.length + p.after + 1

theorem fits_mk_iff {bits after least greatest code : Nat} :
    (Pending.mk bits after least greatest).Fits code ↔ code / weight (after + 1) = bits ∧
      least ≤ 0x80 + code / weight after % 64 ∧ 0x80 + code / weight after % 64 ≤ greatest :=
  ⟨fun ⟨bits, least, greatest⟩ => ⟨bits, least, greatest⟩,
    fun ⟨bits, least, greatest⟩ => ⟨bits, least, greatest⟩⟩

end Pending

/-- What the first byte of a longer character says about the rest. Second bytes are restricted where
a shorter form, a surrogate or a code beyond the last one would be spelled. -/
inductive Leads (b : UInt8) : Pending → Prop
  | two {bits : Nat} (value : b.toNat = 0xC0 + bits) (range : 2 ≤ bits ∧ bits < 0x20) :
      Leads b ⟨bits, 0, 0x80, 0xBF⟩
  | three {bits least greatest : Nat} (value : b.toNat = 0xE0 + bits) (range : bits < 0x10)
      (low : bits = 0 ∧ least = 0xA0 ∨ bits ≠ 0 ∧ least = 0x80)
      (high : bits = 0xD ∧ greatest = 0x9F ∨ bits ≠ 0xD ∧ greatest = 0xBF) :
      Leads b ⟨bits, 1, least, greatest⟩
  | four {bits least greatest : Nat} (value : b.toNat = 0xF0 + bits) (range : bits < 5)
      (low : bits = 0 ∧ least = 0x90 ∨ bits ≠ 0 ∧ least = 0x80)
      (high : bits = 4 ∧ greatest = 0x8F ∨ bits ≠ 4 ∧ greatest = 0xBF) :
      Leads b ⟨bits, 2, least, greatest⟩

/-- What a byte begins. -/
theorem start_cases (b : UInt8) :
    (start b = ([Char.ofNat b.toNat], none) ∧ b.toNat < 0x80) ∨
    (start b = ([replacement], none) ∧
      (0x80 ≤ b.toNat ∧ b.toNat < 0xC2 ∨ 0xF5 ≤ b.toNat)) ∨
    ∃ p, start b = ([], some p) ∧ Leads b p := by
  have byte := b.toNat_lt
  fun_cases start b with
  | case1 n ascii => exact .inl ⟨rfl, ascii⟩
  | case2 n longer short => exact .inr (.inl ⟨rfl, .inl ⟨by omega, short⟩⟩)
  | case3 => exact .inr (.inr ⟨_, rfl, .two (by omega) (by omega)⟩)
  | case4 | case5 | case6 =>
    exact .inr (.inr ⟨_, rfl, .three (by omega) (by omega) (by omega) (by omega)⟩)
  | case7 | case8 | case9 =>
    exact .inr (.inr ⟨_, rfl, .four (by omega) (by omega) (by omega) (by omega)⟩)
  | case10 => exact .inr (.inl ⟨rfl, .inr (by omega)⟩)

theorem singleton_prefix_iff {b a : UInt8} {bytes : List UInt8} :
    [b] <+: a :: bytes ↔ b.toNat = a.toNat := by
  rw [List.cons_prefix_cons, and_iff_left List.nil_prefix, UInt8.toNat_inj]

/-- The first byte of a longer character leaves exactly the codes that fit. -/
theorem Leads.behind {b : UInt8} {p : Pending} (leads : Leads b p) : p.Behind [b] where
  nonempty := List.cons_ne_nil b []
  range := by cases leads <;> simp only <;> omega
  valid := by
    intro code fits
    show code < 0xD800 ∨ 0xDFFF < code ∧ code < 0x110000
    cases leads <;> simp only [Pending.fits_mk_iff, weight, Nat.reduceMul, Nat.div_one] at fits <;>
      omega
  prefix_iff := by
    intro c
    have coded := coded_utf8EncodeChar c
    generalize utf8EncodeChar c = bytes at coded
    cases leads <;> cases coded <;>
      simp only [singleton_prefix_iff, Pending.fits_mk_iff, weight, Nat.reduceMul, Nat.div_one] <;>
      omega
  length := by
    intro c
    have coded := coded_utf8EncodeChar c
    generalize utf8EncodeChar c = bytes at coded
    cases leads <;> cases coded <;> rw [singleton_prefix_iff] <;> simp <;> omega

namespace Pending

variable {p : Pending} {part : List UInt8} {b : UInt8}

theorem accepts_iff : p.accepts b = true ↔ p.least ≤ b.toNat ∧ b.toNat ≤ p.greatest := by
  simp [accepts]

namespace Behind

/-- One byte more leaves the codes that have its bits next. -/
theorem append_prefix_iff (behind : p.Behind part) (c : Char) :
    part ++ [b] <+: utf8EncodeChar c ↔
      p.Fits c.toNat ∧ b.toNat = 0x80 + c.toNat / weight p.after % 64 := by
  rw [← behind.prefix_iff]
  have coded := coded_utf8EncodeChar c
  constructor
  · rintro ⟨rest, whole⟩
    rw [List.append_assoc] at whole
    have here : part <+: utf8EncodeChar c := ⟨_, whole⟩
    have length := behind.length c here
    rw [← whole] at coded length
    -- as many bytes follow the new one as the state still waits for
    have remaining : rest.length = p.after := by
      simp only [List.length_append, List.length_cons, List.length_nil] at length
      omega
    rw [← remaining]
    exact ⟨here, coded.toNat_later behind.nonempty⟩
  · rintro ⟨⟨tail, whole⟩, bits⟩
    have length := behind.length c ⟨tail, whole⟩
    rw [← whole] at coded length ⊢
    cases tail with
    | nil =>
      simp only [List.length_append, List.length_nil] at length
      omega
    | cons b' rest =>
      have remaining : rest.length = p.after := by
        simp only [List.length_append, List.length_cons] at length
        omega
      have same := coded.toNat_later behind.nonempty
      rw [remaining, ← bits] at same
      -- the byte that comes next in the character has the same bits, so it is the new one
      cases UInt8.toNat_inj.1 same
      exact ⟨rest, by simp⟩

/-- A byte that is accepted goes on to a character: the one with nothing but zeros behind it. -/
theorem goesOn (behind : p.Behind part) (accepted : p.accepts b = true) :
    part ++ [b] <+: utf8EncodeChar (Char.ofNat (p.extended b * weight p.after)) := by
  have range := behind.range
  have within := accepts_iff.1 accepted
  have bits : p.extended b = p.bits * 64 + (b.toNat - 0x80) := rfl
  have positive : 0 < weight p.after := by
    induction p.after with
    | zero => decide
    | succ after ih => exact Nat.mul_pos (by decide) ih
  have next : p.extended b * weight p.after / weight p.after = p.extended b :=
    Nat.mul_div_cancel _ positive
  have above : p.extended b * weight p.after / weight (p.after + 1) = p.extended b / 64 := by
    rw [weight, Nat.mul_comm 64, ← Nat.div_div_eq_div_mul, next]
  have fits : p.Fits (p.extended b * weight p.after) := by
    refine ⟨?_, ?_, ?_⟩
    · rw [above]
      omega
    · rw [next]
      omega
    · rw [next]
      omega
  -- codes that fit are codes of characters
  have code : (Char.ofNat (p.extended b * weight p.after)).toNat =
      p.extended b * weight p.after := by
    rw [Char.ofNat, dif_pos (behind.valid _ fits)]
    rfl
  rw [behind.append_prefix_iff, code]
  refine ⟨fits, ?_⟩
  rw [next]
  omega

/-- Exactly those bytes are accepted that go on to a character. -/
theorem accepts_iff_begins (behind : p.Behind part) :
    p.accepts b = true ↔ Begins (part ++ [b]) := by
  constructor
  · intro accepted
    exact ⟨_, behind.goesOn accepted⟩
  · rintro ⟨c, here⟩
    obtain ⟨fits, bits⟩ := (behind.append_prefix_iff c).1 here
    rw [accepts_iff, bits]
    exact ⟨fits.least, fits.greatest⟩

/-- The last byte makes the character complete. -/
theorem complete (behind : p.Behind part) (accepted : p.accepts b = true) (last : p.after = 0) :
    utf8EncodeChar (Char.ofNat (p.extended b)) = part ++ [b] := by
  have here := behind.goesOn accepted
  rw [last, weight, Nat.mul_one] at here
  have length := behind.length _ ((List.prefix_append part [b]).trans here)
  refine (here.eq_of_length ?_).symm
  rw [length, last]
  simp

/-- Any other byte leaves a state behind one byte more. -/
theorem next (behind : p.Behind part) (accepted : p.accepts b = true) {after : Nat}
    (more : p.after = after + 1) :
    (Pending.mk (p.extended b) after 0x80 0xBF).Behind (part ++ [b]) := by
  have range := behind.range
  have within := accepts_iff.1 accepted
  -- the codes of the new state are those of the old one that have the bits of the byte next
  have fits (code : Nat) : (Pending.mk (p.extended b) after 0x80 0xBF).Fits code ↔
      p.Fits code ∧ b.toNat = 0x80 + code / weight p.after % 64 := by
    have above : code / weight (p.after + 1) = code / weight p.after / 64 := by
      rw [weight, Nat.mul_comm, Nat.div_div_eq_div_mul]
    have bits : p.extended b = p.bits * 64 + (b.toNat - 0x80) := rfl
    rw [fits_mk_iff, ← more]
    constructor
    · rintro ⟨value, -, -⟩
      refine ⟨⟨?_, ?_, ?_⟩, ?_⟩ <;> omega
    · rintro ⟨⟨value, -, -⟩, next⟩
      omega
  refine ⟨by simp, by simp, ?_, ?_, ?_⟩
  · intro code here
    exact behind.valid code ((fits code).1 here).1
  · intro c
    rw [fits]
    exact behind.append_prefix_iff c
  · intro c here
    have length := behind.length c ((List.prefix_append part [b]).trans here)
    show _ = (part ++ [b]).length + after + 1
    rw [length, more, List.length_append, List.length_singleton]
    omega

/-- What has been read can be continued, by the least byte for one. -/
theorem begins (behind : p.Behind part) : Begins part := by
  have range := behind.range
  have accepted : p.accepts (UInt8.ofNat p.least) = true := by
    rw [accepts_iff, UInt8.toNat_ofNat']
    omega
  exact ⟨_, (List.prefix_append part _).trans (behind.goesOn accepted)⟩

/-- What has been read is no character yet. -/
theorem incomplete (behind : p.Behind part) (c : Char) : ¬ utf8EncodeChar c <+: part := by
  intro inside
  obtain ⟨d, first⟩ := behind.begins
  cases eq_of_prefix_utf8EncodeChar (inside.trans first)
  have length := behind.length c first
  have short := inside.length_le
  omega

/-- What has been read is broken if the next byte is not accepted, or if there is none. -/
theorem broken (behind : p.Behind part) {rest : List UInt8}
    (refused : ∀ b ∈ rest.head?, p.accepts b = false) : Broken part rest := by
  -- anything longer would have the next byte behind what has been read
  have longest : ∀ longer, longer <+: part ++ rest → part.length < longer.length →
      ¬ Begins longer := by
    rintro longer inside long ⟨c, here⟩
    obtain ⟨more, rfl⟩ := List.prefix_of_prefix_length_le (List.prefix_append part rest) inside
      (Nat.le_of_lt long)
    cases more with
    | nil => simp at long
    | cons b more =>
      obtain ⟨others, split⟩ := List.prefix_append_right_inj part |>.1 inside
      have next : p.accepts b = false := refused b (by rw [← split]; rfl)
      have accepted : p.accepts b = true := by
        refine behind.accepts_iff_begins.2 ⟨c, .trans ?_ here⟩
        exact ⟨more, by simp⟩
      rw [next] at accepted
      cases accepted
  refine ⟨behind.nonempty, ?_, .inl behind.begins, longest⟩
  intro c inside
  by_cases short : (utf8EncodeChar c).length ≤ part.length
  · refine behind.incomplete c ?_
    exact List.prefix_of_prefix_length_le inside (List.prefix_append part rest) short
  · exact longest _ inside (Nat.lt_of_not_le short) ⟨c, List.prefix_rfl⟩

end Behind

end Pending

/-! ## What is read -/

/-- A byte below the others is a character of its own. -/
theorem utf8EncodeChar_ofNat {b : UInt8} (ascii : b.toNat < 0x80) :
    utf8EncodeChar (Char.ofNat b.toNat) = [b] := by
  have code : (Char.ofNat b.toNat).toNat = b.toNat := by
    rw [Char.ofNat, dif_pos (.inl (by omega))]
    rfl
  have coded := coded_utf8EncodeChar (Char.ofNat b.toNat)
  rw [code] at coded
  generalize utf8EncodeChar (Char.ofNat b.toNat) = bytes at coded
  cases coded with
  | one value => rw [UInt8.toNat_inj.1 value]
  | two _ _ range => omega
  | three _ _ _ range => omega
  | four _ _ _ _ range => omega

/-- A byte that begins no character is broken by itself. -/
theorem broken_singleton {b : UInt8}
    (outside : 0x80 ≤ b.toNat ∧ b.toNat < 0xC2 ∨ 0xF5 ≤ b.toNat) (rest : List UInt8) :
    Broken [b] rest := by
  have never (c : Char) : ¬ [b] <+: utf8EncodeChar c := by
    have coded := coded_utf8EncodeChar c
    generalize utf8EncodeChar c = bytes at coded
    cases coded <;> rw [singleton_prefix_iff] <;> omega
  refine ⟨List.cons_ne_nil b [], ?_, .inr rfl, ?_⟩
  · intro c inside
    refine never c (List.prefix_of_prefix_length_le ⟨rest, rfl⟩ inside ?_)
    exact List.length_pos_iff.2 String.utf8EncodeChar_ne_nil
  · rintro longer inside long ⟨c, here⟩
    refine never c (.trans ?_ here)
    exact List.prefix_of_prefix_length_le ⟨rest, rfl⟩ inside (Nat.le_of_lt long)

/-- The reader reads bytes as it should, whatever it has read of the next character. -/
theorem reads_readFrom (bytes : List UInt8) :
    Reads bytes (readFrom none bytes) ∧
    ∀ (p : Pending) (part : List UInt8), p.Behind part →
      Reads (part ++ bytes) (readFrom (some p) bytes) := by
  induction bytes with
  | nil =>
    refine ⟨.done, fun p part behind => ?_⟩
    exact .replaced (behind.broken fun b mem => by cases mem) .done
  | cons b rest ih =>
    obtain ⟨fresh, pending⟩ := ih
    -- where no character is under way, or where one has been given up in front of the byte
    have anew : Reads (b :: rest) ((start b).1 ++ readFrom (start b).2 rest) := by
      rcases start_cases b with ⟨started, ascii⟩ | ⟨started, outside⟩ | ⟨p, started, leads⟩
      · rw [started]
        have first : Reads (utf8EncodeChar (Char.ofNat b.toNat) ++ rest) _ := .char fresh
        rwa [utf8EncodeChar_ofNat ascii] at first
      · rw [started]
        exact .replaced (broken_singleton outside rest) fresh
      · rw [started]
        exact pending p [b] leads.behind
    refine ⟨anew, fun p part behind => ?_⟩
    have split : part ++ b :: rest = part ++ [b] ++ rest := by simp
    rw [readFrom]
    cases accepted : p.accepts b with
    | false =>
      refine .replaced (behind.broken fun b' mem => ?_) anew
      cases mem
      exact accepted
    | true =>
      rw [if_pos rfl, split]
      cases after : p.after with
      | zero =>
        rw [← behind.complete accepted after]
        exact .char fresh
      | succ n => exact pending _ _ (behind.next accepted after)

/-- No broken part is longer than another one at the same place. -/
theorem Broken.length_le {part rest part' rest' : List UInt8} (broken : Broken part rest)
    (broken' : Broken part' rest') (same : part' ++ rest' = part ++ rest) :
    part'.length ≤ part.length := by
  have filled : 0 < part.length := List.length_pos_iff.2 broken.nonempty
  apply Nat.le_of_not_lt
  intro long
  rcases broken'.begins with begins | single
  · exact broken.longest part' ⟨rest', same⟩ long begins
  · omega

/-- Bytes are read in one way. -/
theorem Reads.unique {bytes : List UInt8} {cs ds : List Char} (first : Reads bytes cs)
    (second : Reads bytes ds) : cs = ds := by
  induction first generalizing ds with
  | done =>
    generalize empty : [] = bytes at second
    cases second with
    | done => rfl
    | char _ => exact absurd (List.append_eq_nil_iff.1 empty.symm).1 String.utf8EncodeChar_ne_nil
    | replaced broken _ => exact absurd (List.append_eq_nil_iff.1 empty.symm).1 broken.nonempty
  | @char c rest cs behind ih =>
    generalize same : utf8EncodeChar c ++ rest = bytes at second
    cases second with
    | done => exact absurd (List.append_eq_nil_iff.1 same).1 String.utf8EncodeChar_ne_nil
    | @char d rest' ds behind' =>
      -- one of the two characters begins with the other
      have chars : c = d := by
        rcases List.prefix_or_prefix_of_prefix (List.prefix_append (utf8EncodeChar c) rest)
          (same ▸ List.prefix_append (utf8EncodeChar d) rest') with inside | inside
        · exact eq_of_prefix_utf8EncodeChar inside
        · exact (eq_of_prefix_utf8EncodeChar inside).symm
      cases chars
      cases List.append_cancel_left same
      rw [ih behind']
    | replaced broken _ => exact absurd ⟨rest, same⟩ (broken.noChar c)
  | @replaced part rest cs broken behind ih =>
    generalize same : part ++ rest = bytes at second
    cases second with
    | done => exact absurd (List.append_eq_nil_iff.1 same).1 broken.nonempty
    | @char d rest' ds _ => exact absurd ⟨rest', same.symm⟩ (broken.noChar d)
    | @replaced part' rest' ds broken' behind' =>
      have lengths : part.length = part'.length :=
        Nat.le_antisymm (broken'.length_le broken same) (broken.length_le broken' same.symm)
      cases (List.append_inj same lengths).2
      rw [ih behind']

/-- The reader reads bytes as characters, and nothing else does. -/
theorem reads_iff {bytes : List UInt8} {cs : List Char} :
    Reads bytes cs ↔ cs = readFrom none bytes := by
  constructor
  · intro reads
    exact reads.unique (reads_readFrom bytes).1
  · rintro rfl
    exact (reads_readFrom bytes).1

/-! ## Texts -/

/-- The bytes of a text are read as its characters. -/
theorem reads_bytesOf (text : String) : Reads (bytesOf text) text.toList := by
  rw [bytesOf_eq_flatMap]
  induction text.toList with
  | nil => exact .done
  | cons c cs ih => exact .char ih

theorem read_bytesOf (text : String) : read (bytesOf text) = text := by
  rw [read, ← reads_iff.1 (reads_bytesOf text), String.ofList_toList]

/-- Only the character zero has a zero byte. -/
theorem zero_not_mem_bytesOf {text : String} (plain : '\x00' ∉ text.toList) :
    0 ∉ bytesOf text := by
  rw [bytesOf_eq_flatMap]
  intro mem
  obtain ⟨c, inside, byte⟩ := List.mem_flatMap.1 mem
  have nonzero : c.toNat ≠ 0 := by
    intro zero
    refine plain ?_
    rwa [← show c = '\x00' from Char.toNat_inj.1 zero]
  have zero : (0 : UInt8).toNat = 0 := rfl
  have coded := coded_utf8EncodeChar c
  generalize utf8EncodeChar c = bytes at coded byte
  cases coded <;>
    simp only [List.mem_cons, List.not_mem_nil, or_false, ← UInt8.toNat_inj] at byte <;> omega

end Dissect.Text.Utf8
