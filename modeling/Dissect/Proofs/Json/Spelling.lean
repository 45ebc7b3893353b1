import Dissect.Proofs.Json.Literals
import Mathlib.Data.List.Chain

/-!
# How JSON tokens are spelled

Tokens are spelled one after another, with arbitrary blanks between them. Texts that are spelled so
are cut into their tokens again (`tokens_of_spellsAll`). The one thing to be kept in mind is that two
numbers must not meet.
-/

set_option autoImplicit false

namespace Dissect.Json

/-! ## Spellings -/

/-- How a token is spelled. -/
inductive Spells : Token → List Char → Prop
  | openArray : Spells .openArray ['[']
  | closeArray : Spells .closeArray [']']
  | openObject : Spells .openObject ['\x7b']
  | closeObject : Spells .closeObject ['\x7d']
  | colon : Spells .colon [':']
  | comma : Spells .comma [',']
  | null : Spells .null ['n', 'u', 'l', 'l']
  | ofTrue : Spells (.bool true) ['t', 'r', 'u', 'e']
  | ofFalse : Spells (.bool false) ['f', 'a', 'l', 's', 'e']
  | number {n : Number} {cs : List Char} (spelled : NumberText n cs) : Spells (.number n) cs
  | string {pieces : List Piece} {cs : List Char} {text : Option String}
      (spelled : PiecesText pieces cs) (denotes : Denotes pieces text) :
      Spells (.string text) ('\x22' :: (cs ++ ['\x22']))

/-- The characters that may stand between tokens. -/
def blanks : List Char := [' ', '\t', '\n', '\r']

/-- How tokens are spelled, one after another, with blanks around them. -/
inductive SpellsAll : List Token → List Char → Prop
  | nil {bs : List Char} (blank : ∀ b ∈ bs, b ∈ blanks) : SpellsAll [] bs
  | cons {t : Token} {ts : List Token} {bs cs ds : List Char} (blank : ∀ b ∈ bs, b ∈ blanks)
      (first : Spells t cs) (others : SpellsAll ts ds) : SpellsAll (t :: ts) (bs ++ (cs ++ ds))

/-- Whether a token is a number. -/
def Token.isNumber : Token → Bool
  | .number _ => true
  | _ => false

/-- No two numbers meet. -/
def Apart (ts : List Token) : Prop := ts.IsChain fun t u => (t.isNumber && u.isNumber) = false

/-! ## Cutting a text into tokens -/

theorem isSpace_of_mem {b : Char} (blank : b ∈ blanks) : isSpace b = true := by
  have all : blanks.all isSpace = true := rfl
  exact List.all_eq_true.1 all b blank

theorem isNumberChar_of_mem_blanks {b : Char} (blank : b ∈ blanks) : isNumberChar b = false := by
  have all : (blanks.all fun b => !isNumberChar b) = true := rfl
  simpa using List.all_eq_true.1 all b blank

/-- Blanks are passed over. -/
theorem tokens_blanks {bs : List Char} (blank : ∀ b ∈ bs, b ∈ blanks) (rest : List Char) :
    tokens (bs ++ rest) = tokens rest := by
  induction bs with
  | nil => rfl
  | cons b bs ih =>
    obtain ⟨first, others⟩ := List.forall_mem_cons.1 blank
    have letters : (blanks.all fun b => b != 'n' && b != 't' && b != 'f') = true := rfl
    obtain ⟨⟨notN, notT⟩, notF⟩ : (b ≠ 'n' ∧ b ≠ 't') ∧ b ≠ 'f' := by
      simpa using List.all_eq_true.1 letters b first
    rw [List.cons_append, tokens.eq_5 b (bs ++ rest) (fun _ same => absurd same notN)
      (fun _ same => absurd same notT) fun _ same => absurd same notF,
      if_pos (isSpace_of_mem first)]
    exact ih others

theorem tokens_string {pieces : List Piece} {cs : List Char} {text : Option String}
    (spelled : PiecesText pieces cs) (denotes : Denotes pieces text) (rest : List Char) :
    tokens ('\x22' :: (cs ++ '\x22' :: rest)) = (tokens rest).map (.string text :: ·) := by
  have scanned := scanString_of_piecesText spelled rest
  have value := denoted_of_denotes spelled.unit_lt denotes
  rw [tokens.eq_5 _ _ (by simp) (by simp) (by simp), if_neg (by decide), if_pos rfl]
  split
  · next failed =>
    rw [scanned] at failed
    cases failed
  · next found =>
    rw [scanned] at found
    cases found
    rw [value]

/-- What numbers begin with is not the beginning of any other token, and no blank. -/
theorem apart_of_number_head {c : Char} (first : c.isDigit = true ∨ c = '-') :
    c ≠ 'n' ∧ c ≠ 't' ∧ c ≠ 'f' ∧ c ≠ '\x22' ∧ isSpace c = false := by
  rcases first with digit | rfl
  · have differs (d : Char) (other : d.isDigit = false) : c ≠ d := by
      rintro rfl
      rw [digit] at other
      cases other
    refine ⟨differs _ rfl, differs _ rfl, differs _ rfl, differs _ rfl, ?_⟩
    simp [isSpace, differs ' ' rfl, differs '\t' rfl, differs '\n' rfl, differs '\r' rfl]
  · decide

theorem tokens_number {n : Number} {cs : List Char} (spelled : NumberText n cs) {rest : List Char}
    (stop : ∀ c ∈ rest.head?, isNumberChar c = false) :
    tokens (cs ++ rest) = (tokens rest).map (.number n :: ·) := by
  have read := ofChars?_of_numberText spelled
  have chars := spelled.chars
  obtain ⟨c, tail, rfl, first⟩ := spelled.head
  obtain ⟨notN, notT, notF, notQuote, notBlank⟩ := apart_of_number_head first
  obtain ⟨taken, left⟩ := span_append (List.forall_mem_cons.1 chars).2 stop
  have begins : (c.isDigit || decide (c = '-')) = true := by simpa using first
  rw [List.cons_append, tokens.eq_5 c (tail ++ rest) (fun _ same => absurd same notN)
    (fun _ same => absurd same notT) (fun _ same => absurd same notF), if_neg (by simp [notBlank]),
    if_neg notQuote, if_pos begins, taken, left, read]

/-- A spelled token is read. A number has to end where what follows begins. -/
theorem tokens_of_spells {t : Token} {cs : List Char} (first : Spells t cs) {rest : List Char}
    (stop : t.isNumber = true → ∀ c ∈ rest.head?, isNumberChar c = false) :
    tokens (cs ++ rest) = (tokens rest).map (t :: ·) := by
  cases first with
  | openArray => simp [tokens, isSpace, punctuation?]
  | closeArray => simp [tokens, isSpace, punctuation?]
  | openObject => simp [tokens, isSpace, punctuation?]
  | closeObject => simp [tokens, isSpace, punctuation?]
  | colon => simp [tokens, isSpace, punctuation?]
  | comma => simp [tokens, isSpace, punctuation?]
  | null => simp [tokens]
  | ofTrue => simp [tokens]
  | ofFalse => simp [tokens]
  | number spelled => exact tokens_number spelled (stop rfl)
  | string spelled denotes =>
    rw [List.cons_append, List.append_assoc, List.singleton_append]
    exact tokens_string spelled denotes rest

/-- Only numbers begin like numbers. -/
theorem Spells.head {t : Token} {cs : List Char} (spelled : Spells t cs)
    (other : t.isNumber = false) : ∃ c tail, cs = c :: tail ∧ isNumberChar c = false := by
  cases spelled with
  | number => cases other
  | openArray => exact ⟨_, _, rfl, rfl⟩
  | closeArray => exact ⟨_, _, rfl, rfl⟩
  | openObject => exact ⟨_, _, rfl, rfl⟩
  | closeObject => exact ⟨_, _, rfl, rfl⟩
  | colon => exact ⟨_, _, rfl, rfl⟩
  | comma => exact ⟨_, _, rfl, rfl⟩
  | null => exact ⟨_, _, rfl, rfl⟩
  | ofTrue => exact ⟨_, _, rfl, rfl⟩
  | ofFalse => exact ⟨_, _, rfl, rfl⟩
  | string spelled denotes => exact ⟨_, _, rfl, rfl⟩

theorem SpellsAll.head {ts : List Token} {cs : List Char} (spelled : SpellsAll ts cs)
    (other : ∀ t ∈ ts.head?, t.isNumber = false) : ∀ c ∈ cs.head?, isNumberChar c = false := by
  cases spelled with
  | nil blank =>
    intro c first
    exact isNumberChar_of_mem_blanks (blank c (List.mem_of_mem_head? first))
  | @cons t ts bs cs ds blank first others =>
    cases bs with
    | cons b bs =>
      intro c head
      cases head
      exact isNumberChar_of_mem_blanks (blank b List.mem_cons_self)
    | nil =>
      obtain ⟨d, tail, rfl, notNumber⟩ := first.head (other t rfl)
      intro c head
      cases head
      exact notNumber

/-- A text that spells tokens is cut into these tokens. -/
theorem tokens_of_spellsAll {ts : List Token} {cs : List Char} (spelled : SpellsAll ts cs)
    (apart : Apart ts) : tokens cs = some ts := by
  induction spelled with
  | nil blank =>
    have all := tokens_blanks blank []
    rw [List.append_nil] at all
    rw [all, tokens]
  | @cons t ts bs cs ds blank first others ih =>
    -- what follows a number does not begin like one, be it a blank or another token
    have stop : t.isNumber = true → ∀ c ∈ ds.head?, isNumberChar c = false := by
      intro number
      apply others.head
      intro u next
      have pair := List.isChain_cons.1 apart
      simpa [number] using pair.1 u next
    rw [tokens_blanks blank, tokens_of_spells first stop, ih (List.isChain_cons.1 apart).2]
    rfl

/-! ## Every text can be spelled -/

theorem exists_spells_string (s : String) : ∃ cs, Spells (.string (some s)) cs := by
  obtain ⟨pieces, cs, spelled, same⟩ := exists_piecesText s.toList
  exact ⟨_, .string spelled same⟩

theorem exists_spells_natural (n : Nat) :
    ∃ cs, Spells (.number ⟨false, Nat.toDigits 10 n, none, none⟩) cs :=
  ⟨_, .number (numberText_natural n)⟩

theorem Spells.plain (s : String) (shown : s.toList.all isPlain = true) :
    Spells (.string (some s)) ('\x22' :: (s.toList ++ ['\x22'])) := by
  apply Spells.string (PiecesText.plain shown)
  rw [Denotes, List.flatMap_map]
  rfl

namespace SpellsAll

variable {t : Token} {ts : List Token} {cs ds : List Char}

theorem next (first : Spells t cs) (others : SpellsAll ts ds) : SpellsAll (t :: ts) (cs ++ ds) := by
  have blank : ∀ b ∈ ([] : List Char), b ∈ blanks := List.forall_mem_nil _
  exact .cons blank first others

theorem blank {b : Char} (space : b ∈ blanks) (spelled : SpellsAll ts ds) :
    SpellsAll ts (b :: ds) := by
  cases spelled with
  | nil blank => exact .nil (List.forall_mem_cons.2 ⟨space, blank⟩)
  | cons blank first others =>
    exact .cons (List.forall_mem_cons.2 ⟨space, blank⟩) first others

end SpellsAll

theorem exists_spellsAll {ts : List Token} (each : ∀ t ∈ ts, ∃ cs, Spells t cs) :
    ∃ cs, SpellsAll ts cs := by
  induction ts with
  | nil => exact ⟨[], .nil (List.forall_mem_nil _)⟩
  | cons t ts ih =>
    obtain ⟨⟨cs, first⟩, others⟩ := List.forall_mem_cons.1 each
    obtain ⟨ds, rest⟩ := ih others
    exact ⟨_, .next first rest⟩

end Dissect.Json
