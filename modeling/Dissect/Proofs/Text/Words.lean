import Dissect.Text.Blank

/-!
# Joined texts and words

A joined text has the characters of its parts and of the mark between them (`mem_intercalate_cases`,
`mem_intercalate_of_mem`). A text put on one line is joined from words, which have no blanks, so
that it has none but spaces (`not_isBlank_of_mem_oneLine`).
-/

set_option autoImplicit false

namespace Dissect.Text

/-! ## Joined texts -/

section Joined

variable {mark : String} {parts : List String} {c : Char}

/-- Where a character of a joined text comes from. -/
theorem mem_intercalate_cases (mem : c ∈ (mark.intercalate parts).toList) :
    c ∈ mark.toList ∨ ∃ part ∈ parts, c ∈ part.toList := by
  induction parts with
  | nil => simp at mem
  | cons part rest ih =>
    cases rest with
    | nil => exact .inr ⟨part, List.mem_cons_self, by simpa using mem⟩
    | cons next rest =>
      rw [String.intercalate_cons_cons, String.toList_append, String.toList_append] at mem
      rcases List.mem_append.1 mem with mem | mem
      · rcases List.mem_append.1 mem with mem | mem
        · exact .inr ⟨part, List.mem_cons_self, mem⟩
        · exact .inl mem
      · rcases ih mem with here | ⟨later, inside, mem⟩
        · exact .inl here
        · exact .inr ⟨later, List.mem_cons_of_mem part inside, mem⟩

/-- Nothing of a part is lost. -/
theorem mem_intercalate_of_mem {part : String} (inside : part ∈ parts) (mem : c ∈ part.toList) :
    c ∈ (mark.intercalate parts).toList := by
  induction parts with
  | nil => cases inside
  | cons first rest ih =>
    cases rest with
    | nil =>
      rw [List.mem_singleton.1 inside] at mem
      simpa using mem
    | cons next rest =>
      rw [String.intercalate_cons_cons, String.toList_append, String.toList_append]
      rcases List.mem_cons.1 inside with rfl | inside
      · exact List.mem_append_left _ (List.mem_append_left _ mem)
      · exact List.mem_append_right _ (ih inside)

end Joined

/-! ## Words -/

/-- What holds of a word and of those behind it holds of all of them; an empty word is left out. -/
theorem forall_mem_of_word {P : List Char → Prop} {word : List Char} {others : List (List Char)}
    (first : P word) (later : ∀ w ∈ others, P w) :
    ∀ w ∈ if word.isEmpty then others else word :: others, P w := by
  split
  · exact later
  · exact List.forall_mem_cons.2 ⟨first, later⟩

theorem not_isBlank_of_mem_splitWords (text : List Char) :
    (∀ c ∈ (splitWords text).1, isBlank c = false) ∧
      ∀ word ∈ (splitWords text).2, ∀ c ∈ word, isBlank c = false := by
  fun_induction splitWords text with
  | case1 => simp
  | case2 c rest word others split blank ih =>
    rw [split] at ih
    obtain ⟨first, later⟩ := ih
    -- no word begins at a blank, and the one behind it is complete
    exact ⟨List.forall_mem_nil _, forall_mem_of_word first later⟩
  | case3 c rest word others split blank ih =>
    rw [split] at ih
    obtain ⟨first, later⟩ := ih
    exact ⟨List.forall_mem_cons.2 ⟨Bool.eq_false_iff.2 blank, first⟩, later⟩

theorem not_isBlank_of_mem_words {text word : List Char} (mem : word ∈ words text) :
    ∀ c ∈ word, isBlank c = false := by
  obtain ⟨first, others⟩ := not_isBlank_of_mem_splitWords text
  exact forall_mem_of_word first others word mem

/-- The only blanks of a text on one line are spaces. -/
theorem not_isBlank_of_mem_oneLine {text : String} {c : Char} (mem : c ∈ (oneLine text).toList) :
    c = ' ' ∨ isBlank c = false := by
  have joined : oneLine text = " ".intercalate ((words text.toList).map String.ofList) := by
    rw [oneLine, ← String.toList_inj, String.toList_intercalate, String.toList_ofList, List.map_map]
    simp [Function.comp_def]
  rw [joined] at mem
  rcases mem_intercalate_cases mem with mem | ⟨part, inside, mem⟩
  · exact .inl (by simpa using mem)
  · obtain ⟨word, of, rfl⟩ := List.mem_map.1 inside
    rw [String.toList_ofList] at mem
    exact .inr (not_isBlank_of_mem_words of c mem)

end Dissect.Text
