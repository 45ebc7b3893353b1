import Dissect.Text.SnakeCase

/-!
# What snake case keeps and leaves out

A character of a name in snake case is an underscore, comes from the lower-case form of a capital,
or is a character of the name that is neither a capital nor a separator (`mem_snakeFrom_cases`), and
those are all kept (`mem_snakeFrom_of_mem`). So a name in snake case has no separators: hyphens,
spaces and dots become underscores or vanish, and no capital has one of them as its lower-case form
(`not_mem_snakeCase_of_isSeparator`). Any other character that is no letter stays. The underscores
are where the words of a name begin, and without them its letters are left, in order and lowered
(`filter_snakeCase`). A name that has neither capitals nor separators is its own snake case
(`snakeCase_eq_self`), and an ASCII name in snake case is such a name (`snakeCase_keeps_letters`).
-/

set_option autoImplicit false

namespace Dissect.Text

/-! ## Lower-case forms -/

/-- The lower-case forms of capitals stand behind the separators among the code points. -/
theorem le_image_of_mem_loweringSpans : ∀ s ∈ loweringSpans, 0x61 ≤ s.image := by
  decide +kernel

theorem ofNat_ne {n : Nat} {c : Char} (behind : c.toNat < n) (nonzero : c.toNat ≠ 0) :
    Char.ofNat n ≠ c := by
  intro same
  by_cases valid : n.isValidChar
  · have code : n = c.toNat := by
      rw [← same, Char.ofNat, dif_pos valid]
      rfl
    omega
  · -- the code of no character stands for the character zero
    refine nonzero ?_
    rw [← same, Char.ofNat, dif_neg valid]
    rfl

/-- No capital is lowered to a character in front of the small letters. -/
theorem ne_of_mem_lowered {c d x : Char} (upper : isUppercase c = true) (mem : d ∈ lowered c)
    (small : x.toNat < 0x61) (nonzero : x.toNat ≠ 0) (other : isUppercase x = false) : d ≠ x := by
  unfold lowered at mem
  split at mem
  · rcases List.mem_cons.1 mem with rfl | mem
    · rintro rfl
      exact absurd small (by decide)
    · rw [List.mem_singleton.1 mem]
      exact ofNat_ne (by omega) nonzero
  · split at mem
    · next s found =>
      rw [List.mem_singleton.1 mem]
      have image := le_image_of_mem_loweringSpans s (List.mem_of_find?_eq_some found)
      exact ofNat_ne (by omega) nonzero
    · -- a capital without a lower-case form stays as it is
      rw [List.mem_singleton.1 mem]
      rintro rfl
      rw [other] at upper
      cases upper

/-! ## The characters of a name in snake case -/

/-- Where a character of a name in snake case comes from. -/
theorem mem_snakeFrom_cases {before last : Option Char} {cs : List Char} {d : Char}
    (mem : d ∈ snakeFrom before last cs) :
    d = '_' ∨ (∃ c ∈ cs, isUppercase c = true ∧ d ∈ lowered c) ∨
      (d ∈ cs ∧ isUppercase d = false ∧ isSeparator d = false) := by
  -- what is said about the rest of a name holds of the name
  have further {c : Char} {rest : List Char}
      (behind : d = '_' ∨ (∃ c ∈ rest, isUppercase c = true ∧ d ∈ lowered c) ∨
        (d ∈ rest ∧ isUppercase d = false ∧ isSeparator d = false)) :
      d = '_' ∨ (∃ c' ∈ c :: rest, isUppercase c' = true ∧ d ∈ lowered c') ∨
        (d ∈ c :: rest ∧ isUppercase d = false ∧ isSeparator d = false) := by
    rcases behind with inserted | ⟨c', inside, upper, low⟩ | ⟨inside, other⟩
    · exact .inl inserted
    · exact .inr (.inl ⟨c', List.mem_cons_of_mem c inside, upper, low⟩)
    · exact .inr (.inr ⟨List.mem_cons_of_mem c inside, other⟩)
  fun_induction snakeFrom before last cs with
  | case1 => cases mem
  | case2 before last c rest upper mark ih =>
    simp only [List.mem_append] at mem
    rcases mem with (mem | mem) | mem
    · -- the mark in front of a word is an underscore
      unfold mark at mem
      split at mem
      · exact .inl (List.mem_singleton.1 mem)
      · cases mem
    · exact .inr (.inl ⟨c, List.mem_cons_self, upper, mem⟩)
    · exact further (ih mem)
  | case3 before last c rest _ _ _ ih =>
    rcases List.mem_cons.1 mem with rfl | mem
    · exact .inl rfl
    · exact further (ih mem)
  | case4 before last c rest _ _ _ ih => exact further (ih mem)
  | case5 before last c rest upper separator ih =>
    rcases List.mem_cons.1 mem with rfl | mem
    · refine .inr (.inr ⟨List.mem_cons_self, ?_, ?_⟩)
      · exact Bool.eq_false_iff.2 upper
      · exact Bool.eq_false_iff.2 separator
    · exact further (ih mem)

/-- A character that is neither a capital nor a separator is kept. -/
theorem mem_snakeFrom_of_mem {before last : Option Char} {cs : List Char} {d : Char} (mem : d ∈ cs)
    (upper : isUppercase d = false) (separator : isSeparator d = false) :
    d ∈ snakeFrom before last cs := by
  fun_induction snakeFrom before last cs with
  | case1 => cases mem
  | case2 before last c rest capital mark ih =>
    rcases List.mem_cons.1 mem with rfl | mem
    · rw [upper] at capital
      cases capital
    · exact List.mem_append_right _ (ih mem)
  | case3 before last c rest _ here _ ih =>
    rcases List.mem_cons.1 mem with rfl | mem
    · rw [separator] at here
      cases here
    · exact List.mem_cons_of_mem _ (ih mem)
  | case4 before last c rest _ here _ ih =>
    rcases List.mem_cons.1 mem with rfl | mem
    · rw [separator] at here
      cases here
    · exact ih mem
  | case5 before last c rest _ _ ih =>
    rcases List.mem_cons.1 mem with rfl | mem
    · exact List.mem_cons_self
    · exact List.mem_cons_of_mem _ (ih mem)

/-- Snake case neither brings in nor leaves out a character in front of the small letters that is
neither a capital, a separator nor an underscore. -/
theorem mem_snakeCase_iff {x : Char} (small : x.toNat < 0x61) (nonzero : x.toNat ≠ 0)
    (upper : isUppercase x = false) (separator : isSeparator x = false) (underscore : x ≠ '_')
    (name : String) : x ∈ (snakeCase name).toList ↔ x ∈ name.toList := by
  rw [snakeCase, String.toList_ofList]
  constructor
  · intro mem
    rcases mem_snakeFrom_cases mem with inserted | ⟨c, -, capital, low⟩ | ⟨kept, -⟩
    · exact absurd inserted underscore
    · exact absurd rfl (ne_of_mem_lowered capital low small nonzero upper)
    · exact kept
  · intro mem
    exact mem_snakeFrom_of_mem mem upper separator

theorem isSeparator_iff {c : Char} : isSeparator c = true ↔ c = '-' ∨ c = ' ' ∨ c = '.' := by
  simp [isSeparator, or_assoc]

/-- Snake case has no separators. -/
theorem not_mem_snakeCase_of_isSeparator {c : Char} (separator : isSeparator c = true)
    (name : String) : c ∉ (snakeCase name).toList := by
  intro mem
  rw [snakeCase, String.toList_ofList] at mem
  rcases mem_snakeFrom_cases mem with rfl | ⟨capital, -, upper, low⟩ | ⟨-, -, other⟩
  · exact absurd separator (by decide)
  · rcases isSeparator_iff.1 separator with rfl | rfl | rfl
    · exact ne_of_mem_lowered upper low (by decide) (by decide) (by decide) rfl
    · exact ne_of_mem_lowered upper low (by decide) (by decide) (by decide) rfl
    · exact ne_of_mem_lowered upper low (by decide) (by decide) (by decide) rfl
  · rw [other] at separator
    cases separator

/-! ## The letters of a name -/

/-- What a character becomes in a word: separators and underscores nothing, capitals small. -/
def letter (c : Char) : List Char :=
  if isSeparator c || c = '_' then [] else if isUppercase c then lowered c else [c]

/-- The letters of a name, in order. -/
def letters (name : String) : List Char := name.toList.flatMap letter

theorem not_isSeparator_of_isUppercase {c : Char} (upper : isUppercase c = true) :
    isSeparator c = false ∧ c ≠ '_' := by
  constructor
  · rw [← Bool.not_eq_true, isSeparator_iff]
    rintro (rfl | rfl | rfl) <;> exact absurd upper (by decide)
  · rintro rfl
    exact absurd upper (by decide)

theorem letter_of_isUppercase {c : Char} (upper : isUppercase c = true) : letter c = lowered c := by
  obtain ⟨separator, underscore⟩ := not_isSeparator_of_isUppercase upper
  simp [letter, upper, separator, underscore]

theorem letter_of_isSeparator {c : Char} (separator : isSeparator c = true) : letter c = [] := by
  simp [letter, separator]

/-- Snake case puts underscores between the letters, and nothing else. -/
theorem filter_snakeFrom (before last : Option Char) (cs : List Char) :
    (snakeFrom before last cs).filter (· ≠ '_') = cs.flatMap letter := by
  fun_induction snakeFrom before last cs with
  | case1 => rfl
  | case2 before last c rest upper mark ih =>
    have marks : mark.filter (· ≠ '_') = [] := by
      unfold mark
      split <;> rfl
    have small : (lowered c).filter (· ≠ '_') = lowered c := by
      refine List.filter_eq_self.2 fun d mem => decide_eq_true ?_
      exact ne_of_mem_lowered upper mem (by decide) (by decide) (by decide)
    rw [List.filter_append, List.filter_append, marks, small, ih, List.flatMap_cons,
      letter_of_isUppercase upper, List.nil_append]
  | case3 before last c rest _ separator _ ih =>
    rw [List.filter_cons_of_neg (by simp), ih, List.flatMap_cons, letter_of_isSeparator separator,
      List.nil_append]
  | case4 before last c rest _ separator _ ih =>
    rw [ih, List.flatMap_cons, letter_of_isSeparator separator, List.nil_append]
  | case5 before last c rest upper separator ih =>
    have kept : [c].filter (· ≠ '_') = letter c := by
      by_cases underscore : c = '_'
      · simp [letter, underscore]
      · simp [letter, underscore, upper, separator]
    rw [← List.singleton_append, List.filter_append, kept, ih, List.flatMap_cons]

theorem filter_snakeCase (name : String) :
    (snakeCase name).toList.filter (· ≠ '_') = letters name := by
  rw [snakeCase, String.toList_ofList]
  exact filter_snakeFrom none none name.toList

/-- The letters of a name are what is left of it without underscores and separators, lowered. -/
theorem letters_eq_flatMap (name : String) :
    letters name = (name.toList.filter (· ∉ ['_', '-', ' ', '.'])).flatMap fun c =>
      if isUppercase c then lowered c else [c] := by
  have vanishes (c : Char) : (isSeparator c || c = '_') = true ↔ c ∈ ['_', '-', ' ', '.'] := by
    simp [isSeparator_iff, or_comm]
  rw [letters]
  induction name.toList with
  | nil => rfl
  | cons c rest ih =>
    rw [List.flatMap_cons, ih, letter]
    by_cases mark : c ∈ ['_', '-', ' ', '.']
    · have erased : ¬ decide (c ∉ ['_', '-', ' ', '.']) = true := by
        rwa [decide_eq_true_eq, Decidable.not_not]
      rw [if_pos ((vanishes c).2 mark), List.filter_cons, if_neg erased, List.nil_append]
    · rw [if_neg (mt (vanishes c).1 mark), List.filter_cons, if_pos (decide_eq_true mark),
        List.flatMap_cons]

/-! ## Names that are in snake case -/

/-- A name without capitals and separators is passed on as it is. -/
theorem snakeFrom_eq_self {before last : Option Char} {cs : List Char}
    (small : ∀ c ∈ cs, isUppercase c = false ∧ isSeparator c = false) :
    snakeFrom before last cs = cs := by
  induction cs generalizing before last with
  | nil => rfl
  | cons c rest ih =>
    obtain ⟨⟨upper, separator⟩, behind⟩ := List.forall_mem_cons.1 small
    rw [snakeFrom, upper, separator]
    exact congrArg (c :: ·) (ih behind)

theorem snakeCase_eq_self {name : String}
    (small : ∀ c ∈ name.toList, isUppercase c = false ∧ isSeparator c = false) :
    snakeCase name = name := by
  rw [snakeCase, snakeFrom_eq_self small, String.ofList_toList]

/-- No ASCII character has a capital in its lower-case form. -/
theorem not_isUppercase_lowered_of_lt :
    ∀ n : Fin 128, (lowered (Char.ofNat n)).all (fun d => !isUppercase d) = true := by
  decide +kernel

theorem not_isUppercase_of_mem_lowered {c d : Char} (ascii : c.toNat < 128) (mem : d ∈ lowered c) :
    isUppercase d = false := by
  have small := not_isUppercase_lowered_of_lt ⟨c.toNat, ascii⟩
  rw [Char.ofNat_toNat, List.all_eq_true] at small
  simpa using small d mem

/-- The snake case of an ASCII name has no capitals. -/
theorem not_isUppercase_of_mem_snakeCase {name : String} (ascii : ∀ c ∈ name.toList, c.toNat < 128)
    {d : Char} (mem : d ∈ (snakeCase name).toList) : isUppercase d = false := by
  rw [snakeCase, String.toList_ofList] at mem
  rcases mem_snakeFrom_cases mem with rfl | ⟨c, inside, -, low⟩ | ⟨-, other, -⟩
  · decide
  · exact not_isUppercase_of_mem_lowered (ascii c inside) low
  · exact other

/-- Snake case changes nothing but case and separators. Without its underscores, the snake case of a
name is the name without underscores and separators and with every capital lowered, and no separator
is left in it. The snake case of an ASCII name has no capitals either, so that nothing changes when
it is taken again. -/
theorem snakeCase_keeps_letters (name : String) :
    (snakeCase name).toList.filter (· ≠ '_') =
      ((name.toList.filter (· ∉ ['_', '-', ' ', '.'])).flatMap fun c =>
        if isUppercase c then lowered c else [c]) ∧
    (∀ c ∈ ['-', ' ', '.'], c ∉ (snakeCase name).toList) ∧
    ((∀ c ∈ name.toList, c.toNat < 128) →
      (∀ c ∈ (snakeCase name).toList, isUppercase c = false) ∧
        snakeCase (snakeCase name) = snakeCase name) := by
  have without {c : Char} (separator : isSeparator c = true) : c ∉ (snakeCase name).toList :=
    not_mem_snakeCase_of_isSeparator separator name
  refine ⟨?_, ?_, ?_⟩
  · rw [filter_snakeCase, letters_eq_flatMap]
  · intro c mem
    apply without
    simpa [isSeparator_iff] using mem
  · intro ascii
    have small : ∀ c ∈ (snakeCase name).toList, isUppercase c = false :=
      fun c mem => not_isUppercase_of_mem_snakeCase ascii mem
    refine ⟨small, snakeCase_eq_self fun c mem => ⟨small c mem, ?_⟩⟩
    rw [← Bool.not_eq_true]
    intro separator
    exact without separator mem

/-- A separator in front, one at the beginning of a word, a run of capitals, and a digit in front of
a capital. -/
theorem snakeCase_keeps_letters_header :
    (∀ c ∈ "-HTTPHeader.Of_2X".toList, c.toNat < 128) ∧
    snakeCase "-HTTPHeader.Of_2X" = "http_header_of_2_x" ∧
    (snakeCase "-HTTPHeader.Of_2X").toList.filter (· ≠ '_') = "httpheaderof2x".toList ∧
    snakeCase (snakeCase "-HTTPHeader.Of_2X") = snakeCase "-HTTPHeader.Of_2X" := by
  have ascii : ∀ c ∈ "-HTTPHeader.Of_2X".toList, c.toNat < 128 := by simp
  obtain ⟨same, -, small⟩ := snakeCase_keeps_letters "-HTTPHeader.Of_2X"
  refine ⟨ascii, by decide, same.trans (by decide), (small ascii).2⟩

/-- Mathematical capitals have no lower-case form, and where another capital behind them is lowered,
a word begins that did not begin there before. -/
example : snakeCase "𝐀𝐁C" = "𝐀𝐁c" ∧ snakeCase "𝐀𝐁c" = "𝐀_𝐁c" := by decide +kernel

end Dissect.Text
