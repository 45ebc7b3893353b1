import Dissect.Layout.Identifier
import Mathlib.Data.Finset.Card
import Mathlib.Data.List.Pairwise
import Mathlib.Order.Interval.Finset.Nat

/-!
# Giving out identifiers

What a whole run of requests to one table returns. Equal places get equal identifiers, different
places get identifiers that differ in both names, and a new place gets its base identifier with the
least suffix with which neither name is in use (`internAll_stable_injective_least`). Numbers behind
a name are told apart, so that each identifier in use rules out at most two suffixes, and the search
for a free one ends (`exists_free_candidate`).
-/

set_option autoImplicit false

namespace Dissect.Layout

/-- The identifier of a place in a protocol before any clash is resolved: the name of the scope and
the path in snake case, joined by underscores, and joined by dots with the protocol in front. -/
def Place.base (protocol : String) (place : Place) : Identifier :=
  let parts := (place.scope.name :: place.path).map Text.snakeCase
  let front := Text.snakeCase protocol
  ⟨"_".intercalate parts, ".".intercalate (if front = "" then parts else front :: parts)⟩

/-- What stands behind the names of the candidates for a place, in the order in which they are
tried: nothing, then the numbers from two on. -/
def suffix : Nat → String
  | 0 => ""
  | k + 1 => "_" ++ toString (k + 2)

/-- The candidate with the suffix of the given place in the order. -/
def Identifier.candidate (i : Identifier) (k : Nat) : Identifier :=
  ⟨i.name ++ suffix k, i.abbr ++ suffix k⟩

/-- Either name is that of one of the identifiers listed. -/
def Identifier.Taken (earlier : List Identifier) (i : Identifier) : Prop :=
  ∃ e ∈ earlier, e.name = i.name ∨ e.abbr = i.abbr

/-- `out` is the first candidate for `i` that is free. -/
def Identifier.FirstFree (earlier : List Identifier) (i out : Identifier) : Prop :=
  ∃ k, out = i.candidate k ∧ ¬ (i.candidate k).Taken earlier ∧
    ∀ j, j < k → (i.candidate j).Taken earlier

/-- The requests of a run in order, each with the identifier returned. -/
def IdentifierTable.internAll (t : IdentifierTable) : List Place → List (Place × Identifier)
  | [] => []
  | place :: rest => (place, (t.intern place).1) :: (t.intern place).2.internAll rest

/-! ## Candidates -/

/-- Different suffixes are told apart. -/
theorem suffix_injective : Function.Injective suffix := by
  have behind : ∀ k, (suffix (k + 1)).toList = '_' :: Nat.toDigits 10 (k + 2) := by
    intro k
    simp [suffix]
  intro j k same
  have lists := congrArg String.toList same
  cases j with
  | zero =>
    cases k with
    | zero => rfl
    | succ k => rw [behind] at lists; cases lists
  | succ j =>
    cases k with
    | zero => rw [behind] at lists; cases lists
    | succ k =>
      rw [behind, behind] at lists
      have digits := congrArg (fun ds => Nat.ofDigitChars 10 ds 0) (List.cons.inj lists).2
      simp only [Nat.ofDigitChars_ten_toDigits] at digits
      omega

theorem append_suffix_injective (text : String) :
    Function.Injective fun k => text ++ suffix k := by
  intro j k same
  exact suffix_injective (String.append_right_inj text |>.1 same)

theorem candidate_succ (i : Identifier) (k : Nat) : i.candidate (k + 1) = i.numbered (k + 2) := by
  simp only [Identifier.candidate, Identifier.numbered, suffix, ← String.append_assoc]
  rfl

theorem candidate_zero (i : Identifier) : i.candidate 0 = i := by
  simp [Identifier.candidate, suffix]

/-- At most one number has a given image under an injective function. -/
theorem exists_card_le_one {α : Type} {f : Nat → α} (injective : Function.Injective f) (a : α) :
    ∃ s : Finset Nat, s.card ≤ 1 ∧ ∀ k, a = f k → k ∈ s := by
  by_cases h : ∃ k, f k = a
  · obtain ⟨k, rfl⟩ := h
    exact ⟨{k}, by simp, fun j same => by simp [injective same]⟩
  · exact ⟨∅, by simp, fun k same => absurd ⟨k, same.symm⟩ h⟩

/-- Each identifier in use rules out at most two candidates: one by its name, and one by its
abbreviation. -/
theorem exists_card_le_of_taken (earlier : List Identifier) (i : Identifier) :
    ∃ s : Finset Nat, s.card ≤ 2 * earlier.length ∧
      ∀ k, (i.candidate k).Taken earlier → k ∈ s := by
  induction earlier with
  | nil => exact ⟨∅, by simp, fun k ⟨e, mem, _⟩ => by cases mem⟩
  | cons e rest ih =>
    obtain ⟨s, size, covers⟩ := ih
    obtain ⟨names, oneName, byName⟩ := exists_card_le_one (append_suffix_injective i.name) e.name
    obtain ⟨abbrs, oneAbbr, byAbbr⟩ := exists_card_le_one (append_suffix_injective i.abbr) e.abbr
    refine ⟨names ∪ abbrs ∪ s, ?_, ?_⟩
    · have outer := Finset.card_union_le (names ∪ abbrs) s
      have inner := Finset.card_union_le names abbrs
      rw [List.length_cons]
      omega
    · rintro k ⟨e', mem, clash⟩
      simp only [Finset.mem_union]
      rcases List.mem_cons.1 mem with rfl | mem
      · rcases clash with clash | clash
        · exact .inl (.inl (byName k clash))
        · exact .inl (.inr (byAbbr k clash))
      · exact .inr (covers k ⟨e', mem, clash⟩)

/-- Among more consecutive candidates than twice the identifiers in use, one is free. -/
theorem exists_free_candidate (earlier : List Identifier) (i : Identifier) (first : Nat) :
    ∃ k, first ≤ k ∧ k ≤ first + 2 * earlier.length ∧ ¬ (i.candidate k).Taken earlier := by
  obtain ⟨s, size, covers⟩ := exists_card_le_of_taken earlier i
  have more : s.card < (Finset.Icc first (first + 2 * earlier.length)).card := by
    rw [Nat.card_Icc]
    omega
  obtain ⟨k, mem, free⟩ := Finset.exists_mem_notMem_of_card_lt_card more
  obtain ⟨low, high⟩ := Finset.mem_Icc.1 mem
  exact ⟨k, low, high, fun taken => free (covers k taken)⟩

/-! ## A single request -/

theorem spelling_eq_base (t : IdentifierTable) (place : Place) :
    t.spelling place = place.base t.protocol := by
  unfold IdentifierTable.spelling Place.base
  by_cases h : Text.snakeCase t.protocol = ""
  · simp [h]
  · simp only [List.map_cons, String.isEmpty_iff, if_neg h, String.intercalate_cons_cons]
    rfl

/-- The identifiers that a table has given out. -/
def IdentifierTable.inUse (t : IdentifierTable) : List Identifier := t.entries.map Prod.snd

theorem isTaken_iff (t : IdentifierTable) (i : Identifier) :
    t.isTaken i = true ↔ i.Taken t.inUse := by
  simp only [IdentifierTable.isTaken, Identifier.Taken, IdentifierTable.inUse, List.any_eq_true,
    Bool.or_eq_true, decide_eq_true_eq]
  constructor
  · rintro ⟨e, mem, clash⟩
    exact ⟨e.2, List.mem_map_of_mem mem, clash⟩
  · rintro ⟨_, mem, clash⟩
    obtain ⟨e, entry, rfl⟩ := List.mem_map.1 mem
    exact ⟨e, entry, clash⟩

/-- The bounded search returns the first free candidate from the given one on, or, if all of those
that it looks at are taken, the one after them. -/
theorem firstFree_eq_candidate (t : IdentifierTable) (i : Identifier) (tries start : Nat) :
    ∃ k, start + 1 ≤ k ∧ t.firstFree i tries (start + 2) = i.candidate k ∧
      (∀ j, start + 1 ≤ j → j < k → (i.candidate j).Taken t.inUse) ∧
      ((i.candidate k).Taken t.inUse → k = start + 1 + tries) := by
  induction tries generalizing start with
  | zero =>
    refine ⟨start + 1, Nat.le_refl _, (candidate_succ i start).symm, ?_, fun _ => rfl⟩
    intro j low high
    omega
  | succ tries ih =>
    rw [IdentifierTable.firstFree, ← candidate_succ]
    by_cases taken : t.isTaken (i.candidate (start + 1)) = true
    · obtain ⟨k, low, found, before, last⟩ := ih (start + 1)
      rw [if_pos taken]
      refine ⟨k, by omega, found, ?_, fun h => by have := last h; omega⟩
      intro j lowJ highJ
      rcases Nat.eq_or_lt_of_le lowJ with rfl | lowJ
      · exact (isTaken_iff t _).1 taken
      · exact before j lowJ highJ
    · rw [if_neg taken]
      refine ⟨start + 1, Nat.le_refl _, rfl, ?_, ?_⟩
      · intro j low high
        omega
      · intro h
        exact absurd ((isTaken_iff t _).2 h) taken

/-- A new place gets the first free candidate for its base identifier. -/
theorem fresh_firstFree (t : IdentifierTable) (place : Place) :
    Identifier.FirstFree t.inUse (place.base t.protocol) (t.fresh place) := by
  rw [← spelling_eq_base]
  unfold IdentifierTable.fresh
  generalize t.spelling place = i
  by_cases taken : t.isTaken i = true
  · obtain ⟨k, low, found, before, last⟩ := firstFree_eq_candidate t i (2 * t.entries.length) 0
    have free : ¬ (i.candidate k).Taken t.inUse := by
      -- otherwise all candidates looked at would be taken, and they are too many
      intro full
      obtain ⟨j, lowJ, highJ, freeJ⟩ := exists_free_candidate t.inUse i 1
      have limit := last full
      rw [IdentifierTable.inUse, List.length_map] at highJ
      rcases Nat.lt_or_ge j k with less | more
      · exact freeJ (before j lowJ less)
      · cases Nat.le_antisymm (by omega) more
        exact freeJ full
    simp only [if_pos taken]
    refine ⟨k, found, free, ?_⟩
    intro j high
    cases j with
    | zero => rw [candidate_zero]; exact (isTaken_iff t i).1 taken
    | succ j => exact before (j + 1) (by omega) high
  · simp only [if_neg taken]
    refine ⟨0, (candidate_zero i).symm, ?_, fun j high => absurd high (Nat.not_lt_zero j)⟩
    rw [candidate_zero, ← isTaken_iff]
    exact taken

/-- A request finds the place in the table, or enters it with a new identifier. -/
theorem intern_cases (t : IdentifierTable) (place : Place) :
    (∃ i, (place, i) ∈ t.entries ∧ t.intern place = (i, t)) ∨
    ((∀ e ∈ t.entries, e.1 ≠ place) ∧ t.intern place =
      (t.fresh place, ⟨t.protocol, (place, t.fresh place) :: t.entries⟩)) := by
  unfold IdentifierTable.intern
  cases found : t.entries.find? fun e => e.1 = place with
  | some e =>
    have here : e.1 = place := by simpa using List.find?_some found
    have mem := List.mem_of_find?_eq_some found
    rw [← here]
    exact .inl ⟨e.2, mem, rfl⟩
  | none =>
    refine .inr ⟨fun e mem => ?_, rfl⟩
    simpa using List.find?_eq_none.1 found e mem

/-! ## Runs -/

/-- Neither the places of two entries nor their names nor their abbreviations are equal. -/
structure Distinct (a b : Place × Identifier) : Prop where
  place : a.1 ≠ b.1
  name : a.2.name ≠ b.2.name
  abbr : a.2.abbr ≠ b.2.abbr

instance : Std.Symm Distinct := ⟨fun _ _ d => ⟨d.place.symm, d.name.symm, d.abbr.symm⟩⟩

/-- A request keeps entries distinct. -/
theorem intern_distinct {t : IdentifierTable} (distinct : t.entries.Pairwise Distinct)
    (place : Place) : (t.intern place).2.entries.Pairwise Distinct := by
  rcases intern_cases t place with ⟨i, -, done⟩ | ⟨new, done⟩
  · rwa [done]
  · rw [done]
    obtain ⟨k, candidate, free, -⟩ := fresh_firstFree t place
    rw [← candidate] at free
    refine List.pairwise_cons.2 ⟨fun e mem => ?_, distinct⟩
    have entry : e.2 ∈ t.inUse := List.mem_map_of_mem mem
    refine ⟨(new e mem).symm, fun same => free ⟨e.2, entry, .inl same.symm⟩, fun same => ?_⟩
    exact free ⟨e.2, entry, .inr same.symm⟩

/-- Behind a request the table has the entries it had and the one returned. -/
theorem mem_entries_intern_iff (t : IdentifierTable) (place : Place) (e : Place × Identifier) :
    e ∈ (t.intern place).2.entries ↔ e = (place, (t.intern place).1) ∨ e ∈ t.entries := by
  rcases intern_cases t place with ⟨i, here, done⟩ | ⟨-, done⟩
  · rw [done]
    refine ⟨.inr, ?_⟩
    rintro (rfl | mem)
    · exact here
    · exact mem
  · rw [done]
    exact List.mem_cons

theorem intern_protocol (t : IdentifierTable) (place : Place) :
    (t.intern place).2.protocol = t.protocol := by
  rcases intern_cases t place with ⟨_, -, done⟩ | ⟨-, done⟩ <;> rw [done]

/-- All that a table with distinct entries has given out or will give out in a run is equal or
distinct. -/
theorem internAll_eq_or_distinct {t : IdentifierTable} (distinct : t.entries.Pairwise Distinct)
    (places : List Place) {a b : Place × Identifier} (ha : a ∈ t.entries ∨ a ∈ t.internAll places)
    (hb : b ∈ t.entries ∨ b ∈ t.internAll places) : a = b ∨ Distinct a b := by
  induction places generalizing t with
  | nil =>
    have ha' : a ∈ t.entries := by simpa [IdentifierTable.internAll] using ha
    have hb' : b ∈ t.entries := by simpa [IdentifierTable.internAll] using hb
    by_cases same : a = b
    · exact .inl same
    · exact .inr (distinct.forall ha' hb' same)
  | cons place rest ih =>
    -- what the request returns is an entry of the table behind it
    have later : ∀ e, e ∈ t.entries ∨ e ∈ t.internAll (place :: rest) →
        e ∈ (t.intern place).2.entries ∨ e ∈ (t.intern place).2.internAll rest := by
      intro e he
      rw [mem_entries_intern_iff]
      rcases he with mem | mem
      · exact .inl (.inr mem)
      · rcases List.mem_cons.1 mem with first | mem
        · exact .inl (.inl first)
        · exact .inr mem
    exact ih (intern_distinct distinct place) (later a ha) (later b hb)

/-- Only which identifiers are in use matters for which candidate is free. -/
theorem Identifier.FirstFree.congr {earlier earlier' : List Identifier} {i out : Identifier}
    (same : ∀ e, e ∈ earlier ↔ e ∈ earlier') (h : FirstFree earlier i out) :
    FirstFree earlier' i out := by
  have taken : ∀ j, Taken earlier j ↔ Taken earlier' j := by
    intro j
    simp only [Taken, same]
  obtain ⟨k, candidate, free, before⟩ := h
  exact ⟨k, candidate, fun h => free ((taken _).2 h), fun j less => (taken _).1 (before j less)⟩

/-- The first request of a place in a run gets the first candidate that is free then. -/
theorem internAll_firstFree (t : IdentifierTable) (places : List Place)
    {before after : List (Place × Identifier)} {a : Place × Identifier}
    (run : t.internAll places = before ++ a :: after)
    (new : ∀ e, e ∈ t.entries ∨ e ∈ before → e.1 ≠ a.1) :
    Identifier.FirstFree ((t.entries ++ before).map Prod.snd) (a.1.base t.protocol) a.2 := by
  induction places generalizing t before with
  | nil => simp [IdentifierTable.internAll] at run
  | cons place rest ih =>
    cases before with
    | nil =>
      obtain ⟨rfl, -⟩ := List.cons.inj run
      rcases intern_cases t place with ⟨i, here, -⟩ | ⟨-, done⟩
      · exact absurd rfl (new (place, i) (.inl here))
      · rw [done, List.append_nil]
        exact fresh_firstFree t place
    | cons b before =>
      obtain ⟨rfl, run'⟩ := List.cons.inj run
      have found := ih (t.intern place).2 run' fun e he => new e (by
        rw [mem_entries_intern_iff] at he
        simp only [List.mem_cons]
        tauto)
      rw [intern_protocol] at found
      refine found.congr fun i => ?_
      simp only [List.mem_map, List.mem_append, List.mem_cons, mem_entries_intern_iff]
      refine exists_congr fun e => and_congr_left fun _ => ?_
      tauto

theorem map_fst_internAll (t : IdentifierTable) (places : List Place) :
    (t.internAll places).map Prod.fst = places := by
  induction places generalizing t with
  | nil => rfl
  | cons place rest ih => rw [IdentifierTable.internAll, List.map_cons, ih]

/-- A request in a run has a first one of the same place. -/
theorem exists_first_request {run : List (Place × Identifier)} {a : Place × Identifier}
    (mem : a ∈ run) : ∃ before b after, run = before ++ b :: after ∧ b.1 = a.1 ∧
      ∀ e ∈ before, e.1 ≠ a.1 := by
  have occurs : (run.find? fun e => e.1 = a.1).isSome := by
    rw [List.find?_isSome]
    exact ⟨a, mem, by simp⟩
  obtain ⟨b, found⟩ := Option.isSome_iff_exists.1 occurs
  obtain ⟨same, before, after, split, new⟩ := List.find?_eq_some_iff_append.1 found
  exact ⟨before, b, after, split, by simpa using same, by simpa using new⟩

/-- In a run of requests to a new table, requests of equal places return equal identifiers, and
requests of different places return identifiers that differ in both names. Each identifier returned
is the base identifier of its place with the first suffix in the order nothing, 2, 3, … with which
neither name was returned before the first request of the place. Whatever identifiers are in use,
the search for such a suffix ends. -/
theorem internAll_stable_injective_least (protocol : String) (places : List Place) :
    let run := (IdentifierTable.empty protocol).internAll places
    run.map Prod.fst = places ∧
    (∀ a ∈ run, ∀ b ∈ run, a.1 = b.1 → a.2 = b.2) ∧
    (∀ a ∈ run, ∀ b ∈ run, a.1 ≠ b.1 → a.2.name ≠ b.2.name ∧ a.2.abbr ≠ b.2.abbr) ∧
    (∀ a ∈ run, ∃ before after, run = before ++ a :: after ∧ (∀ e ∈ before, e.1 ≠ a.1) ∧
      Identifier.FirstFree (before.map Prod.snd) (a.1.base protocol) a.2) ∧
    (∀ (earlier : List Identifier) (i : Identifier),
      ∃ k, k ≤ 2 * earlier.length ∧ ¬ (i.candidate k).Taken earlier) := by
  intro run
  have apart : ∀ a ∈ run, ∀ b ∈ run, a = b ∨ Distinct a b := fun a ha b hb =>
    internAll_eq_or_distinct .nil places (.inr ha) (.inr hb)
  have stable : ∀ a ∈ run, ∀ b ∈ run, a.1 = b.1 → a = b := by
    intro a ha b hb same
    rcases apart a ha b hb with equal | distinct
    · exact equal
    · exact absurd same distinct.place
  refine ⟨map_fst_internAll _ places, ?_, ?_, ?_, ?_⟩
  · intro a ha b hb same
    rw [stable a ha b hb same]
  · intro a ha b hb differ
    rcases apart a ha b hb with rfl | distinct
    · exact absurd rfl differ
    · exact ⟨distinct.name, distinct.abbr⟩
  · intro a ha
    obtain ⟨before, b, after, split, same, new⟩ := exists_first_request ha
    have hb : b ∈ run := by
      rw [split]
      simp
    cases stable b hb a ha same
    refine ⟨before, after, split, new, ?_⟩
    refine internAll_firstFree (.empty protocol) places split fun e he => ?_
    rcases he with known | mem
    · cases known
    · exact new e mem
  · intro earlier i
    obtain ⟨k, -, high, free⟩ := exists_free_candidate earlier i 0
    exact ⟨k, by omega, free⟩

-- `X` clashes with `x`, and its number with a place that is spelled so
example : ((IdentifierTable.empty "Game").internAll
    [⟨.method "Ask", ["x"]⟩, ⟨.method "Ask", ["X"]⟩, ⟨.method "Ask", ["x_2"]⟩,
      ⟨.method "Ask", ["x"]⟩]).map Prod.snd =
    [⟨"ask_x", "game.ask.x"⟩, ⟨"ask_x_2", "game.ask.x_2"⟩, ⟨"ask_x_2_2", "game.ask.x_2_2"⟩,
      ⟨"ask_x", "game.ask.x"⟩] := by decide

end Dissect.Layout
