import Dissect.Proofs.Document.Methods

/-!
# The ids of methods

The id of a method is the place of its declaration, counted from one. A declaration that is left out
keeps its place, so that it leaves a gap and does not shift the ids behind it (`Numbers`). Ids are
thus strictly increasing, and the method of an id is the one declared at that place
(`Numbers.method?_eq_some_iff`).
-/

set_option autoImplicit false

namespace Dissect.Document

open Schema

/-- With places counted from `first`, a method is declared at place `k`, and its conversion has this
result. -/
def DeclaredAs (first : Nat) (declared : List Element) (k : Nat)
    (result : Except DocumentError Method) : Prop :=
  ∃ i name elements, k = first + i ∧ declared[i]? = some (.method name elements) ∧
    convertMethod k name elements = result

namespace DeclaredAs

variable {first k : Nat} {e : Element} {rest declared : List Element}
  {result other : Except DocumentError Method}

theorem here {name : String} {elements : List Element}
    (converted : convertMethod first name elements = result) :
    DeclaredAs first (.method name elements :: rest) first result :=
  ⟨0, name, elements, rfl, rfl, converted⟩

theorem later (behind : DeclaredAs (first + 1) rest k result) :
    DeclaredAs first (e :: rest) k result := by
  obtain ⟨i, name, elements, place, found, converted⟩ := behind
  exact ⟨i + 1, name, elements, by omega, found, converted⟩

/-- What is declared first, or behind. -/
theorem cases_cons (declares : DeclaredAs first (e :: rest) k result) :
    (k = first ∧ ∃ name elements, e = .method name elements ∧
      convertMethod first name elements = result) ∨ DeclaredAs (first + 1) rest k result := by
  obtain ⟨i, name, elements, rfl, found, converted⟩ := declares
  cases i with
  | zero =>
    rw [List.getElem?_cons_zero] at found
    exact .inl ⟨rfl, name, elements, Option.some.inj found, converted⟩
  | succ i =>
    rw [List.getElem?_cons_succ] at found
    exact .inr ⟨i, name, elements, by omega, found, converted⟩

/-- There is one declaration at a place, and its conversion has one result. -/
theorem unique (one : DeclaredAs first declared k result)
    (two : DeclaredAs first declared k other) : result = other := by
  obtain ⟨i, name, elements, rfl, found, converted⟩ := one
  obtain ⟨j, name', elements', place, found', converted'⟩ := two
  obtain rfl : i = j := by omega
  cases Option.some.inj (found.symm.trans found')
  exact converted.symm.trans converted'

end DeclaredAs

theorem id_of_convertMethod {id : Nat} {name : String} {elements : List Element} {m : Method}
    (converted : convertMethod id name elements = .ok m) : m.id = id := by
  obtain ⟨_, _, _, -, made⟩ :=
    convertMethod_gathers id name (acceptable_of_convertMethod converted)
  obtain rfl := Except.ok.inj (made.symm.trans converted)
  rfl

theorem DeclaredAs.id_eq {first k : Nat} {declared : List Element} {m : Method}
    (declares : DeclaredAs first declared k (.ok m)) : m.id = k := by
  obtain ⟨_, _, _, -, -, converted⟩ := declares
  exact id_of_convertMethod converted

/-- The declarations become the methods, each with its place as id. One with a parameter that goes
in neither direction is left out, and what comes behind it has the same id as if it were there. -/
inductive Numbers : Nat → List Element → List Method → Prop
  | nil {first : Nat} : Numbers first [] []
  | kept {first : Nat} {name : String} {elements : List Element} {m : Method} {rest : List Element}
      {ms : List Method} (converted : convertMethod first name elements = .ok m)
      (others : Numbers (first + 1) rest ms) :
      Numbers first (.method name elements :: rest) (m :: ms)
  | skipped {first : Nat} {name : String} {elements : List Element} {parameter direction : String}
      {rest : List Element} {ms : List Method}
      (refused : convertMethod first name elements = .error (.invalidDirection parameter direction))
      (others : Numbers (first + 1) rest ms) : Numbers first (.method name elements :: rest) ms

/-- As long as places are small enough to be ids, they are. -/
theorem convertMethods_numbers {protocol : String} {index : Nat} {declared : List Element}
    {ms : List Method} (few : index + declared.length ≤ greatestId)
    (converted : convertMethods protocol index declared = .ok ms) :
    Numbers (index + 1) declared ms := by
  induction declared generalizing index ms with
  | nil =>
    cases converted
    exact .nil
  | cons e rest ih =>
    rw [List.length_cons] at few
    have place : min (index + 1) greatestId = index + 1 := by omega
    have behind : index + 1 + rest.length ≤ greatestId := by omega
    cases e with
    | method name elements =>
      -- the loop goes on with the next place, whether there is a method at this one or not
      rw [convertMethods, place] at converted
      cases made : convertMethod (index + 1) name elements with
      | ok m =>
        simp only [made] at converted
        cases others : convertMethods protocol (index + 1) rest with
        | error error =>
          rw [others] at converted
          cases converted
        | ok ms' =>
          rw [others] at converted
          cases converted
          exact .kept made (ih behind others)
      | error error =>
        cases error with
        | invalidDirection parameter direction =>
          simp only [made] at converted
          exact .skipped made (ih behind converted)
        | _ =>
          -- any other error is one of the whole protocol
          simp only [made] at converted
          cases converted
    | _ => cases converted

namespace Numbers

variable {first : Nat} {declared : List Element} {ms : List Method}

theorem le_id (numbers : Numbers first declared ms) : ∀ m ∈ ms, first ≤ m.id := by
  induction numbers with
  | nil => exact List.forall_mem_nil _
  | kept converted _ ih =>
    refine List.forall_mem_cons.2 ⟨?_, fun m mem => ?_⟩
    · exact Nat.le_of_eq (id_of_convertMethod converted).symm
    · exact Nat.le_of_succ_le (ih m mem)
  | skipped _ _ ih => exact fun m mem => Nat.le_of_succ_le (ih m mem)

/-- Ids are strictly increasing. -/
theorem pairwise_id (numbers : Numbers first declared ms) :
    ms.Pairwise fun a b => a.id < b.id := by
  induction numbers with
  | nil => exact .nil
  | kept converted others ih =>
    refine .cons (fun m mem => ?_) ih
    rw [id_of_convertMethod converted]
    exact others.le_id m mem
  | skipped _ _ ih => exact ih

/-- The methods are those whose declarations can be converted. -/
theorem mem_iff (numbers : Numbers first declared ms) {m : Method} :
    m ∈ ms ↔ DeclaredAs first declared m.id (.ok m) := by
  induction numbers with
  | nil =>
    constructor
    · intro mem
      cases mem
    · rintro ⟨i, name, elements, -, found, -⟩
      cases found
  | @kept first name elements m' rest ms converted others ih =>
    constructor
    · intro mem
      rcases List.mem_cons.1 mem with rfl | mem
      · rw [id_of_convertMethod converted]
        exact .here converted
      · exact (ih.1 mem).later
    · intro declares
      rcases declares.cases_cons with ⟨-, name', elements', shape, converted'⟩ | behind
      · cases shape
        cases converted.symm.trans converted'
        exact List.mem_cons_self
      · exact List.mem_cons_of_mem _ (ih.2 behind)
  | skipped refused others ih =>
    rw [ih]
    constructor
    · exact DeclaredAs.later
    · intro declares
      rcases declares.cases_cons with ⟨-, name', elements', shape, converted⟩ | behind
      · cases shape
        cases refused.symm.trans converted
      · exact behind

/-- At every place a method is declared, and it is converted or left out. -/
theorem exists_declaredAs (numbers : Numbers first declared ms) {k : Nat} (above : first ≤ k)
    (below : k < first + declared.length) :
    ∃ result, DeclaredAs first declared k result ∧ ((∃ m, result = .ok m) ∨
      ∃ parameter direction, result = .error (.invalidDirection parameter direction)) := by
  induction numbers with
  | nil =>
    rw [List.length_nil] at below
    omega
  | kept converted others ih =>
    rw [List.length_cons] at below
    rcases Nat.eq_or_lt_of_le above with rfl | above
    · exact ⟨_, .here converted, .inl ⟨_, rfl⟩⟩
    · obtain ⟨result, declares, kind⟩ := ih above (by omega)
      exact ⟨result, declares.later, kind⟩
  | skipped refused others ih =>
    rw [List.length_cons] at below
    rcases Nat.eq_or_lt_of_le above with rfl | above
    · exact ⟨_, .here refused, .inr ⟨_, _, rfl⟩⟩
    · obtain ⟨result, declares, kind⟩ := ih above (by omega)
      exact ⟨result, declares.later, kind⟩

/-- A place has no method exactly if the one declared there is left out. -/
theorem forall_id_ne_iff (numbers : Numbers first declared ms) {k : Nat} (above : first ≤ k)
    (below : k < first + declared.length) :
    (∀ m ∈ ms, m.id ≠ k) ↔ ∃ parameter direction,
      DeclaredAs first declared k (.error (.invalidDirection parameter direction)) := by
  constructor
  · intro unused
    obtain ⟨result, declares, ⟨m, rfl⟩ | ⟨parameter, direction, rfl⟩⟩ :=
      numbers.exists_declaredAs above below
    · obtain rfl := declares.id_eq
      exact absurd rfl (unused m (numbers.mem_iff.2 declares))
    · exact ⟨parameter, direction, declares⟩
  · rintro ⟨parameter, direction, refused⟩ m mem rfl
    cases (numbers.mem_iff.1 mem).unique refused

end Numbers

/-- Where ids are strictly increasing, the first method of an id is the only one. -/
theorem filter_id_eq_toList {ms : List Method} (increasing : ms.Pairwise fun a b => a.id < b.id)
    (k : Nat) : ms.filter (fun m => m.id = k) = (ms.find? fun m => m.id = k).toList := by
  induction ms with
  | nil => rfl
  | cons head rest ih =>
    obtain ⟨before, increasing⟩ := List.pairwise_cons.1 increasing
    by_cases here : head.id = k
    · have behind : rest.filter (fun m => m.id = k) = [] := by
        rw [List.filter_eq_nil_iff]
        intro m mem same
        have less := before m mem
        rw [here, of_decide_eq_true same] at less
        omega
      rw [List.filter_cons_of_pos (by simpa using here),
        List.find?_cons_of_pos (by simpa using here), behind]
      rfl
    · rw [List.filter_cons_of_neg (by simpa using here),
        List.find?_cons_of_neg (by simpa using here)]
      exact ih increasing

section Protocols

variable {name : String} {id : Option UInt16} {declared : List Element} {p : Protocol}

theorem convertProtocol_numbers (few : declared.length < Nat.pow 2 32)
    (converted : convertProtocol name id declared = .ok p) : Numbers 1 declared p.methods := by
  unfold convertProtocol at converted
  cases made : convertMethods name 0 declared with
  | error error =>
    rw [made] at converted
    cases converted
  | ok ms =>
    rw [made] at converted
    cases converted
    refine convertMethods_numbers ?_ made
    show 0 + declared.length ≤ Nat.pow 2 32 - 1
    omega

/-- The method of an id is the one declared at that place. -/
theorem Numbers.method?_eq_some_iff (numbers : Numbers 1 declared p.methods) {k : Nat}
    {m : Method} : p.method? k = some m ↔ DeclaredAs 1 declared k (.ok m) := by
  have only : p.method? k = some m ↔ m ∈ p.methods ∧ m.id = k := by
    rw [Protocol.method?, ← Option.mem_toList, ← filter_id_eq_toList numbers.pairwise_id,
      List.mem_filter, decide_eq_true_eq]
  rw [only]
  constructor
  · rintro ⟨mem, rfl⟩
    exact numbers.mem_iff.1 mem
  · intro declares
    obtain rfl := declares.id_eq
    exact ⟨numbers.mem_iff.2 declares, rfl⟩

end Protocols

end Dissect.Document
