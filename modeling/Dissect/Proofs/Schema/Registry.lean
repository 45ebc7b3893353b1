import Dissect.Schema.Registry

/-!
# The classes of a registry

A class of a registry is determined by its place, so that the comparison of places decides whether
a class is among classes of the registry (`Registry.isIn_iff_mem`).
-/

set_option autoImplicit false

namespace Dissect.Schema.Registry

variable {r : Registry}

/-- The classes of a registry are those found at their places. -/
theorem mem_classes_iff {c : ClassSite} :
    c ∈ r.classes ↔ ∃ n, r.namespaces[c.space]? = some n ∧ n.name = c.spaceName ∧
      n.classes[c.slot]? = some c.decl := by
  simp only [classes, List.mem_flatMap, List.mem_map, Prod.exists, List.mem_zipIdx_iff_getElem?]
  constructor
  · rintro ⟨n, i, at_i, decl, j, at_j, rfl⟩
    exact ⟨n, at_i, rfl, at_j⟩
  · rintro ⟨n, at_i, named, at_j⟩
    exact ⟨n, c.space, at_i, c.decl, c.slot, at_j, by rw [named]⟩

theorem eq_of_same {c d : ClassSite} (hc : c ∈ r.classes) (hd : d ∈ r.classes)
    (same : c.same d = true) : c = d := by
  obtain ⟨n, at_space, spaceName, at_slot⟩ := mem_classes_iff.1 hc
  obtain ⟨n', at_space', spaceName', at_slot'⟩ := mem_classes_iff.1 hd
  simp only [ClassSite.same, Bool.and_eq_true, decide_eq_true_eq] at same
  obtain ⟨space, slot⟩ := same
  cases (space ▸ at_space).symm.trans at_space'
  have decl : c.decl = d.decl := Option.some.inj ((slot ▸ at_slot).symm.trans at_slot')
  cases c
  cases d
  simp_all

theorem isIn_iff_mem {c : ClassSite} {seen : List ClassSite} (hc : c ∈ r.classes)
    (known : ∀ d ∈ seen, d ∈ r.classes) : c.isIn seen = true ↔ c ∈ seen := by
  simp only [ClassSite.isIn, List.any_eq_true]
  constructor
  · rintro ⟨d, mem, same⟩
    rwa [← eq_of_same (known d mem) hc same]
  · intro mem
    exact ⟨c, mem, c.same_self⟩

/-- Where no class is unseen, every class has been listed. -/
theorem isIn_of_unseen_eq_zero {seen : List ClassSite} {c : ClassSite} (known : c ∈ r.classes)
    (exhausted : r.unseen seen = 0) : c.isIn seen = true := by
  have listed := List.countP_eq_zero.1 exhausted c known
  simpa using listed

/-! ## Names -/

/-- A name means a class of that name. -/
theorem name_of_resolve {view : Nat} {name : String} {c : ClassSite}
    (found : r.resolve view name = .ok c) : c.decl.name = name := by
  unfold resolve at found
  split at found
  · next d here =>
    cases found
    have mem := List.mem_filter.1 (here ▸ List.mem_singleton_self c)
    exact of_decide_eq_true (Bool.and_eq_true_iff.1 mem.2).2
  · cases found
  · split at found
    · next d anywhere =>
      cases found
      have mem := List.mem_filter.1 (anywhere ▸ List.mem_singleton_self c)
      exact of_decide_eq_true mem.2
    · cases found
    · cases found

/-- A name without a meaning is unknown or ambiguous, and no circle. -/
theorem resolve_error_ne_circular {view : Nat} {name : String} {e : SchemaError}
    (failed : r.resolve view name = .error e) (path : List String) :
    e ≠ .circularReference path := by
  unfold resolve at failed
  split at failed
  · cases failed
  · cases failed
    exact SchemaError.noConfusion
  · split at failed
    · cases failed
    · cases failed
      exact SchemaError.noConfusion
    · cases failed
      exact SchemaError.noConfusion

/-! ## Bases -/

/-- The chain ends at a class without a base. -/
theorem baseChain_of_base_none {view : Nat} {chain : List ClassSite} {c : ClassSite}
    (base : c.decl.base = none) : r.baseChain view chain c = .ok chain := by
  rw [baseChain, base]

/-- The chain goes on with a base that is not yet part of it. -/
theorem baseChain_of_base_some {view : Nat} {chain : List ClassSite} {c next : ClassSite}
    {name : String} (base : c.decl.base = some name) (found : r.resolve view name = .ok next)
    (new : next.isIn chain = false) :
    r.baseChain view chain c = r.baseChain view (chain ++ [next]) next := by
  rw [baseChain, base]
  simp only
  split
  · next e failed => rw [found] at failed; cases failed
  · next d found' =>
    cases found.symm.trans found'
    rw [dif_neg (by simp [new])]

/-- The chain fails at a base that does not resolve. -/
theorem baseChain_of_base_error {view : Nat} {chain : List ClassSite} {c : ClassSite}
    {name : String} (base : c.decl.base = some name) {e : SchemaError}
    (failed : r.resolve view name = .error e) : r.baseChain view chain c = .error e := by
  rw [baseChain, base]
  simp only
  split
  · next e' failed' =>
    cases failed.symm.trans failed'
    rfl
  · next d found => rw [failed] at found; cases found

/-- The chain fails at a base that is already part of it. -/
theorem baseChain_of_base_old {view : Nat} {chain : List ClassSite} {c next : ClassSite}
    {name : String} (base : c.decl.base = some name) (found : r.resolve view name = .ok next)
    (old : next.isIn chain = true) : r.baseChain view chain c = .error (circle chain next) := by
  rw [baseChain, base]
  simp only
  split
  · next e failed => rw [found] at failed; cases failed
  · next d found' =>
    cases found.symm.trans found'
    rw [dif_pos old]

section Forall

variable {view : Nat} {P : ClassSite → Prop}
  (step : ∀ {c next : ClassSite} {base : String}, P c → c.decl.base = some base →
    r.resolve view base = .ok next → P next)

include step

/-- What goes over from a class to its base holds along a chain of bases. -/
theorem baseChain_forall {chain bases : List ClassSite} {c : ClassSite} (here : P c)
    (before : ∀ d ∈ chain, P d) (followed : r.baseChain view chain c = .ok bases) :
    ∀ d ∈ bases, P d := by
  fun_induction baseChain r view chain c with
  | case1 chain c baseless =>
    cases followed
    exact before
  | case2 chain c base derived e failed => cases followed
  | case3 chain c base derived next found old => cases followed
  | case4 chain c base derived next found new ih =>
    have there : P next := step here derived found
    apply ih there _ followed
    exact List.forall_mem_append.2 ⟨before, List.forall_mem_singleton.2 there⟩

/-- What goes over from a class to its base holds of the classes that its fields come from. -/
theorem flatten_forall {c : ClassSite} (here : P c) {fields : List FlatField}
    (flat : r.flatten view c = .ok fields) {f : FlatField} (mem : f ∈ fields) :
    P f.owner ∧ f.field ∈ f.owner.decl.fields := by
  unfold flatten at flat
  cases followed : r.baseChain view [c] c with
  | error e =>
    rw [followed] at flat
    cases flat
  | ok bases =>
    rw [followed] at flat
    cases flat
    obtain ⟨owner, base, inside⟩ := List.mem_flatMap.1 mem
    obtain ⟨f', declared, rfl⟩ := List.mem_map.1 inside
    have holds := baseChain_forall step here (List.forall_mem_singleton.2 here) followed
    exact ⟨holds owner (List.mem_reverse.1 base), declared⟩

end Forall

end Dissect.Schema.Registry
