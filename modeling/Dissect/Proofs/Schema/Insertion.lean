import Dissect.Proofs.Schema.Required

/-!
# Registries with further namespaces

An `Insertion` puts further namespaces into a list of namespaces, anywhere, and moves the others to
new places. A class that was there before is still there, at its new place (`ClassSite.moved`).

What a name means from a namespace is not changed by further namespaces that do not declare it, nor
by any further namespaces if the namespace itself declares it (`Insertion.resolve_moved`). As far as
that holds of all names that classes mention, chains of bases, fields and needed classes are the same
as before, at their new places (`Keeps.flatten_moved`, `Keeps.visit_moved`).
-/

set_option autoImplicit false

namespace Dissect.Schema

/-! ## Insertions -/

/-- How further namespaces are put into a list. -/
inductive Insertion : List Namespace → List Namespace → Type
  | nil : Insertion [] []
  /-- A namespace that was there before. -/
  | keep {l l' : List Namespace} (n : Namespace) (rest : Insertion l l') :
      Insertion (n :: l) (n :: l')
  /-- A further namespace. -/
  | add {l l' : List Namespace} (n : Namespace) (rest : Insertion l l') : Insertion l (n :: l')

namespace Insertion

/-- The namespaces that are put in. -/
def added : {l l' : List Namespace} → Insertion l l' → List Namespace
  | _, _, .nil => []
  | _, _, .keep _ rest => rest.added
  | _, _, .add n rest => n :: rest.added

/-- The new place of the namespace at a place. -/
def place : {l l' : List Namespace} → Insertion l l' → Nat → Nat
  | _, _, .nil, i => i
  | _, _, .keep _ _, 0 => 0
  | _, _, .keep _ rest, i + 1 => rest.place i + 1
  | _, _, .add _ rest, i => rest.place i + 1

/-- Each namespace is found at its new place. -/
theorem getElem?_place {l l' : List Namespace} (ins : Insertion l l') (i : Nat) :
    l'[ins.place i]? = l[i]? := by
  induction ins generalizing i with
  | nil => simp
  | keep n rest ih =>
    cases i with
    | zero => rfl
    | succ i =>
      rw [place, List.getElem?_cons_succ, List.getElem?_cons_succ]
      exact ih i
  | add n rest ih =>
    rw [place, List.getElem?_cons_succ]
    exact ih i

/-- No two places become one. -/
theorem place_injective {l l' : List Namespace} (ins : Insertion l l') {i j : Nat}
    (same : ins.place i = ins.place j) : i = j := by
  induction ins generalizing i j with
  | nil => exact same
  | keep n rest ih =>
    cases i with
    | zero =>
      cases j with
      | zero => rfl
      | succ j => exact absurd same (Nat.succ_ne_zero _).symm
    | succ i =>
      cases j with
      | zero => exact absurd same (Nat.succ_ne_zero _)
      | succ j => rw [ih (Nat.succ.inj same)]
  | add n rest ih => exact ih (Nat.succ.inj same)

end Insertion

/-! ## Classes at new places -/

/-- The class at its new place. -/
def ClassSite.moved (place : Nat → Nat) (c : ClassSite) : ClassSite :=
  { c with space := place c.space }

namespace ClassSite

variable {place : Nat → Nat}

@[simp] theorem moved_space (c : ClassSite) : (c.moved place).space = place c.space := rfl

@[simp] theorem moved_spaceName (c : ClassSite) : (c.moved place).spaceName = c.spaceName := rfl

@[simp] theorem moved_decl (c : ClassSite) : (c.moved place).decl = c.decl := rfl

@[simp] theorem moved_qualifiedName (c : ClassSite) :
    (c.moved place).qualifiedName = c.qualifiedName := rfl

theorem isIn_moved (injective : ∀ i j, place i = place j → i = j) (c : ClassSite)
    (seen : List ClassSite) : (c.moved place).isIn (seen.map (moved place)) = c.isIn seen := by
  have same (d : ClassSite) : (d.moved place).same (c.moved place) = d.same c := by
    by_cases equal : d.space = c.space
    · simp [ClassSite.same, moved, equal]
    · have apart : place d.space ≠ place c.space := fun h => equal (injective _ _ h)
      simp [ClassSite.same, moved, equal, apart]
  rw [isIn, isIn, List.any_map]
  exact congrArg (List.any seen) (funext same)

end ClassSite

/-- A field whose class is at its new place. -/
def FlatField.moved (place : Nat → Nat) (f : FlatField) : FlatField :=
  { f with owner := f.owner.moved place }

/-- The classes of namespaces, the first of which stands at place `k`. -/
def sitesFrom (k : Nat) : List Namespace → List ClassSite
  | [] => []
  | n :: rest => (n.classes.zipIdx.map fun c => ⟨k, c.2, n.name, c.1⟩) ++ sitesFrom (k + 1) rest

theorem Registry.classes_eq_sitesFrom (r : Registry) : r.classes = sitesFrom 0 r.namespaces := by
  have general (k : Nat) (l : List Namespace) :
      (l.zipIdx k).flatMap (fun n => n.1.classes.zipIdx.map fun c =>
        (⟨n.2, c.2, n.1.name, c.1⟩ : ClassSite)) = sitesFrom k l := by
    induction l generalizing k with
    | nil => rfl
    | cons n rest ih => rw [List.zipIdx_cons, List.flatMap_cons, ih, sitesFrom]
  exact general 0 r.namespaces

namespace Insertion

/-- Classes selected among the old ones and among all. Nothing is selected of the further namespaces,
which stand where none of the old ones does. -/
theorem filter_sitesFrom {l l' : List Namespace} (ins : Insertion l l') (k k' : Nat)
    {f : Nat → Nat} (shift : ∀ i, f (k + i) = k' + ins.place i) {old all : ClassSite → Bool}
    (kept : ∀ c : ClassSite, all (c.moved f) = old c)
    (new : ∀ c : ClassSite, (∃ n ∈ ins.added, c.decl ∈ n.classes) → k' ≤ c.space →
      (∀ i, c.space ≠ k' + ins.place i) → all c = false) :
    (sitesFrom k' l').filter all = ((sitesFrom k l).filter old).map (ClassSite.moved f) := by
  induction ins generalizing k k' with
  | nil => rfl
  | keep n rest ih =>
    have first : (n.classes.zipIdx.map fun c => (⟨k', c.2, n.name, c.1⟩ : ClassSite)) =
        (n.classes.zipIdx.map fun c => (⟨k, c.2, n.name, c.1⟩ : ClassSite)).map
          (ClassSite.moved f) := by
      have here : f k = k' := shift 0
      rw [List.map_map]
      refine List.map_congr_left fun c _ => ?_
      simp [ClassSite.moved, here]
    have others := ih (k + 1) (k' + 1) ?_ ?_
    · rw [sitesFrom, sitesFrom, List.filter_append, List.filter_append, List.map_append, others,
        first, List.filter_map]
      congr 3
      funext c
      exact kept c
    · intro i
      have next := shift (i + 1)
      rw [place] at next
      rw [Nat.add_right_comm, Nat.add_assoc, next]
      omega
    · intro c declared behind apart
      apply new c declared (by omega)
      intro i
      cases i with
      | zero =>
        rw [place]
        omega
      | succ i =>
        rw [place]
        have := apart i
        omega
  | add n rest ih =>
    have unselected :
        (n.classes.zipIdx.map fun c => (⟨k', c.2, n.name, c.1⟩ : ClassSite)).filter all = [] := by
      rw [List.filter_eq_nil_iff]
      intro c mem
      obtain ⟨⟨decl, slot⟩, at_slot, rfl⟩ := List.mem_map.1 mem
      have declared : decl ∈ n.classes := List.fst_mem_of_mem_zipIdx at_slot
      rw [Bool.not_eq_true]
      apply new _ ⟨n, List.mem_cons_self, declared⟩ (Nat.le_refl _)
      intro i
      show k' ≠ k' + (rest.place i + 1)
      omega
    -- with nothing selected of the new namespace, only the places move on
    rw [sitesFrom, List.filter_append, unselected, List.nil_append]
    apply ih
    · intro i
      rw [shift i, place]
      omega
    · rintro c ⟨m, mem, declared⟩ behind apart
      apply new c ⟨m, List.mem_cons_of_mem _ mem, declared⟩ (by omega)
      intro i
      rw [place]
      have := apart i
      omega

variable {r r' : Registry} (ins : Insertion r.namespaces r'.namespaces)

/-- The classes of a name in one namespace are the same as before. -/
theorem filter_local_moved (view : Nat) (name : String) :
    (r'.classes.filter fun c => c.space = ins.place view && c.decl.name = name) =
      (r.classes.filter fun c => c.space = view && c.decl.name = name).map
        (ClassSite.moved ins.place) := by
  rw [r.classes_eq_sitesFrom, r'.classes_eq_sitesFrom]
  refine ins.filter_sitesFrom 0 0 (fun i => by simp) ?_ ?_
  · intro c
    by_cases here : c.space = view
    · simp [ClassSite.moved, here]
    · have apart : ins.place c.space ≠ ins.place view := fun h => here (ins.place_injective h)
      simp [ClassSite.moved, here, apart]
  · intro c _ _ apart
    have elsewhere := apart view
    rw [Nat.zero_add] at elsewhere
    simp [elsewhere]

/-- The classes of a name that no further namespace declares are the same as before. -/
theorem filter_named_moved {name : String}
    (undeclared : ∀ n ∈ ins.added, ∀ c ∈ n.classes, c.name ≠ name) :
    (r'.classes.filter fun c => c.decl.name = name) =
      (r.classes.filter fun c => c.decl.name = name).map (ClassSite.moved ins.place) := by
  rw [r.classes_eq_sitesFrom, r'.classes_eq_sitesFrom]
  refine ins.filter_sitesFrom 0 0 (fun i => by simp) ?_ ?_
  · intro c
    rfl
  · rintro c ⟨n, mem, declared⟩ _ _
    simpa using undeclared n mem c.decl declared

/-- What a name means is the same as before, if no further namespace declares it or the namespace
that it is seen from does. -/
theorem resolve_moved {view : Nat} {n : Namespace} (here : r.namespaces[view]? = some n)
    {name : String}
    (unrelated : ∀ m ∈ ins.added, ∀ c ∈ m.classes, c.name = name → ∃ d ∈ n.classes, d.name = name) :
    r'.resolve (ins.place view) name =
      (r.resolve view name).map (ClassSite.moved ins.place) := by
  unfold Registry.resolve
  rw [ins.filter_local_moved view name]
  cases found : r.classes.filter fun c => c.space = view && c.decl.name = name with
  | cons c rest =>
    cases rest with
    | nil => rfl
    | cons d rest => rfl
  | nil =>
    -- the namespace does not declare the name, so nobody new does
    have undeclared : ∀ m ∈ ins.added, ∀ c ∈ m.classes, c.name ≠ name := by
      intro m mem c declared same
      obtain ⟨d, at_view, named⟩ := unrelated m mem c declared same
      obtain ⟨slot, at_slot⟩ := List.mem_iff_getElem?.1 at_view
      have known : (⟨view, slot, n.name, d⟩ : ClassSite) ∈ r.classes :=
        Registry.mem_classes_iff.2 ⟨n, here, rfl, at_slot⟩
      have selected := List.filter_eq_nil_iff.1 found _ known
      simp [named] at selected
    rw [ins.filter_named_moved undeclared]
    cases r.classes.filter fun c => c.decl.name = name with
    | nil => rfl
    | cons c rest =>
      cases rest with
      | nil => rfl
      | cons d rest =>
        simp only [List.map_nil, List.map_cons, List.map_map]
        rfl

/-- There are not fewer classes than before. -/
theorem length_classes_le (ins : Insertion r.namespaces r'.namespaces) :
    r.classes.length ≤ r'.classes.length := by
  have general : ∀ {l l' : List Namespace}, Insertion l l' → ∀ k k',
      (sitesFrom k l).length ≤ (sitesFrom k' l').length := by
    intro l l' ins
    induction ins with
    | nil => simp [sitesFrom]
    | keep n rest ih =>
      intro k k'
      simpa [sitesFrom] using ih (k + 1) (k' + 1)
    | add n rest ih =>
      intro k k'
      have others := ih k (k' + 1)
      simp only [sitesFrom, List.length_append]
      omega
  rw [r.classes_eq_sitesFrom, r'.classes_eq_sitesFrom]
  exact general ins 0 0

end Insertion

/-! ## What is read off the classes -/

/-- Seen from `view'`, the registry `r'` has for the given names what `r` has seen from `view`, at new
places, and the given names are all that classes of `r` mention. -/
structure Keeps (r r' : Registry) (view view' : Nat) (place : Nat → Nat) (names : List String) :
    Prop where
  injective : ∀ i j, place i = place j → i = j
  resolve : ∀ name ∈ names,
    r'.resolve view' name = (r.resolve view name).map (ClassSite.moved place)
  mentions : ∀ c ∈ r.classes, ∀ name ∈ Registry.mentions c.decl, name ∈ names

namespace Keeps

variable {r r' : Registry} {view view' : Nat} {place : Nat → Nat} {names : List String}

theorem resolve_ok (keeps : Keeps r r' view view' place names) {name : String}
    (mentioned : name ∈ names) {c : ClassSite} (found : r.resolve view name = .ok c) :
    r'.resolve view' name = .ok (c.moved place) := by
  rw [keeps.resolve name mentioned, found]
  rfl

theorem resolve_error (keeps : Keeps r r' view view' place names) {name : String}
    (mentioned : name ∈ names) {e : SchemaError} (failed : r.resolve view name = .error e) :
    r'.resolve view' name = .error e := by
  rw [keeps.resolve name mentioned, failed]
  rfl

theorem circle_moved (seen : List ClassSite) (c : ClassSite) :
    Registry.circle (seen.map (ClassSite.moved place)) (c.moved place) =
      Registry.circle seen c := by
  simp [Registry.circle, Function.comp_def]

theorem mentions_base (keeps : Keeps r r' view view' place names) {c : ClassSite}
    (known : c ∈ r.classes) {base : String} (derived : c.decl.base = some base) : base ∈ names := by
  apply keeps.mentions c known
  simp [Registry.mentions, derived]

/-- Chains of bases are the same as before. -/
theorem baseChain_moved (keeps : Keeps r r' view view' place names) (chain : List ClassSite)
    (c : ClassSite) (known : c ∈ r.classes) :
    r'.baseChain view' (chain.map (ClassSite.moved place)) (c.moved place) =
      (r.baseChain view chain c).map (List.map (ClassSite.moved place)) := by
  fun_induction Registry.baseChain r view chain c with
  | case1 chain c baseless => exact Registry.baseChain_of_base_none baseless
  | case2 chain c base derived e failed =>
    have derived' : (c.moved place).decl.base = some base := derived
    have failed' := keeps.resolve_error (keeps.mentions_base known derived) failed
    rw [Registry.baseChain_of_base_error derived' failed']
    rfl
  | case3 chain c base derived next found old =>
    have derived' : (c.moved place).decl.base = some base := derived
    have found' := keeps.resolve_ok (keeps.mentions_base known derived) found
    have old' := (next.isIn_moved keeps.injective chain).trans old
    rw [Registry.baseChain_of_base_old derived' found' old', circle_moved]
    rfl
  | case4 chain c base derived next found new ih =>
    have derived' : (c.moved place).decl.base = some base := derived
    have found' := keeps.resolve_ok (keeps.mentions_base known derived) found
    have new' : (next.moved place).isIn (chain.map (ClassSite.moved place)) = false := by
      rw [ClassSite.isIn_moved keeps.injective]
      simpa using new
    rw [Registry.baseChain_of_base_some derived' found' new']
    have rest := ih (Registry.mem_classes_of_resolve found)
    rwa [List.map_append] at rest

/-- The fields of a class are the same as before. -/
theorem flatten_moved (keeps : Keeps r r' view view' place names) {c : ClassSite}
    (known : c ∈ r.classes) :
    r'.flatten view' (c.moved place) =
      (r.flatten view c).map (List.map (FlatField.moved place)) := by
  have chain := keeps.baseChain_moved [c] c known
  rw [List.map_singleton] at chain
  rw [Registry.flatten, Registry.flatten, chain]
  cases r.baseChain view [c] c with
  | error e => rfl
  | ok bases =>
    simp [Except.map, List.map_flatMap, List.flatMap_map, ← List.map_reverse, FlatField.moved,
      Function.comp_def]

/-- The classes that are visited are the same as before. -/
theorem visit_moved (keeps : Keeps r r' view view' place names) (seen : List ClassSite)
    (work : List String) (mentioned : ∀ name ∈ work, name ∈ names) :
    r'.visit view' (seen.map (ClassSite.moved place)) work =
      (r.visit view seen work).map (ClassSite.moved place) := by
  fun_induction Registry.visit r view seen work with
  | case1 seen => rw [Registry.visit]
  | case2 seen name rest e failed ih =>
    obtain ⟨here, others⟩ := List.forall_mem_cons.1 mentioned
    rw [Registry.visit_cons_of_error (keeps.resolve_error here failed)]
    exact ih others
  | case3 seen name rest c found old ih =>
    obtain ⟨here, others⟩ := List.forall_mem_cons.1 mentioned
    have old' := (c.isIn_moved keeps.injective seen).trans old
    rw [Registry.visit_cons_of_old (keeps.resolve_ok here found) old']
    exact ih others
  | case4 seen name rest c found new ih =>
    obtain ⟨here, others⟩ := List.forall_mem_cons.1 mentioned
    have new' : (c.moved place).isIn (seen.map (ClassSite.moved place)) = false := by
      rw [ClassSite.isIn_moved keeps.injective]
      simpa using new
    rw [Registry.visit_cons_of_new (keeps.resolve_ok here found) new']
    have leads := keeps.mentions c (Registry.mem_classes_of_resolve found)
    have rest := ih (List.forall_mem_append.2 ⟨leads, others⟩)
    rwa [List.map_append] at rest

theorem requiredClasses_moved (keeps : Keeps r r' view view' place names) {p : Protocol}
    (mentioned : ∀ name ∈ p.referencedClasses, name ∈ names) :
    r'.requiredClasses view' p = (r.requiredClasses view p).map (ClassSite.moved place) :=
  keeps.visit_moved [] p.referencedClasses mentioned

end Keeps

end Dissect.Schema
