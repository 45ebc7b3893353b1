import Dissect.Proofs.Schema.Registry

/-!
# The classes that a protocol needs

The classes of a protocol are closed: whatever resolves among the names that a message or a needed
class mentions is needed (`mem_requiredClasses_of_referenced`, `requiredClasses_closed`), and with a
class all classes are needed that its fields come from (`owner_mem_requiredClasses`).
-/

set_option autoImplicit false

namespace Dissect.Schema

/-- A container mentions what its parameters do. -/
theorem TypeExpr.mem_classNames_template {container name : String} {parameters : List TypeExpr}
    {t : TypeExpr} (mem : t ∈ parameters) (mentioned : name ∈ t.classNames) :
    name ∈ (TypeExpr.template container parameters).classNames := by
  rw [classNames]
  induction parameters with
  | nil => cases mem
  | cons head rest ih =>
    rw [classNamesAll, List.mem_append]
    rcases List.mem_cons.1 mem with rfl | mem
    · exact .inl mentioned
    · exact .inr (ih mem)

namespace Registry

variable {r : Registry} {view : Nat} {seen : List ClassSite} {work : List String}

/-! ## Visiting -/

/-- A class that has not been seen is visited, and what it mentions is put in front of the work. -/
theorem visit_cons_of_new {name : String} {rest : List String} {c : ClassSite}
    (found : r.resolve view name = .ok c) (new : c.isIn seen = false) :
    r.visit view seen (name :: rest) = r.visit view (seen ++ [c]) (mentions c.decl ++ rest) := by
  rw [visit]
  split
  · next e failed =>
    rw [found] at failed
    cases failed
  · next d found' =>
    cases found.symm.trans found'
    rw [dif_neg (by simp [new])]

/-- A name that does not resolve is passed over. -/
theorem visit_cons_of_error {name : String} {rest : List String} {e : SchemaError}
    (failed : r.resolve view name = .error e) :
    r.visit view seen (name :: rest) = r.visit view seen rest := by
  rw [visit]
  split
  · rfl
  · next c found =>
    rw [failed] at found
    cases found

/-- A class that has been seen is not visited again. -/
theorem visit_cons_of_old {name : String} {rest : List String} {c : ClassSite}
    (found : r.resolve view name = .ok c) (old : c.isIn seen = true) :
    r.visit view seen (name :: rest) = r.visit view seen rest := by
  rw [visit]
  split
  · rfl
  · next d found' =>
    cases found.symm.trans found'
    rw [dif_pos old]

theorem subset_visit (r : Registry) (view : Nat) (seen : List ClassSite) (work : List String) :
    seen ⊆ r.visit view seen work := by
  fun_induction visit r view seen work with
  | case1 seen => exact fun _ mem => mem
  | case2 seen name rest e failed ih => exact ih
  | case3 seen name rest c found old ih => exact ih
  | case4 seen name rest c found new ih => exact fun _ mem => ih (List.mem_append_left _ mem)

/-- All that is visited is declared. -/
theorem visit_subset_classes (known : ∀ c ∈ seen, c ∈ r.classes) :
    ∀ c ∈ r.visit view seen work, c ∈ r.classes := by
  fun_induction visit r view seen work with
  | case1 seen => exact known
  | case2 seen name rest e failed ih => exact ih known
  | case3 seen name rest c found old ih => exact ih known
  | case4 seen name rest c found new ih =>
    apply ih
    exact List.forall_mem_append.2
      ⟨known, List.forall_mem_singleton.2 (mem_classes_of_resolve found)⟩

/-- What the names in the work resolve to is visited, or has been before. -/
theorem mem_visit_of_mem_work (known : ∀ c ∈ seen, c ∈ r.classes) {name : String}
    (mem : name ∈ work) {c : ClassSite} (found : r.resolve view name = .ok c) :
    c ∈ r.visit view seen work := by
  fun_induction visit r view seen work with
  | case1 seen => cases mem
  | case2 seen head rest e failed ih =>
    rcases List.mem_cons.1 mem with rfl | mem
    · rw [found] at failed
      cases failed
    · exact ih known mem
  | case3 seen head rest d found' old ih =>
    rcases List.mem_cons.1 mem with rfl | mem
    · cases found.symm.trans found'
      have before := (isIn_iff_mem (mem_classes_of_resolve found) known).1 old
      exact subset_visit r view seen rest before
    · exact ih known mem
  | case4 seen head rest d found' new ih =>
    rcases List.mem_cons.1 mem with rfl | mem
    · cases found.symm.trans found'
      exact subset_visit _ _ _ _ (List.mem_append_right _ (List.mem_singleton_self _))
    · refine ih ?_ (List.mem_append_right _ mem)
      exact List.forall_mem_append.2
        ⟨known, List.forall_mem_singleton.2 (mem_classes_of_resolve found')⟩

/-- With a class that is visited, all that it mentions is. -/
theorem visit_closed (known : ∀ c ∈ seen, c ∈ r.classes) {c : ClassSite}
    (mem : c ∈ r.visit view seen work) (new : c ∉ seen) {name : String}
    (mentioned : name ∈ mentions c.decl) {d : ClassSite} (found : r.resolve view name = .ok d) :
    d ∈ r.visit view seen work := by
  fun_induction visit r view seen work with
  | case1 seen => exact absurd mem new
  | case2 seen head rest e failed ih => exact ih known mem new
  | case3 seen head rest d' found' old ih => exact ih known mem new
  | case4 seen head rest d' found' unseen ih =>
    have known' : ∀ c ∈ seen ++ [d'], c ∈ r.classes := List.forall_mem_append.2
      ⟨known, List.forall_mem_singleton.2 (mem_classes_of_resolve found')⟩
    by_cases here : c = d'
    · -- what a class mentions is put in front of the work when it is visited
      subst here
      exact mem_visit_of_mem_work known' (List.mem_append_left _ mentioned) found
    · refine ih known' mem ?_
      intro before
      rcases List.mem_append.1 before with before | before
      · exact new before
      · exact here (List.mem_singleton.1 before)

/-! ## Required classes -/

variable {p : Protocol}

theorem mem_requiredClasses_of_referenced {name : String} (mem : name ∈ p.referencedClasses)
    {c : ClassSite} (found : r.resolve view name = .ok c) : c ∈ r.requiredClasses view p :=
  mem_visit_of_mem_work (List.forall_mem_nil _) mem found

/-- A protocol whose messages mention no class needs none. -/
theorem requiredClasses_eq_nil (unreferenced : p.referencedClasses = []) :
    r.requiredClasses view p = [] := by
  rw [requiredClasses, unreferenced, visit]

theorem requiredClasses_closed {c : ClassSite} (mem : c ∈ r.requiredClasses view p) {name : String}
    (mentioned : name ∈ mentions c.decl) {d : ClassSite} (found : r.resolve view name = .ok d) :
    d ∈ r.requiredClasses view p :=
  visit_closed (List.forall_mem_nil _) mem List.not_mem_nil mentioned found

theorem requiredClasses_subset_classes : ∀ c ∈ r.requiredClasses view p, c ∈ r.classes :=
  visit_subset_classes (List.forall_mem_nil _)

theorem mem_referencedClasses_of_field {m : Method} (mem : m ∈ p.methods) {d : Direction}
    {f : Field} (field : f ∈ m.fields d) {name : String} (mentioned : name ∈ f.type.classNames) :
    name ∈ p.referencedClasses := by
  refine List.mem_eraseDups.2 (List.mem_flatMap.2 ⟨m, mem, List.mem_flatMap.2 ⟨f, ?_, mentioned⟩⟩)
  cases d with
  | request => exact List.mem_append_left _ field
  | response => exact List.mem_append_right _ field

/-- What a field of a message refers to is needed. -/
theorem mem_requiredClasses_of_field {m : Method} (mem : m ∈ p.methods) {d : Direction}
    {f : Field} (field : f ∈ m.fields d) {name : String} (mentioned : name ∈ f.type.classNames)
    {c : ClassSite} (found : r.resolve view name = .ok c) : c ∈ r.requiredClasses view p :=
  mem_requiredClasses_of_referenced (mem_referencedClasses_of_field mem field mentioned) found

/-- The fields of a class that is needed are declared by classes that are needed. -/
theorem owner_mem_requiredClasses {c : ClassSite} (mem : c ∈ r.requiredClasses view p)
    {fields : List FlatField} (flat : r.flatten view c = .ok fields) {f : FlatField}
    (field : f ∈ fields) : f.owner ∈ r.requiredClasses view p ∧ f.field ∈ f.owner.decl.fields := by
  refine flatten_forall ?_ mem flat field
  -- with a class its base is needed
  intro c next base needed derived found
  apply requiredClasses_closed needed (List.mem_append_left _ _) found
  rw [derived]
  exact List.mem_singleton_self base

end Registry

end Dissect.Schema
