import Dissect.Proofs.Layout.Outline
import Dissect.Proofs.Schema.Required

/-!
# Slots

Which values have which places can be read from the schema without following any class: the fields
of the messages and of the classes needed have a slot for every scalar that their types hold
themselves. All values that are laid out for a protocol have slots (`methodOutline_values`,
`classDraft_values`), and a class adds no values but those of its own slots and of its bases.
-/

set_option autoImplicit false

namespace Dissect.Layout

open Schema
open Wire (Scalar)

/-- The scalars that a type holds itself, not those of a class, with their paths inside it. -/
def leaves : TypeExpr → List (List String × Scalar)
  | .scalar name =>
    match scalarNamed name with
    | .error _ => []
    | .ok type => [([], type)]
  | .classRef _ => []
  | .template name parameters =>
    match TemplateKind.ofName? name, parameters with
    | some .any, [_, payload] => leaves payload
    | some .sequence, [element] => leaves element
    | some .map, [key, value] =>
      (leaves key).map (fun l => ("key" :: l.1, l.2))
        ++ (leaves value).map fun l => ("value" :: l.1, l.2)
    | _, _ => []

/-- The slots of a field in its scope. -/
def fieldSlots (a : Scope × Field) : List (Place × Scalar) :=
  (leaves a.2.type).map fun l => (⟨a.1, a.2.name :: l.1⟩, l.2)

/-- The fields of the messages of a protocol and of the classes that it needs, in their scopes. -/
def scopedFields (r : Registry) (view : Nat) (p : Protocol) : List (Scope × Field) :=
  p.methods.flatMap (fun m => (m.parameters ++ m.returns).map fun f => (.method m.name, f))
    ++ (r.requiredClasses view p).flatMap fun c =>
      c.decl.fields.map fun f => (.inClass c.spaceName c.decl.name, f)

/-- All slots of a protocol. -/
def slots (r : Registry) (view : Nat) (p : Protocol) : List (Place × Scalar) :=
  (scopedFields r view p).flatMap fieldSlots

/-! ## Values have slots -/

section Values

variable {draft : ClassSite → Draft} {s : Setting}

/-- A value of a type is a leaf of it, or a value of a class that the type mentions. -/
theorem draftType_values {scope : Scope} {path : List String} {label : String} {type : TypeExpr}
    {o : Outline} (drafted : draftType draft s scope path label type = .ok o)
    {v : Place × Scalar} (mem : v ∈ o.values) :
    (∃ l ∈ leaves type, v = (⟨scope, path ++ l.1⟩, l.2)) ∨
    ∃ name ∈ type.classNames, ∃ c, s.registry.resolve s.view name = .ok c ∧
      ∃ o', draft c = .ok o' ∧ v ∈ o'.values := by
  fun_induction draftType draft s scope path label type generalizing o with
  | case1 path label name e unknown => cases drafted
  | case2 path label name type known =>
    cases drafted
    cases List.mem_singleton.1 mem
    refine .inl ⟨([], type), ?_, by rw [List.append_nil]⟩
    rw [leaves, known]
    exact List.mem_singleton_self _
  | case3 path label name e unknown => cases drafted
  | case4 path label name c found =>
    exact .inr ⟨name, by simp [TypeExpr.classNames], c, found, o, drafted, mem⟩
  | case5 path label name parameters kind => cases drafted
  | case6 path label name discriminant payload kind ih =>
    rcases ih drafted mem with ⟨l, leaf, place⟩ | ⟨name', mentioned, found⟩
    · refine .inl ⟨l, ?_, place⟩
      simpa only [leaves, kind] using leaf
    · refine .inr ⟨name', ?_, found⟩
      exact TypeExpr.mem_classNames_template (by simp) mentioned
  | case7 path label name element kind f failed ih => cases drafted
  | case8 path label name element kind body ok ih =>
    cases drafted
    rcases ih ok mem with ⟨l, leaf, place⟩ | ⟨name', mentioned, found⟩
    · refine .inl ⟨l, ?_, place⟩
      simpa only [leaves, kind] using leaf
    · refine .inr ⟨name', ?_, found⟩
      exact TypeExpr.mem_classNames_template (by simp) mentioned
  | case9 path label name key value kind f failed ih => cases drafted
  | case10 path label name key value kind keys ok f failed ihKey ihValue => cases drafted
  | case11 path label name key value kind keys ok values ok' ihKey ihValue =>
    cases drafted
    -- keys and values of a map are kept apart by the last part of the path so far
    rcases List.mem_append.1 mem with mem | mem
    · rcases ihKey ok mem with ⟨l, leaf, place⟩ | ⟨name', mentioned, found⟩
      · refine .inl ⟨("key" :: l.1, l.2), ?_, by rw [place, List.append_assoc]; rfl⟩
        simp only [leaves, kind]
        exact List.mem_append_left _ (List.mem_map_of_mem leaf)
      · refine .inr ⟨name', ?_, found⟩
        exact TypeExpr.mem_classNames_template (by simp) mentioned
    · rcases ihValue ok' mem with ⟨l, leaf, place⟩ | ⟨name', mentioned, found⟩
      · refine .inl ⟨("value" :: l.1, l.2), ?_, by rw [place, List.append_assoc]; rfl⟩
        simp only [leaves, kind]
        exact List.mem_append_right _ (List.mem_map_of_mem leaf)
      · refine .inr ⟨name', ?_, found⟩
        exact TypeExpr.mem_classNames_template (by simp) mentioned
  | case12 path label name kind parameters notAny notSequence notMap ofName => cases drafted

/-- The values of fields have slots, if the fields have and the values of the classes mentioned. -/
theorem outlineFields_values {all : List (Place × Scalar)} {fields : List (Scope × Field)}
    (own : ∀ a ∈ fields, ∀ v ∈ fieldSlots a, v ∈ all)
    (inner : ∀ a ∈ fields, ∀ name ∈ a.2.type.classNames, ∀ c,
      s.registry.resolve s.view name = .ok c → ∀ o, draft c = .ok o → ∀ v ∈ o.values, v ∈ all) :
    ∀ v ∈ (outlineFields draft s fields).values, v ∈ all := by
  induction fields with
  | nil =>
    intro v mem
    cases mem
  | cons head rest ih =>
    obtain ⟨ownHead, ownRest⟩ := List.forall_mem_cons.1 own
    obtain ⟨innerHead, innerRest⟩ := List.forall_mem_cons.1 inner
    intro v mem
    rcases List.mem_append.1 mem with mem | mem
    · rw [outlineField] at mem
      cases drafted : draftType draft s head.1 [head.2.name] head.2.name head.2.type with
      | error f =>
        rw [drafted] at mem
        cases mem
      | ok o =>
        rw [drafted] at mem
        rcases draftType_values drafted mem with ⟨l, leaf, rfl⟩ | ⟨name, mentioned, inside⟩
        · exact ownHead _ (List.mem_map_of_mem leaf)
        · obtain ⟨c, found, o', ok, mem'⟩ := inside
          exact innerHead name mentioned c found o' ok v mem'
    · exact ih ownRest innerRest v mem

end Values

section Protocol

variable {r : Registry} {view : Nat} {p : Protocol}

theorem slot_of_class {c : ClassSite} (mem : c ∈ r.requiredClasses view p) {f : Field}
    (field : f ∈ c.decl.fields) {v : Place × Scalar}
    (slot : v ∈ fieldSlots (.inClass c.spaceName c.decl.name, f)) : v ∈ slots r view p := by
  refine List.mem_flatMap.2 ⟨_, List.mem_append_right _ ?_, slot⟩
  exact List.mem_flatMap.2 ⟨c, mem, List.mem_map_of_mem field⟩

/-- The values of a class that is needed have slots. -/
theorem draftClass_values {depth : Nat} {s : Setting} (registry : s.registry = r)
    (sees : s.view = view) {c : ClassSite} (mem : c ∈ r.requiredClasses view p) {o : Outline}
    (drafted : draftClass depth s c = .ok o) : ∀ v ∈ o.values, v ∈ slots r view p := by
  induction depth generalizing s c o with
  | zero => cases drafted
  | succ depth ih =>
    rw [draftClass] at drafted
    split at drafted
    · cases drafted
    · cases flat : s.registry.flatten s.view c with
      | error e =>
        rw [flat] at drafted
        cases drafted
      | ok fields =>
        rw [flat] at drafted
        cases drafted
        rw [registry, sees] at flat
        refine outlineFields_values ?_ ?_
        · -- a field has its slot in the class that declares it
          intro a inside v slot
          obtain ⟨f, field, rfl⟩ := List.mem_map.1 inside
          obtain ⟨owner, declared⟩ := Registry.owner_mem_requiredClasses mem flat field
          exact slot_of_class owner declared slot
        · intro a inside name mentioned d found o' ok
          obtain ⟨f, field, rfl⟩ := List.mem_map.1 inside
          obtain ⟨owner, declared⟩ := Registry.owner_mem_requiredClasses mem flat field
          have found' : r.resolve view name = .ok d := by
            rw [← registry, ← sees]
            exact found
          have needed : d ∈ r.requiredClasses view p := by
            refine Registry.requiredClasses_closed owner (List.mem_append_right _ ?_) found'
            exact List.mem_flatMap.2 ⟨f.field, declared, mentioned⟩
          exact ih (s := s.enter c) registry sees needed ok

theorem classDraft_values {c : ClassSite} (mem : c ∈ r.requiredClasses view p) {o : Outline}
    (drafted : classDraft r view c = .ok o) : ∀ v ∈ o.values, v ∈ slots r view p :=
  draftClass_values rfl rfl mem drafted

theorem methodOutline_values {m : Method} (mem : m ∈ p.methods) (d : Direction) :
    ∀ v ∈ (methodOutline r view m d).values, v ∈ slots r view p := by
  refine outlineFields_values ?_ ?_
  · intro a inside v slot
    obtain ⟨f, field, rfl⟩ := List.mem_map.1 inside
    refine List.mem_flatMap.2 ⟨_, List.mem_append_left _ ?_, slot⟩
    refine List.mem_flatMap.2 ⟨m, mem, List.mem_map.2 ⟨f, ?_, rfl⟩⟩
    cases d with
    | request => exact List.mem_append_left _ field
    | response => exact List.mem_append_right _ field
  · intro a inside name mentioned c found o ok
    obtain ⟨f, field, rfl⟩ := List.mem_map.1 inside
    have needed := Registry.mem_requiredClasses_of_field mem field mentioned found
    exact draftClass_values rfl rfl needed ok

end Protocol

end Dissect.Layout
