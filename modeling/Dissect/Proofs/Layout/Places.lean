import Dissect.Proofs.Layout.Contributions

/-!
# Where values and failures have their places

Every place that a layout of a protocol has is that of a field: one that a method of the protocol or
a class of the registry declares. Behind the name of the field the path has only what tells the keys
of maps from their values. This holds of whatever a task contributes (`Contributes.place_ofField`),
so that what is known about the names in a schema is known about places.
-/

set_option autoImplicit false

namespace Dissect.Layout

open Schema

/-- A field of the given name is declared in the scope, by a method of the protocol or by a class.
-/
inductive FieldIn (r : Registry) (p : Protocol) : Scope → String → Prop
  | message {m : Method} {f : Field} (method : m ∈ p.methods)
      (field : f ∈ m.parameters ++ m.returns) : FieldIn r p (.method m.name) f.name
  | ofClass {c : ClassSite} {f : Field} (declared : c ∈ r.classes) (field : f ∈ c.decl.fields) :
      FieldIn r p (.inClass c.spaceName c.decl.name) f.name

/-- The place is that of a field, or of what a container in the field holds. -/
def Place.OfField (r : Registry) (p : Protocol) (place : Place) : Prop :=
  ∃ name inner, place.path = name :: inner ∧ FieldIn r p place.scope name ∧
    ∀ part ∈ inner, part = "key" ∨ part = "value"

theorem Place.OfField.field {r : Registry} {p : Protocol} {scope : Scope} {name : String}
    (declared : FieldIn r p scope name) : Place.OfField r p ⟨scope, [name]⟩ :=
  ⟨name, [], rfl, declared, List.forall_mem_nil _⟩

/-- The key or the value of a map has its place inside that of the map. -/
theorem Place.OfField.inside {r : Registry} {p : Protocol} {scope : Scope} {path : List String}
    (here : Place.OfField r p ⟨scope, path⟩) {part : String}
    (kind : part = "key" ∨ part = "value") : Place.OfField r p ⟨scope, path ++ [part]⟩ := by
  obtain ⟨name, inner, named, declared, parts⟩ := here
  refine ⟨name, inner ++ [part], ?_, declared, ?_⟩
  · show path ++ [part] = _
    rw [show path = name :: inner from named]
    rfl
  · exact List.forall_mem_append.2 ⟨parts, List.forall_mem_singleton.2 kind⟩

/-- The place of what a field contributes. -/
def Piece.place : Piece → Place
  | .value place _ _ => place
  | .failure _ place _ => place

/-- A task that is about fields of a protocol. -/
def Task.OfFields (r : Registry) (p : Protocol) : Task → Prop
  | .type scope path _ _ => Place.OfField r p ⟨scope, path⟩
  | .field scope f => FieldIn r p scope f.name
  | .fields fs => ∀ a ∈ fs, FieldIn r p a.1 a.2.name
  | .ofClass c => c ∈ r.classes

theorem Task.ofFields_message {r : Registry} {p : Protocol} {m : Method} (mem : m ∈ p.methods)
    (d : Direction) :
    Task.OfFields r p (.fields ((m.fields d).map fun f => (.method m.name, f))) := by
  intro a inside
  obtain ⟨f, field, rfl⟩ := List.mem_map.1 inside
  apply FieldIn.message mem
  cases d with
  | request => exact List.mem_append_left _ field
  | response => exact List.mem_append_right _ field

/-- The fields of a class, those of its bases included, are declared by classes. -/
theorem Task.ofFields_inOwnScopes {r : Registry} {p : Protocol} {view : Nat} {c : ClassSite}
    (declared : c ∈ r.classes) {fields : List FlatField} (flat : r.flatten view c = .ok fields) :
    Task.OfFields r p (.fields (inOwnScopes fields)) := by
  intro a inside
  obtain ⟨f, mem, rfl⟩ := List.mem_map.1 inside
  have owned := Registry.flatten_forall (P := fun c => c ∈ r.classes)
    (fun _ _ found => Registry.mem_classes_of_resolve found) declared flat mem
  exact FieldIn.ofClass owned.1 owned.2

/-- What a task about fields contributes has its place at a field. -/
theorem Contributes.place_ofField {r : Registry} {p : Protocol} {s : Setting} {task : Task}
    {pieces : List Piece} (contributes : Contributes s task pieces) (registry : s.registry = r)
    (about : task.OfFields r p) : ∀ piece ∈ pieces, piece.place.OfField r p := by
  induction contributes with
  | scalar _ => exact List.forall_mem_singleton.2 about
  | classRef found _ ih =>
    rw [registry] at found
    exact ih registry (Registry.mem_classes_of_resolve found)
  | any _ _ ih => exact ih registry about
  | sequence _ _ ih => exact ih registry about
  | map _ _ _ ihKey ihValue =>
    -- the places of keys and values go on behind that of the map
    refine List.forall_mem_append.2 ⟨ihKey registry ?_, ihValue registry ?_⟩
    · exact Place.OfField.inside about (.inl rfl)
    · exact Place.OfField.inside about (.inr rfl)
  | field _ _ ih => exact ih registry (Place.OfField.field about)
  | failure _ => exact List.forall_mem_singleton.2 (.field about)
  | noFields => exact List.forall_mem_nil _
  | moreFields _ _ ihFirst ihRest =>
    obtain ⟨first, rest⟩ := List.forall_mem_cons.1 about
    exact List.forall_mem_append.2 ⟨ihFirst registry first, ihRest registry rest⟩
  | ofClass flat _ ih =>
    rw [registry] at flat
    exact ih registry (Task.ofFields_inOwnScopes about flat)

/-! ## Layouts of protocols -/

section Layouts

variable {r : Registry} {view : Nat} {p : Protocol} {names : Place → Identifier}

theorem methodOutline_place_ofField {m : Method} (mem : m ∈ p.methods) (d : Direction) :
    ∀ piece ∈ (methodOutline r view m d).pieces, piece.place.OfField r p :=
  (methodOutline_contributes r view m d).place_ofField rfl (Task.ofFields_message mem d)

theorem classDraft_place_ofField {c : ClassSite} (declared : c ∈ r.classes) {o : Outline}
    (drafted : classDraft r view c = .ok o) : ∀ piece ∈ o.pieces, piece.place.OfField r p := by
  have tells := classDraft_tells r view declared
  rw [drafted] at tells
  exact tells.2.place_ofField rfl declared

/-- The identifiers that an outline declares are those of the places that it has. -/
theorem Outline.exists_piece_of_declaration {o : Outline} {d : Declaration}
    (mem : d ∈ (o.named names).declarations) : ∃ piece ∈ o.pieces, d.ident = names piece.place := by
  rw [Outline.declarations_eq_filterMap] at mem
  obtain ⟨piece, contributed, shown⟩ := List.mem_filterMap.1 mem
  cases piece with
  | value place label type =>
    cases shown
    exact ⟨_, contributed, rfl⟩
  | failure => cases shown

end Layouts

end Dissect.Layout
