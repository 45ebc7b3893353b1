import Dissect.Proofs.Layout.Contributions
import Dissect.Proofs.Layout.Layable
import Dissect.Proofs.Schema.Inheritance

/-!
# Reported circles

A class contains the classes whose names stand in the types of its fields, inherited ones included,
where they are on the wire (`Contains`). A class that is laid out inside others is contained in the
innermost of them, so the active classes are a path along which every class contains the next
(`Setting.Continues`), whatever has been laid out before and however that has ended. A circle is
reported where such a path, or a chain of bases, comes back to a class on it, and nowhere else
(`circular_diagnostic_is_circle`).
-/

set_option autoImplicit false

namespace Dissect.Layout

open Schema

/-! ## Containment -/

/-- A class name stands in a type at a position that is on the wire. -/
inductive OnWire : TypeExpr → String → Prop
  | here {name : String} : OnWire (.classRef name) name
  /-- The discriminant is not on the wire. -/
  | any {container name : String} {discriminant payload : TypeExpr} (known : container = "any")
      (inside : OnWire payload name) : OnWire (.template container [discriminant, payload]) name
  | sequence {container name : String} {element : TypeExpr} (known : container ∈ sequenceNames)
      (inside : OnWire element name) : OnWire (.template container [element]) name
  | key {container name : String} {key value : TypeExpr} (known : container = "std_map")
      (inside : OnWire key name) : OnWire (.template container [key, value]) name
  | value {container name : String} {key value : TypeExpr} (known : container = "std_map")
      (inside : OnWire value name) : OnWire (.template container [key, value]) name

/-- The type of a field of `c`, inherited or its own, holds `d` on the wire. -/
def Contains (r : Registry) (view : Nat) (c d : ClassSite) : Prop :=
  ∃ fields f name, r.flatten view c = .ok fields ∧ f ∈ fields ∧ OnWire f.field.type name ∧
    r.resolve view name = .ok d

/-- If an error reports a circle, the circle is one of classes that contain each other, or one of
bases. -/
def Justified (r : Registry) (view : Nat) (e : SchemaError) : Prop :=
  ∀ path, e = .circularReference path → ∃ circle : List ClassSite,
    path = circle.map ClassSite.qualifiedName ∧
    (Circular (Contains r view) circle ∨ Circular (Registry.Extends r view) circle)

theorem Justified.of_ne {r : Registry} {view : Nat} {e : SchemaError}
    (other : ∀ path, e ≠ .circularReference path) : Justified r view e := by
  intro path circular
  exact absurd circular (other path)

/-- Bases that fail with a circle form one. -/
theorem justified_of_flatten {r : Registry} {view : Nat} {c : ClassSite} {e : SchemaError}
    (declared : c ∈ r.classes) (failed : r.flatten view c = .error e) : Justified r view e := by
  rintro path rfl
  have endless := (Registry.flatten_eq_circular_iff declared).1 ⟨path, failed⟩
  obtain ⟨circle, circular, -, failed'⟩ := Registry.flatten_of_endless declared endless
  cases failed.symm.trans failed'
  exact ⟨circle, rfl, .inr circular⟩

/-! ## Active classes -/

/-- Along the active classes and on to `c`, every class contains the next. -/
def Setting.Continues (s : Setting) (c : ClassSite) : Prop :=
  (s.active ++ [c]).IsChain (Contains s.registry s.view)

/-- Every class that a type holds on the wire continues the active classes. -/
def Setting.Admits (s : Setting) (type : TypeExpr) : Prop :=
  ∀ name c, OnWire type name → s.registry.resolve s.view name = .ok c → s.Continues c

/-- Every class that a task leads to continues the active classes. -/
def Setting.AdmitsTask (s : Setting) : Task → Prop
  | .type _ _ _ type => s.Admits type
  | .field _ field => s.Admits field.type
  | .fields fields => ∀ f ∈ fields, s.Admits f.2.type
  | .ofClass c => c ∈ s.registry.classes ∧ s.Continues c

variable {s : Setting} {c : ClassSite} {e : SchemaError}

namespace Setting.Admits

variable {container : String}

/-- What the payload of an `any` holds, the `any` does. -/
theorem payload {discriminant payload : TypeExpr}
    (admits : s.Admits (.template container [discriminant, payload]))
    (kind : TemplateKind.ofName? container = some .any) : s.Admits payload := by
  intro name c wire
  exact admits name c (.any (ofName?_eq_any_iff.1 kind) wire)

theorem element {element : TypeExpr} (admits : s.Admits (.template container [element]))
    (kind : TemplateKind.ofName? container = some .sequence) : s.Admits element := by
  intro name c wire
  exact admits name c (.sequence (ofName?_eq_sequence_iff.1 kind) wire)

theorem key {key value : TypeExpr} (admits : s.Admits (.template container [key, value]))
    (kind : TemplateKind.ofName? container = some .map) : s.Admits key := by
  intro name c wire
  exact admits name c (.key (ofName?_eq_map_iff.1 kind) wire)

theorem value {key value : TypeExpr} (admits : s.Admits (.template container [key, value]))
    (kind : TemplateKind.ofName? container = some .map) : s.Admits value := by
  intro name c wire
  exact admits name c (.value (ofName?_eq_map_iff.1 kind) wire)

end Setting.Admits

/-- Inside a class, its fields lead to classes that it contains. -/
theorem admitsTask_enter (continues : s.Continues c) {fields : List FlatField}
    (flat : s.registry.flatten s.view c = .ok fields) :
    (s.enter c).AdmitsTask (.fields (inOwnScopes fields)) := by
  intro own mem name d wire found
  obtain ⟨f, field, rfl⟩ := List.mem_map.1 mem
  have contains : Contains s.registry s.view c d := ⟨fields, f, name, flat, field, wire, found⟩
  show (s.active ++ [c] ++ [d]).IsChain _
  rw [List.append_assoc]
  exact List.isChain_append_cons_cons.2 ⟨continues, contains, .singleton d⟩

theorem classFlaw_justified (known : ∀ d ∈ s.active, d ∈ s.registry.classes)
    (declared : c ∈ s.registry.classes) (continues : s.Continues c)
    (flawed : classFlaw s c = some e) : Justified s.registry s.view e := by
  rw [classFlaw] at flawed
  split at flawed
  · next met =>
    -- the class is active, so the way to it along the active classes comes back
    cases flawed
    intro path circular
    cases circular
    have mem := (Registry.isIn_iff_mem declared known).1 met
    exact ⟨s.active ++ [c], rfl, .inl ⟨continues, s.active, c, rfl, mem⟩⟩
  · split at flawed
    · next failed =>
      cases flawed
      exact justified_of_flatten declared failed
    · cases flawed

theorem scalarNamed_error_ne_circular {name : String} (unknown : scalarNamed name = .error e)
    (path : List String) : e ≠ .circularReference path := by
  rw [scalarNamed] at unknown
  split at unknown
  · cases unknown
  · cases unknown
    exact SchemaError.noConfusion

/-- A flaw of a type that reports a circle has found one. -/
theorem flaw_justified {type : TypeExpr} (known : ∀ d ∈ s.active, d ∈ s.registry.classes)
    (admits : s.Admits type) (flawed : flaw s type = some e) : Justified s.registry s.view e := by
  fun_induction flaw s type with
  | case1 name e' unknown =>
    cases flawed
    exact .of_ne (scalarNamed_error_ne_circular unknown)
  | case2 name type known' => cases flawed
  | case3 name e' unknown =>
    cases flawed
    exact .of_ne (Registry.resolve_error_ne_circular unknown)
  | case4 name c found =>
    have declared := Registry.mem_classes_of_resolve found
    exact classFlaw_justified known declared (admits name c .here found) flawed
  | case5 name parameters unknown =>
    cases flawed
    exact .of_ne fun _ => SchemaError.noConfusion
  | case6 name discriminant payload kind ih => exact ih (admits.payload kind) flawed
  | case7 name element kind ih => exact ih (admits.element kind) flawed
  | case8 name key value kind ihKey ihValue =>
    rcases Option.or_eq_some_iff.1 flawed with flawed | ⟨-, flawed⟩
    · exact ihKey (admits.key kind) flawed
    · exact ihValue (admits.value kind) flawed
  | case9 name kind parameters notAny notSequence notMap known' =>
    cases flawed
    exact .of_ne fun _ => SchemaError.noConfusion

/-- Whatever a task contributes, circles that its failures report are circles. -/
theorem Contributes.justified {task : Task} {pieces : List Piece}
    (contributes : Contributes s task pieces) (known : ∀ d ∈ s.active, d ∈ s.registry.classes)
    (admits : s.AdmitsTask task) {path : String} {place : Place}
    (mem : Piece.failure path place e ∈ pieces) : Justified s.registry s.view e := by
  induction contributes with
  | scalar _ => cases List.mem_singleton.1 mem
  | classRef found _ ih =>
    have declared := Registry.mem_classes_of_resolve found
    exact ih known ⟨declared, admits _ _ .here found⟩ mem
  | any kind _ ih => exact ih known (Setting.Admits.payload admits kind) mem
  | sequence kind _ ih => exact ih known (Setting.Admits.element admits kind) mem
  | map kind _ _ ihKey ihValue =>
    rcases List.mem_append.1 mem with mem | mem
    · exact ihKey known (Setting.Admits.key admits kind) mem
    · exact ihValue known (Setting.Admits.value admits kind) mem
  | field _ _ ih => exact ih known admits mem
  | failure flawed =>
    cases List.mem_singleton.1 mem
    exact flaw_justified known admits flawed
  | noFields => cases mem
  | moreFields _ _ ihFirst ihRest =>
    obtain ⟨first, rest⟩ := List.forall_mem_cons.1 admits
    rcases List.mem_append.1 mem with mem | mem
    · exact ihFirst known first mem
    · exact ihRest known rest mem
  | ofClass flat _ ih =>
    obtain ⟨declared, continues⟩ := admits
    refine ih ?_ (admitsTask_enter continues flat) mem
    exact List.forall_mem_append.2 ⟨known, List.forall_mem_singleton.2 declared⟩

/-! ## Layouts -/

/-- The layouts that a builder makes. -/
inductive Builder.Makes (b : Builder) : Layout → Prop
  | method (m : Method) (d : Direction) : Makes b (b.methodLayout m d).1
  | ofClass {c : ClassSite} (declared : c ∈ b.registry.classes) : Makes b (b.classLayout c).1

/-- Between layouts any class may come. -/
theorem Setting.continues_of_idle (idle : s.active = []) (c : ClassSite) : s.Continues c := by
  rw [Continues, idle]
  exact .singleton c

theorem Setting.known_of_idle (s : Setting) (idle : s.active = []) :
    ∀ d ∈ s.active, d ∈ s.registry.classes := by
  rw [idle]
  exact List.forall_mem_nil _

/-- The diagnostics of a layout of contributions are their failures. -/
theorem Corresponds.justified {task : Task} {laid : Layout × Builder}
    (corresponds : Corresponds s task laid) (idle : s.active = []) (admits : s.AdmitsTask task) :
    ∀ d ∈ laid.1.diagnostics, Justified s.registry s.view d.error := by
  obtain ⟨pieces, contributes⟩ := corresponds.listed
  rw [corresponds.diagnostics pieces contributes]
  intro d mem
  obtain ⟨piece, contributed, shown⟩ := List.mem_filterMap.1 mem
  cases piece with
  | value => cases shown
  | failure path place error =>
    cases shown
    exact contributes.justified (s.known_of_idle idle) admits contributed

theorem Builder.Makes.justified {b : Builder} (idle : b.active = []) {layout : Layout}
    (made : b.Makes layout) :
    ∀ d ∈ layout.diagnostics, Justified b.registry b.view d.error := by
  have continues : ∀ c, b.setting.Continues c := Setting.continues_of_idle idle
  cases made with
  | method m d =>
    refine (methodLayout_corresponds b m d).justified idle ?_
    intro f mem name c wire found
    exact continues c
  | @ofClass c declared =>
    cases flawed : classFlaw b.setting c with
    | none =>
      exact (classLayout_corresponds declared flawed).justified idle ⟨declared, continues c⟩
    | some e =>
      rw [classLayout_of_flaw declared flawed]
      intro d mem
      cases List.mem_singleton.1 mem
      exact classFlaw_justified (b.setting.known_of_idle idle) declared (continues c) flawed

/-- Circles that are reported are real. Whatever has been laid out before, if a diagnostic of a
layout reports a circle, its path names at least two classes, the last of which stands in front as
well, and each of them contains the next on the wire, or each has the next as its base. -/
theorem circular_diagnostic_is_circle {b : Builder} (reached : b.Reached) {layout : Layout}
    (made : b.Makes layout) {d : Diagnostic} (mem : d ∈ layout.diagnostics) {path : List String}
    (circular : d.error = .circularReference path) :
    ∃ circle : List ClassSite,
      path = circle.map ClassSite.qualifiedName ∧
      d.error.message = "circular type reference detected: "
        ++ " -> ".intercalate (circle.map ClassSite.qualifiedName) ∧
      2 ≤ circle.length ∧
      (circle.IsChain (Contains b.registry b.view) ∨
        circle.IsChain (Registry.Extends b.registry b.view)) ∧
      ∃ front last, circle = front ++ [last] ∧ last ∈ front := by
  obtain ⟨circle, rfl, found⟩ := made.justified reached.idle d mem path circular
  have message : d.error.message = "circular type reference detected: "
      ++ " -> ".intercalate (circle.map ClassSite.qualifiedName) := by
    rw [circular]
    rfl
  have closed : ∃ front last, circle = front ++ [last] ∧ last ∈ front := by
    rcases found with found | found
    · exact found.closed
    · exact found.closed
  refine ⟨circle, rfl, message, ?_, ?_, closed⟩
  · obtain ⟨front, last, rfl, mem⟩ := closed
    have nonempty := List.length_pos_of_mem mem
    rw [List.length_append, List.length_singleton]
    omega
  · rcases found with found | found
    · exact .inl found.linked
    · exact .inr found.linked

namespace Ring

/-- The fields of a link: it inherits links. -/
theorem flatten_link : registry.flatten 0 link =
    .ok [⟨node, "links", .template "qlist" [.classRef "Link"]⟩,
      ⟨link, "target", .classRef "Node"⟩] := by
  have new : node.isIn [link] = false := by decide
  rw [Registry.flatten, Registry.baseChain_of_base_some rfl rfl new,
    Registry.baseChain_of_base_none rfl]
  rfl

theorem flatten_node : registry.flatten 0 node =
    .ok [⟨node, "links", .template "qlist" [.classRef "Link"]⟩] := by
  rw [Registry.flatten, Registry.baseChain_of_base_none rfl]
  rfl

theorem classFlaw_node : classFlaw ⟨registry, 0, []⟩ node = none := by
  rw [classFlaw, if_neg (by decide), flatten_node]

theorem classFlaw_link : classFlaw ⟨registry, 0, [node]⟩ link = none := by
  rw [classFlaw, if_neg (by decide), flatten_link]

/-- A link inside a node holds links again, because it inherits them. -/
theorem walk_circle :
    ∃ d ∈ ((Builder.start registry 0 "Ring").methodLayout walk .request).1.diagnostics,
      d.error = .circularReference ["Graph::Node", "Wires::Link", "Wires::Link"] ∧
      ∃ circle : List ClassSite,
        ["Graph::Node", "Wires::Link", "Wires::Link"] = circle.map ClassSite.qualifiedName ∧
        2 ≤ circle.length ∧
        (circle.IsChain (Contains registry 0) ∨ circle.IsChain (Registry.Extends registry 0)) ∧
        ∃ front last, circle = front ++ [last] ∧ last ∈ front := by
  have reached := Builder.Reached.start registry 0 "Ring"
  have inLink : Contributes ⟨registry, 0, [node, link]⟩ (.fields (inOwnScopes
      [⟨node, "links", .template "qlist" [.classRef "Link"]⟩,
        ⟨link, "target", .classRef "Node"⟩])) _ :=
    .moreFields (.failure rfl) (.moreFields (.failure rfl) .noFields)
  have inNode : Contributes ⟨registry, 0, [node]⟩ (.fields (inOwnScopes
      [⟨node, "links", .template "qlist" [.classRef "Link"]⟩])) _ :=
    .moreFields
      (.field classFlaw_link (.sequence rfl (.classRef rfl (.ofClass flatten_link inLink))))
      .noFields
  have inWalk : Contributes ⟨registry, 0, []⟩ (.fields
      [(.method "Walk", ⟨"root", .classRef "Node"⟩)]) _ :=
    .moreFields (.field classFlaw_node (.classRef rfl (.ofClass flatten_node inNode))) .noFields
  have laid := (methodLayout_corresponds (.start registry 0 "Ring") walk .request).diagnostics _
    inWalk
  have shown : ∃ d ∈ ((Builder.start registry 0 "Ring").methodLayout walk .request).1.diagnostics,
      d.error = .circularReference ["Graph::Node", "Wires::Link", "Wires::Link"] := by
    rw [laid]
    exact ⟨_, List.mem_cons_self, rfl⟩
  obtain ⟨d, mem, circular⟩ := shown
  obtain ⟨circle, names, -, found⟩ :=
    circular_diagnostic_is_circle reached (.method walk .request) mem circular
  exact ⟨d, mem, circular, circle, names, found⟩

end Ring

end Dissect.Layout
