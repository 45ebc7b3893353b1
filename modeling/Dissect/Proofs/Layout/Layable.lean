import Dissect.Proofs.Layout.Builder
import Dissect.Proofs.Schema.Registry
import Dissect.Proofs.Wire.Instruction

/-!
# Which types have a layout

`Layable` says which types have a layout, and `Expands` says which instructions that layout
consists of, without a word about active classes: a class name stands for the fields of its class,
and a type with a finite derivation is layable. The builder, which keeps the active classes and
stops at one that is met again, finds a layout without diagnostics for exactly the layable types
and makes exactly the instructions of the expansion
(`methodLayout_diagnostics_eq_nil_iff_layable`). The registry may have circles of any kind.
-/

set_option autoImplicit false

namespace Dissect.Layout

open Schema
open Wire (Instruction Scalar allUnnamed allUnnamed_append)

/-- The names of the containers of elements. -/
def sequenceNames : List String := ["qlist", "std_list", "qvector"]

/-- The types with a layout, in a registry seen from a namespace. -/
inductive Layable (r : Registry) (view : Nat) : TypeExpr → Prop
  | scalar {name : String} {type : Scalar} (known : Scalar.ofName? name = some type) :
      Layable r view (.scalar name)
  | classRef {name : String} {c : ClassSite} {fields : List FlatField}
      (found : r.resolve view name = .ok c) (flat : r.flatten view c = .ok fields)
      (layable : ∀ f ∈ fields, Layable r view f.field.type) : Layable r view (.classRef name)
  | any {name : String} (discriminant : TypeExpr) {payload : TypeExpr} (container : name = "any")
      (layable : Layable r view payload) : Layable r view (.template name [discriminant, payload])
  | sequence {name : String} {element : TypeExpr} (container : name ∈ sequenceNames)
      (layable : Layable r view element) : Layable r view (.template name [element])
  | map {name : String} {key value : TypeExpr} (container : name = "std_map")
      (keys : Layable r view key) (values : Layable r view value) :
      Layable r view (.template name [key, value])

mutual

/-- The instructions that a type stands for, without names of fields. -/
inductive Expands (r : Registry) (view : Nat) : TypeExpr → List Instruction → Prop
  | scalar {name : String} {type : Scalar} (known : Scalar.ofName? name = some type)
      (wire : type ≠ .variant) : Expands r view (.scalar name) [.scalar "" type]
  /-- A variant is not on the wire. -/
  | variant {name : String} (known : Scalar.ofName? name = some .variant) :
      Expands r view (.scalar name) []
  /-- A class stands for its fields, those of its bases included. -/
  | classRef {name : String} {c : ClassSite} {fields : List FlatField} {is : List Instruction}
      (found : r.resolve view name = .ok c) (flat : r.flatten view c = .ok fields)
      (inside : ExpandsAll r view (fields.map fun f => f.field.type) is) :
      Expands r view (.classRef name) is
  | any {name : String} (discriminant : TypeExpr) {payload : TypeExpr} {is : List Instruction}
      (container : name = "any") (inside : Expands r view payload is) :
      Expands r view (.template name [discriminant, payload]) is
  | sequence {name : String} {element : TypeExpr} {is : List Instruction}
      (container : name ∈ sequenceNames) (inside : Expands r view element is) :
      Expands r view (.template name [element]) [.counted is]
  | map {name : String} {key value : TypeExpr} {ks vs : List Instruction}
      (container : name = "std_map") (keys : Expands r view key ks)
      (values : Expands r view value vs) :
      Expands r view (.template name [key, value]) [.counted (ks ++ vs)]

/-- The instructions that types stand for, one after another. -/
inductive ExpandsAll (r : Registry) (view : Nat) : List TypeExpr → List Instruction → Prop
  | nil : ExpandsAll r view [] []
  | cons {type : TypeExpr} {rest : List TypeExpr} {is js : List Instruction}
      (first : Expands r view type is) (others : ExpandsAll r view rest js) :
      ExpandsAll r view (type :: rest) (is ++ js)

end

theorem ofName?_eq_any_iff {name : String} :
    TemplateKind.ofName? name = some .any ↔ name = "any" := by
  unfold TemplateKind.ofName?
  split <;> simp_all

theorem ofName?_eq_sequence_iff {name : String} :
    TemplateKind.ofName? name = some .sequence ↔ name ∈ sequenceNames := by
  unfold TemplateKind.ofName? sequenceNames
  split <;> simp_all

theorem ofName?_eq_map_iff {name : String} :
    TemplateKind.ofName? name = some .map ↔ name = "std_map" := by
  unfold TemplateKind.ofName?
  split <;> simp_all

variable {r : Registry} {view : Nat}

/-! ## The expansion -/

mutual

/-- A type has at most one expansion. -/
theorem Expands.unique {type : TypeExpr} {is js : List Instruction} :
    Expands r view type is → Expands r view type js → is = js
  | .scalar known _, other => by
    cases other with
    | scalar known' _ => cases known.symm.trans known'; rfl
    | variant known' => cases known.symm.trans known'; contradiction
  | .variant known, other => by
    cases other with
    | scalar known' _ => cases known.symm.trans known'; contradiction
    | variant _ => rfl
  | .classRef found flat inside, .classRef found' flat' inside' => by
    cases found.symm.trans found'
    cases flat.symm.trans flat'
    exact inside.unique inside'
  | .any _ container inside, other => by
    cases other with
    | any _ _ inside' => exact inside.unique inside'
    | map container' => simp [container] at container'
  | .sequence _ inside, .sequence _ inside' => by rw [inside.unique inside']
  | .map container keys values, other => by
    cases other with
    | any _ container' => simp [container] at container'
    | map _ keys' values' => rw [keys.unique keys', values.unique values']

/-- Types have at most one expansion. -/
theorem ExpandsAll.unique {types : List TypeExpr} {is js : List Instruction} :
    ExpandsAll r view types is → ExpandsAll r view types js → is = js
  | .nil, .nil => rfl
  | .cons first others, .cons first' others' => by
    rw [first.unique first', others.unique others']

end

mutual

/-- Only layable types have an expansion. -/
theorem Expands.layable {type : TypeExpr} {is : List Instruction} :
    Expands r view type is → Layable r view type
  | .scalar known _ => .scalar known
  | .variant known => .scalar known
  | .classRef found flat inside =>
    .classRef found flat fun _ mem => inside.layable _ (List.mem_map_of_mem mem)
  | .any discriminant container inside => .any discriminant container inside.layable
  | .sequence container inside => .sequence container inside.layable
  | .map container keys values => .map container keys.layable values.layable

theorem ExpandsAll.layable {types : List TypeExpr} {is : List Instruction} :
    ExpandsAll r view types is → ∀ type ∈ types, Layable r view type
  | .nil => List.forall_mem_nil _
  | .cons first others => List.forall_mem_cons.2 ⟨first.layable, others.layable⟩

end

/-! ## A layout without diagnostics is an expansion -/

/-- Whenever `lay` lays out a class without diagnostics, the instructions are those that the
fields of the class stand for. -/
def Faithful (lay : ClassSite → Builder → Attempt) : Prop :=
  ∀ {c : ClassSite} {b b' : Builder} {layout : Layout}, lay c b = (.ok layout, b') →
    layout.diagnostics = [] →
    ∃ fields, b.registry.flatten b.view c = .ok fields ∧
      ExpandsAll b.registry b.view (fields.map fun f => f.field.type)
        (allUnnamed layout.instructions)

/-- The layout of a scalar reads it unless it is a variant. -/
theorem expands_scalar {name : String} {type : Scalar} (known : Scalar.ofName? name = some type)
    (ident : Identifier) (label : String) :
    Expands r view (.scalar name) (allUnnamed (scalar ident label type).instructions) := by
  cases type with
  | variant => exact .variant known
  | _ => exact .scalar known nofun

variable {lay : ClassSite → Builder → Attempt}

theorem layType_expands (keeps : Keeps lay) (faithful : Faithful lay) {scope : Scope}
    {path : List String} {label : String} {type : TypeExpr} {b b' : Builder} {layout : Layout}
    (laid : layType lay scope path label type b = (.ok layout, b'))
    (clean : layout.diagnostics = []) :
    Expands b.registry b.view type (allUnnamed layout.instructions) := by
  fun_induction layType lay scope path label type b generalizing b' layout with
  | case1 | case3 | case5 | case7 | case9 | case10 | case12 => cases laid
  | case2 _ label name b type named ident _ _ =>
    cases laid
    have known : Scalar.ofName? name = some type := by
      unfold scalarNamed at named
      split at named
      · next found => cases named; exact found
      · cases named
    exact expands_scalar known ident label
  | case4 _ _ _ b c found =>
    obtain ⟨fields, flat, inside⟩ := faithful laid clean
    exact .classRef found flat inside
  | case6 _ _ _ _ discriminant _ kind ih =>
    exact .any discriminant (ofName?_eq_any_iff.1 kind) (ih laid clean)
  | case8 _ _ _ _ _ kind body _ laidBody ih =>
    cases laid
    exact .sequence (ofName?_eq_sequence_iff.1 kind) (ih laidBody clean)
  | case11 path label _ b key _ kind keys b₁ laidKeys values _ laidValues ihKeys ihValues =>
    cases laid
    obtain ⟨cleanKeys, cleanValues⟩ := List.append_eq_nil_iff.1 clean
    -- the values are laid out by the builder that the keys have left
    have kept := layType_keeps keeps scope (path ++ ["key"]) (label ++ " Key") key b
    rw [laidKeys] at kept
    have expandsValues := ihValues laidValues cleanValues
    rw [kept.registry, kept.view] at expandsValues
    have expands :=
      Expands.map (ofName?_eq_map_iff.1 kind) (ihKeys laidKeys cleanKeys) expandsValues
    rwa [← allUnnamed_append] at expands

/-- A field whose type has no layout leaves a diagnostic. -/
theorem layField_expands (keeps : Keeps lay) (faithful : Faithful lay) {scope : Scope}
    {field : Field} {b : Builder} (clean : (layField lay scope field b).1.diagnostics = []) :
    Expands b.registry b.view field.type
      (allUnnamed (layField lay scope field b).1.instructions) := by
  fun_cases layField lay scope field b with
  | case1 _ _ laid =>
    rw [layField, laid] at clean
    exact layType_expands keeps faithful laid clean
  | case2 _ _ laid =>
    rw [layField, laid] at clean
    cases clean

theorem layFields_expands (keeps : Keeps lay) (faithful : Faithful lay)
    {fields : List (Scope × Field)} {b : Builder}
    (clean : (layFields lay fields b).1.diagnostics = []) :
    ExpandsAll b.registry b.view (fields.map fun f => f.2.type)
      (allUnnamed (layFields lay fields b).1.instructions) := by
  induction fields generalizing b with
  | nil => exact .nil
  | cons head rest ih =>
    rw [layFields_cons] at clean ⊢
    simp only [diagnostics_append, List.append_eq_nil_iff] at clean
    simp only [instructions_append, allUnnamed_append]
    have kept := layField_keeps keeps head.1 head.2 b
    have others := ih clean.2
    rw [kept.registry, kept.view] at others
    exact .cons (layField_expands keeps faithful clean.1) others

theorem inOwnScopes_types (fields : List FlatField) :
    ((inOwnScopes fields).map fun f => f.2.type) = fields.map fun f => f.field.type := by
  simp [inOwnScopes]

theorem layClass_faithful (depth : Nat) : Faithful (layClass depth) := by
  induction depth with
  | zero => intro _ _ _ _ laid; cases laid
  | succ depth ih =>
    intro c b b' layout laid clean
    rw [layClass] at laid
    split at laid
    · cases laid
    · split at laid
      · cases laid
      · next fields flat =>
        cases laid
        have expands := layFields_expands (layClass_keeps depth) ih clean
        rw [inOwnScopes_types] at expands
        exact ⟨fields, flat, expands⟩

/-! ## A layable type is laid out without diagnostics -/

/-- The classes whose fields are laid out on the way to the layout of a type. The discriminant of
an `any` is not. -/
inductive Needs (r : Registry) (view : Nat) : TypeExpr → ClassSite → Prop
  | here {name : String} {c : ClassSite} (found : r.resolve view name = .ok c) :
      Needs r view (.classRef name) c
  | field {name : String} {c d : ClassSite} {fields : List FlatField} {f : FlatField}
      (found : r.resolve view name = .ok c) (flat : r.flatten view c = .ok fields)
      (mem : f ∈ fields) (needs : Needs r view f.field.type d) : Needs r view (.classRef name) d
  | any {name : String} {discriminant payload : TypeExpr} {d : ClassSite}
      (container : name = "any") (needs : Needs r view payload d) :
      Needs r view (.template name [discriminant, payload]) d
  | sequence {name : String} {element : TypeExpr} {d : ClassSite}
      (container : name ∈ sequenceNames) (needs : Needs r view element d) :
      Needs r view (.template name [element]) d
  | key {name : String} {key value : TypeExpr} {d : ClassSite} (container : name = "std_map")
      (needs : Needs r view key d) : Needs r view (.template name [key, value]) d
  | value {name : String} {key value : TypeExpr} {d : ClassSite} (container : name = "std_map")
      (needs : Needs r view value d) : Needs r view (.template name [key, value]) d

/-- No class that a layable type needs is needed by a field of its own. -/
theorem Layable.not_circular {type : TypeExpr} (layable : Layable r view type) {d : ClassSite}
    (needs : Needs r view type d) {fields : List FlatField} (flat : r.flatten view d = .ok fields)
    {f : FlatField} (mem : f ∈ fields) : ¬ Needs r view f.field.type d := by
  induction layable with
  | scalar known => cases needs
  | classRef found flat' _ ih =>
    cases needs with
    | here found' =>
      -- the class itself: if its field `f` needed it, the induction hypothesis for `f` would
      -- refute just that
      cases found.symm.trans found'
      cases flat.symm.trans flat'
      exact fun again => ih f mem again again
    | field found' flat'' mem' needs' =>
      cases found.symm.trans found'
      cases flat'.symm.trans flat''
      exact ih _ mem' needs'
  | any _ container _ ih =>
    cases needs with
    | any _ needs' => exact ih needs'
    | key container' | value container' => simp [container] at container'
  | sequence _ _ ih =>
    cases needs with
    | sequence _ needs' => exact ih needs'
  | map container _ _ ihKey ihValue =>
    cases needs with
    | any container' => simp [container] at container'
    | key _ needs' => exact ihKey needs'
    | value _ needs' => exact ihValue needs'

/-- Nothing stands in the way of laying out a type with `depth` classes to go: the active classes
are classes of the registry, the others can all be opened, and no active class is needed. -/
structure Ready (r : Registry) (view depth : Nat) (type : TypeExpr) (b : Builder) : Prop where
  registry : b.registry = r
  sees : b.view = view
  known : ∀ d ∈ b.active, d ∈ r.classes
  room : r.unseen b.active ≤ depth
  unneeded : ∀ d ∈ b.active, ¬ Needs r view type d

namespace Ready

variable {depth : Nat} {type : TypeExpr} {b : Builder}

theorem of_sameSetting (ready : Ready r view depth type b) {b' : Builder}
    (same : Builder.SameSetting b b') : Ready r view depth type b' where
  registry := same.registry.trans ready.registry
  sees := same.view.trans ready.sees
  known := by rw [same.active]; exact ready.known
  room := by rw [same.active]; exact ready.room
  unneeded := by rw [same.active]; exact ready.unneeded

theorem of_needs (ready : Ready r view depth type b) {part : TypeExpr}
    (needs : ∀ {d}, Needs r view part d → Needs r view type d) : Ready r view depth part b :=
  { ready with unneeded := fun d mem => ready.unneeded d mem ∘ needs }

/-- A class that is not circular can be entered, and its fields can then be laid out. -/
theorem enter {name : String} (ready : Ready r view depth (.classRef name) b)
    (layable : Layable r view (.classRef name)) {c : ClassSite} {fields : List FlatField}
    (found : r.resolve view name = .ok c) (flat : r.flatten view c = .ok fields) :
    c.isIn b.active = false ∧ ∃ depth', depth = depth' + 1 ∧
      ∀ f ∈ fields, Ready r view depth' f.field.type (b.enter c) := by
  have member : c ∈ r.classes := Registry.mem_classes_of_resolve found
  have new : c.isIn b.active = false := by
    rw [← Bool.not_eq_true, Registry.isIn_iff_mem member ready.known]
    exact fun mem => ready.unneeded c mem (.here found)
  have fewer : r.unseen (b.active ++ [c]) < depth :=
    Nat.lt_of_lt_of_le (Registry.unseen_append_lt member new) ready.room
  obtain ⟨depth', rfl⟩ := Nat.exists_eq_add_one_of_ne_zero (Nat.ne_zero_of_lt fewer)
  refine ⟨new, depth', rfl, fun f mem => ?_⟩
  refine ⟨ready.registry, ready.sees, ?_, Nat.le_of_lt_succ fewer, ?_⟩
  · intro d active
    rcases List.mem_append.1 active with active | active
    · exact ready.known d active
    · rwa [List.mem_singleton.1 active]
  · intro d active needs
    rcases List.mem_append.1 active with active | active
    · exact ready.unneeded d active (.field found flat mem needs)
    · -- the class just entered is not needed again, for it is layable
      cases List.mem_singleton.1 active
      exact layable.not_circular (.here found) flat mem needs

end Ready

/-- An attempt that succeeds without diagnostics. -/
def Clean (attempt : Attempt) : Prop :=
  ∃ layout b', attempt = (.ok layout, b') ∧ layout.diagnostics = []

/-- Fields are laid out without diagnostics if the type of each is, whatever came before. -/
theorem layFields_clean (r : Registry) (view : Nat) {depth : Nat}
    {fields : List (Scope × Field)} {b : Builder}
    (ready : ∀ f ∈ fields, Ready r view depth f.2.type b)
    (clean : ∀ f ∈ fields, ∀ b', Ready r view depth f.2.type b' →
      Clean (layType (layClass depth) f.1 [f.2.name] f.2.name f.2.type b')) :
    (layFields (layClass depth) fields b).1.diagnostics = [] := by
  induction fields generalizing b with
  | nil => rfl
  | cons head rest ih =>
    rw [layFields_cons, diagnostics_append, List.append_eq_nil_iff]
    obtain ⟨readyHead, readyRest⟩ := List.forall_mem_cons.1 ready
    obtain ⟨cleanHead, cleanRest⟩ := List.forall_mem_cons.1 clean
    constructor
    · obtain ⟨layout, b', laid, silent⟩ := cleanHead b readyHead
      rw [layField, laid]
      exact silent
    · have kept := layField_keeps (layClass_keeps depth) head.1 head.2 b
      exact ih (fun f mem => (readyRest f mem).of_sameSetting kept) cleanRest

theorem Layable.clean {type : TypeExpr} (layable : Layable r view type) (depth : Nat)
    (scope : Scope) (path : List String) (label : String) (b : Builder)
    (ready : Ready r view depth type b) :
    Clean (layType (layClass depth) scope path label type b) := by
  induction layable generalizing depth scope path label b with
  | scalar known =>
    rw [layType, scalarNamed, known]
    exact ⟨_, _, rfl, rfl⟩
  | classRef found flat layable ih =>
    -- neither the check for a circle nor the depth stops the builder here
    obtain ⟨new, depth', rfl, inside⟩ := ready.enter (.classRef found flat layable) found flat
    rw [layType, ready.registry, ready.sees, found]
    show Clean (layClass _ _ _)
    rw [layClass, new, ready.registry, ready.sees, flat]
    refine ⟨_, _, rfl, layFields_clean r view ?_ ?_⟩
    · exact List.forall_mem_map.2 inside
    · exact List.forall_mem_map.2 fun f mem b' => ih f mem depth' _ _ _ b'
  | any discriminant container _ ih =>
    simp only [layType, ofName?_eq_any_iff.2 container]
    exact ih depth scope path label b (ready.of_needs (.any container))
  | sequence container _ ih =>
    obtain ⟨body, b', laid, clean⟩ :=
      ih depth scope path label b (ready.of_needs (.sequence container))
    simp only [layType, ofName?_eq_sequence_iff.2 container, laid]
    exact ⟨_, _, rfl, clean⟩
  | @map _ key _ container _ _ ihKey ihValue =>
    obtain ⟨keys, b', laidKeys, cleanKeys⟩ :=
      ihKey depth scope (path ++ ["key"]) (label ++ " Key") b (ready.of_needs (.key container))
    have kept :=
      layType_keeps (layClass_keeps depth) scope (path ++ ["key"]) (label ++ " Key") key b
    rw [laidKeys] at kept
    obtain ⟨values, b'', laidValues, cleanValues⟩ :=
      ihValue depth scope (path ++ ["value"]) (label ++ " Value") b'
        ((ready.of_needs (.value container)).of_sameSetting kept)
    simp only [layType, ofName?_eq_map_iff.2 container, laidKeys, laidValues]
    exact ⟨_, _, rfl, List.append_eq_nil_iff.2 ⟨cleanKeys, cleanValues⟩⟩

/-! ## Methods -/

/-- Between layouts, nothing stands in the way of a type. -/
theorem Builder.Reached.ready {b : Builder} (reached : b.Reached) (type : TypeExpr) :
    Ready b.registry b.view b.depth type b where
  registry := rfl
  sees := rfl
  known := by simp [reached.idle]
  room := List.countP_le_length
  unneeded := by simp [reached.idle]

/-- The layout of a method has no diagnostics exactly if every field of the message has a layable
type, and it then consists of the instructions that the types of the fields stand for. -/
theorem methodLayout_diagnostics_eq_nil_iff_layable {b : Builder} (reached : b.Reached)
    (m : Method) (d : Direction) :
    ((b.methodLayout m d).1.diagnostics = [] ↔
      ∀ f ∈ m.fields d, Layable b.registry b.view f.type) ∧
    ((b.methodLayout m d).1.diagnostics = [] →
      ∀ is, ExpandsAll b.registry b.view ((m.fields d).map Field.type) is ↔
        is = allUnnamed (b.methodLayout m d).1.instructions) := by
  have expands : (b.methodLayout m d).1.diagnostics = [] →
      ExpandsAll b.registry b.view ((m.fields d).map Field.type)
        (allUnnamed (b.methodLayout m d).1.instructions) := by
    intro clean
    have found := layFields_expands (layClass_keeps b.depth) (layClass_faithful b.depth) clean
    rwa [List.map_map] at found
  refine ⟨⟨?_, ?_⟩, ?_⟩
  · intro clean
    exact List.forall_mem_map.1 (expands clean).layable
  · intro layable
    refine layFields_clean b.registry b.view ?_ ?_
    · exact List.forall_mem_map.2 fun f _ => reached.ready f.type
    · exact List.forall_mem_map.2 fun f mem b' => (layable f mem).clean b.depth _ _ _ b'
  · intro clean is
    constructor
    · exact fun other => other.unique (expands clean)
    · rintro rfl
      exact expands clean

namespace Ladder

def data : ClassSite := ⟨0, 0, "Game", "Data", none, [⟨"version", .scalar "uint16"⟩]⟩

/-- A class with a base. -/
def score : ClassSite := ⟨0, 1, "Game", "Score", some "Data", [⟨"rank", .scalar "uint32"⟩]⟩

/-- A class that contains itself. -/
def node : ClassSite :=
  ⟨0, 2, "Game", "Node", none, [⟨"next", .template "qlist" [.classRef "Node"]⟩]⟩

def registry : Registry := ⟨[⟨"Game", [data.decl, score.decl, node.decl], []⟩]⟩

/-- Takes scores next to an `any` with an unusable discriminant, and returns a node. -/
def upload : Method where
  id := 1
  name := "Upload"
  parameters := [⟨"scores", .template "qlist" [.classRef "Score"]⟩,
    ⟨"extra", .template "any" [.classRef "Node", .scalar "double"]⟩]
  returns := [⟨"node", .classRef "Node"⟩]

/-- A class with a base has a layout, and so has an `any` whose discriminant has none; a class that
contains itself has none. -/
theorem diagnostics_upload :
    (Builder.start registry 0 "Ladder").Reached ∧
    ((Builder.start registry 0 "Ladder").methodLayout upload .request).1.diagnostics = [] ∧
    ((Builder.start registry 0 "Ladder").methodLayout upload .response).1.diagnostics ≠ [] := by
  have reached := Builder.Reached.start registry 0 "Ladder"
  have scoreFields : registry.flatten 0 score =
      .ok [⟨data, "version", .scalar "uint16"⟩, ⟨score, "rank", .scalar "uint32"⟩] := by
    have new : data.isIn [score] = false := by decide
    rw [Registry.flatten, Registry.baseChain_of_base_some rfl rfl new,
      Registry.baseChain_of_base_none rfl]
    rfl
  have nodeFields : registry.flatten 0 node =
      .ok [⟨node, "next", .template "qlist" [.classRef "Node"]⟩] := by
    rw [Registry.flatten, Registry.baseChain_of_base_none rfl]
    rfl
  refine ⟨reached, ?_, ?_⟩
  · apply (methodLayout_diagnostics_eq_nil_iff_layable reached upload .request).1.2
    have layable : Layable registry 0 (.classRef "Score") := by
      refine .classRef rfl scoreFields ?_
      simp only [List.forall_mem_cons]
      exact ⟨.scalar rfl, .scalar rfl, List.forall_mem_nil _⟩
    simp only [upload, Method.fields, List.forall_mem_cons]
    exact ⟨.sequence (by decide) layable, .any _ rfl (.scalar rfl), List.forall_mem_nil _⟩
  · intro clean
    have layable :=
      (methodLayout_diagnostics_eq_nil_iff_layable reached upload .response).1.1 clean _
        List.mem_cons_self
    have again : Needs registry 0 (.template "qlist" [.classRef "Node"]) node :=
      .sequence (by decide) (.here rfl)
    exact layable.not_circular (.here rfl) nodeFields List.mem_cons_self again

end Ladder

end Dissect.Layout
