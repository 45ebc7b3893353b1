import Dissect.Proofs.Layout.Termination

/-!
# What fields contribute to a layout

A type has a layout or has a flaw, and which of the two is decided without laying anything out
(`flaw`): a class has none because it is active or because its bases fail, never because of its
fields. A field without a flaw contributes the values that its type holds, those of the fields inside
its classes included, and a field with a flaw contributes a single failure, whatever stands in front
of the flaw. `Contributes` lists these contributions in order.

The declarations, the instructions and the diagnostics of a layout are three views of that list
(`Outline.corresponds`), so nothing that is laid out on the way to a flaw is left in any of them.
-/

set_option autoImplicit false

namespace Dissect.Layout

open Schema
open Wire (Scalar allScalars allPlaceholders)

/-! ## Flaws -/

/-- Why a class has no layout: it is being laid out, or its bases fail. -/
def classFlaw (s : Setting) (c : ClassSite) : Option SchemaError :=
  if c.isIn s.active then some (Registry.circle s.active c)
  else
    match s.registry.flatten s.view c with
    | .error e => some e
    | .ok _ => none

/-- Why a type has no layout: the first flaw of its parts, in the order in which they are on the
wire. -/
def flaw (s : Setting) : TypeExpr → Option SchemaError
  | .scalar name =>
    match scalarNamed name with
    | .error e => some e
    | .ok _ => none
  | .classRef name =>
    match s.registry.resolve s.view name with
    | .error e => some e
    | .ok c => classFlaw s c
  | .template name parameters =>
    match TemplateKind.ofName? name, parameters with
    | none, _ => some (.unsupportedTemplate name)
    | some .any, [_, payload] => flaw s payload
    | some .sequence, [element] => flaw s element
    | some .map, [key, value] => (flaw s key).or (flaw s value)
    | some kind, parameters => some (.templateArity name kind.arity parameters.length)

/-! ## Contributions -/

/-- What a field contributes to a layout. -/
inductive Piece where
  | value (place : Place) (label : String) (type : Scalar)
  | failure (path : String) (place : Place) (error : SchemaError)

namespace Piece

/-- The declaration of a value under given identifiers. -/
def declaration? (names : Place → Identifier) : Piece → Option Declaration
  | .value place label type => some ⟨names place, label, type⟩
  | .failure _ _ _ => none

/-- The diagnostic of a failure under given identifiers. -/
def diagnostic? (names : Place → Identifier) : Piece → Option Diagnostic
  | .value _ _ _ => none
  | .failure path place error => some ⟨path, (names place).name, error⟩

end Piece

/-- What a task contributes, in order. -/
inductive Contributes : Setting → Task → List Piece → Prop
  | scalar {s : Setting} {scope : Scope} {path : List String} {label name : String} {type : Scalar}
      (known : scalarNamed name = .ok type) :
      Contributes s (.type scope path label (.scalar name)) [.value ⟨scope, path⟩ label type]
  | classRef {s : Setting} {scope : Scope} {path : List String} {label name : String}
      {c : ClassSite} {pieces : List Piece} (found : s.registry.resolve s.view name = .ok c)
      (inside : Contributes s (.ofClass c) pieces) :
      Contributes s (.type scope path label (.classRef name)) pieces
  | any {s : Setting} {scope : Scope} {path : List String} {label name : String}
      {discriminant payload : TypeExpr} {pieces : List Piece}
      (kind : TemplateKind.ofName? name = some .any)
      (inside : Contributes s (.type scope path label payload) pieces) :
      Contributes s (.type scope path label (.template name [discriminant, payload])) pieces
  | sequence {s : Setting} {scope : Scope} {path : List String} {label name : String}
      {element : TypeExpr} {pieces : List Piece} (kind : TemplateKind.ofName? name = some .sequence)
      (inside : Contributes s (.type scope path label element) pieces) :
      Contributes s (.type scope path label (.template name [element])) pieces
  | map {s : Setting} {scope : Scope} {path : List String} {label name : String}
      {key value : TypeExpr} {keys values : List Piece}
      (kind : TemplateKind.ofName? name = some .map)
      (first : Contributes s (.type scope (path ++ ["key"]) (label ++ " Key") key) keys)
      (second : Contributes s (.type scope (path ++ ["value"]) (label ++ " Value") value) values) :
      Contributes s (.type scope path label (.template name [key, value])) (keys ++ values)
  | field {s : Setting} {scope : Scope} {field : Field} {pieces : List Piece}
      (sound : flaw s field.type = none)
      (inside : Contributes s (.type scope [field.name] field.name field.type) pieces) :
      Contributes s (.field scope field) pieces
  /-- A field with a flaw contributes nothing else. -/
  | failure {s : Setting} {scope : Scope} {field : Field} {e : SchemaError}
      (flawed : flaw s field.type = some e) :
      Contributes s (.field scope field)
        [.failure s!"{scope.text}.{field.name}" ⟨scope, [field.name]⟩ e]
  | noFields {s : Setting} : Contributes s (.fields []) []
  | moreFields {s : Setting} {scope : Scope} {field : Field} {rest : List (Scope × Field)}
      {pieces others : List Piece} (first : Contributes s (.field scope field) pieces)
      (second : Contributes s (.fields rest) others) :
      Contributes s (.fields ((scope, field) :: rest)) (pieces ++ others)
  | ofClass {s : Setting} {c : ClassSite} {fields : List FlatField} {pieces : List Piece}
      (flat : s.registry.flatten s.view c = .ok fields)
      (inside : Contributes (s.enter c) (.fields (inOwnScopes fields)) pieces) :
      Contributes s (.ofClass c) pieces

/-- A task has at most one list of contributions. -/
theorem Contributes.unique {s : Setting} {task : Task} {pieces others : List Piece}
    (contributes : Contributes s task pieces) (other : Contributes s task others) :
    pieces = others := by
  induction contributes generalizing others with
  | scalar known =>
    cases other with
    | scalar known' => cases known.symm.trans known'; rfl
  | classRef found _ ih =>
    cases other with
    | classRef found' inside' => cases found.symm.trans found'; exact ih inside'
  | any kind _ ih =>
    cases other with
    | any _ inside' => exact ih inside'
    | map kind' _ _ => cases kind.symm.trans kind'
  | sequence _ _ ih =>
    cases other with
    | sequence _ inside' => exact ih inside'
  | map kind _ _ ih ih' =>
    cases other with
    | any kind' _ => cases kind.symm.trans kind'
    | map _ first second => rw [ih first, ih' second]
  | field sound _ ih =>
    cases other with
    | field _ inside' => exact ih inside'
    | failure flawed => cases sound.symm.trans flawed
  | failure flawed =>
    cases other with
    | field sound _ => cases flawed.symm.trans sound
    | failure flawed' => cases flawed.symm.trans flawed'; rfl
  | noFields =>
    cases other with
    | noFields => rfl
  | moreFields _ _ ih ih' =>
    cases other with
    | moreFields first second => rw [ih first, ih' second]
  | ofClass flat _ ih =>
    cases other with
    | ofClass flat' inside' => cases flat.symm.trans flat'; exact ih inside'

/-! ## Outlines hold the contributions -/

/-- The contributions in an outline. -/
def Outline.pieces : Outline → List Piece
  | .nothing => []
  | .value place label type => [.value place label type]
  | .counted body => body.pieces
  | .both first second => first.pieces ++ second.pieces
  | .placeholder _ path place error => [.failure path place error]

/-- A draft is an outline of the contributions of a task, or fails with the flaw. -/
def Draft.Tells (s : Setting) (task : Task) (flaw : Option SchemaError) : Draft → Prop
  | .ok o => flaw = none ∧ Contributes s task o.pieces
  | .error f => flaw = some f.error

variable {draft : ClassSite → Draft} {s : Setting}

theorem draftType_tells
    (inside : ∀ c ∈ s.registry.classes, (draft c).Tells s (.ofClass c) (classFlaw s c))
    (scope : Scope) (path : List String) (label : String) (type : TypeExpr) :
    (draftType draft s scope path label type).Tells s (.type scope path label type)
      (flaw s type) := by
  fun_induction draftType draft s scope path label type with
  | case1 path label name e unknown => simp only [Draft.Tells, flaw, unknown]
  | case2 path label name type known =>
    refine ⟨?_, .scalar known⟩
    simp only [flaw, known]
  | case3 path label name e unknown => simp only [Draft.Tells, flaw, unknown]
  | case4 path label name c found =>
    -- a flaw of the class is one of the type, and nothing inside the class is
    have tells := inside c (Registry.mem_classes_of_resolve found)
    rw [flaw, found]
    cases drafted : draft c with
    | error f =>
      rw [drafted] at tells
      exact tells
    | ok o =>
      rw [drafted] at tells
      exact ⟨tells.1, .classRef found tells.2⟩
  | case5 path label name parameters kind => simp only [Draft.Tells, flaw, kind]
  | case6 path label name discriminant payload kind ih =>
    simp only [flaw, kind]
    cases drafted : draftType draft s scope path label payload with
    | error f =>
      rw [drafted] at ih
      exact ih
    | ok o =>
      rw [drafted] at ih
      exact ⟨ih.1, .any kind ih.2⟩
  | case7 path label name element kind f failed ih =>
    rw [failed] at ih
    simp only [flaw, kind]
    exact ih
  | case8 path label name element kind body drafted ih =>
    rw [drafted] at ih
    simp only [flaw, kind]
    exact ⟨ih.1, .sequence kind ih.2⟩
  | case9 path label name key value kind f failed ih =>
    rw [failed] at ih
    simp only [Draft.Tells, flaw, kind] at ih ⊢
    rw [ih, Option.some_or]
  | case10 path label name key value kind keys drafted f failed ihKey ihValue =>
    -- the key has been laid out, and nothing of it is left
    rw [drafted] at ihKey
    rw [failed] at ihValue
    simp only [Draft.Tells, flaw, kind] at ihKey ihValue ⊢
    rw [ihKey.1, Option.none_or, ihValue]
  | case11 path label name key value kind keys drafted values drafted' ihKey ihValue =>
    rw [drafted] at ihKey
    rw [drafted'] at ihValue
    refine ⟨?_, .map kind ihKey.2 ihValue.2⟩
    simp only [flaw, kind]
    rw [ihKey.1, Option.none_or, ihValue.1]
  | case12 path label name kind parameters notAny notSequence notMap known =>
    rw [flaw.eq_7 _ _ _ kind known notAny notSequence notMap]
    rfl

theorem outlineField_contributes
    (inside : ∀ c ∈ s.registry.classes, (draft c).Tells s (.ofClass c) (classFlaw s c))
    (scope : Scope) (field : Field) :
    Contributes s (.field scope field) (outlineField draft s scope field).pieces := by
  have tells := draftType_tells inside scope [field.name] field.name field.type
  rw [outlineField]
  cases drafted : draftType draft s scope [field.name] field.name field.type with
  | ok o =>
    rw [drafted] at tells
    exact .field tells.1 tells.2
  | error f =>
    rw [drafted] at tells
    exact .failure tells

theorem outlineFields_contributes
    (inside : ∀ c ∈ s.registry.classes, (draft c).Tells s (.ofClass c) (classFlaw s c))
    (fields : List (Scope × Field)) :
    Contributes s (.fields fields) (outlineFields draft s fields).pieces := by
  induction fields with
  | nil => exact .noFields
  | cons head rest ih => exact .moreFields (outlineField_contributes inside head.1 head.2) ih

/-- With as much depth left as there are classes that are not active, the draft of a class tells what
the class contributes, or its flaw. -/
theorem draftClass_tells (depth : Nat) (s : Setting) (room : s.registry.unseen s.active ≤ depth) :
    ∀ c ∈ s.registry.classes, (draftClass depth s c).Tells s (.ofClass c) (classFlaw s c) := by
  induction depth generalizing s with
  | zero =>
    intro c mem
    -- all classes are active, and so is this one
    have met := Registry.isIn_of_unseen_eq_zero mem (Nat.le_zero.1 room)
    exact if_pos met
  | succ depth ih =>
    intro c mem
    rw [draftClass, classFlaw]
    cases met : c.isIn s.active with
    | true => rfl
    | false =>
      simp only [Bool.false_eq_true, if_false]
      cases flat : s.registry.flatten s.view c with
      | error e => rfl
      | ok fields =>
        -- inside the class it is active itself, which leaves one class less to come
        have fewer := Registry.unseen_append_lt mem met
        have inside := ih (s.enter c) (Nat.le_of_lt_succ (Nat.lt_of_lt_of_le fewer room))
        exact ⟨rfl, .ofClass flat (outlineFields_contributes inside (inOwnScopes fields))⟩

/-! ## Layouts show the contributions -/

theorem Outline.declarations_eq_filterMap (o : Outline) (names : Place → Identifier) :
    (o.named names).declarations = o.pieces.filterMap (Piece.declaration? names) := by
  induction o with
  | nothing => rfl
  | value place label type => rfl
  | counted body ih => exact ih
  | both first second ihFirst ihSecond =>
    rw [named, declarations_append, ihFirst, ihSecond, pieces, List.filterMap_append]
  | placeholder asked path place error => rfl

theorem Outline.diagnostics_eq_filterMap (o : Outline) (names : Place → Identifier) :
    (o.named names).diagnostics = o.pieces.filterMap (Piece.diagnostic? names) := by
  induction o with
  | nothing => rfl
  | value place label type => rfl
  | counted body ih => exact ih
  | both first second ihFirst ihSecond =>
    rw [named, diagnostics_append, ihFirst, ihSecond, pieces, List.filterMap_append]
  | placeholder asked path place error => rfl

/-- A diagnostic of a layout is that of a failure in its outline. -/
theorem Outline.exists_failure_of_diagnostic {o : Outline} {names : Place → Identifier}
    {d : Diagnostic} (mem : d ∈ (o.named names).diagnostics) :
    ∃ path place e, .failure path place e ∈ o.pieces ∧ d = ⟨path, (names place).name, e⟩ := by
  rw [Outline.diagnostics_eq_filterMap] at mem
  obtain ⟨piece, contributed, shown⟩ := List.mem_filterMap.1 mem
  cases piece with
  | value _ _ _ => cases shown
  | failure path place e =>
    cases shown
    exact ⟨path, place, e, contributed, rfl⟩

/-- Only a variant is not on the wire. -/
theorem width_eq_unwrapped_iff (type : Scalar) : type.width = .unwrapped ↔ type = .variant := by
  cases type <;> decide

theorem filter_onWire (declarations : List Declaration) :
    (declarations.filter fun d => d.type.width ≠ .unwrapped) =
      declarations.filter fun d => d.type ≠ .variant := by
  apply List.filter_congr
  intro d _
  exact decide_eq_decide.2 (not_congr (width_eq_unwrapped_iff d.type))

/-- How the parts of a layout that a task has led to correspond. -/
structure Corresponds (s : Setting) (task : Task) (laid : Layout × Builder) : Prop where
  /-- The instructions read the values that are declared, variants apart. -/
  scalars : allScalars laid.1.instructions =
    (laid.1.declarations.filter fun d => d.type ≠ .variant).map fun d => (d.ident.name, d.type)
  /-- There is a placeholder for every diagnostic. -/
  placeholders : allPlaceholders laid.1.instructions =
    laid.1.diagnostics.map fun d => (d.ident, d.error.message)
  /-- The contributions of the task can be listed. -/
  listed : ∃ pieces, Contributes s task pieces
  /-- The declarations are those of the values contributed. -/
  declarations : ∀ pieces, Contributes s task pieces →
    laid.1.declarations = pieces.filterMap (Piece.declaration? laid.2.identifiers.identifier)
  /-- The diagnostics are those of the failures contributed. -/
  diagnostics : ∀ pieces, Contributes s task pieces →
    laid.1.diagnostics = pieces.filterMap (Piece.diagnostic? laid.2.identifiers.identifier)

/-- An outline of the contributions of a task becomes a layout whose parts correspond. -/
theorem Outline.corresponds {o : Outline} {task : Task} (contributes : Contributes s task o.pieces)
    (b : Builder) : Corresponds s task (b.fillIn o) where
  scalars := by
    rw [← filter_onWire]
    exact (o.named_inStep _).scalars
  placeholders := (o.named_inStep _).placeholders
  listed := ⟨o.pieces, contributes⟩
  declarations := by
    -- any list of the contributions is the one in the outline
    intro pieces other
    rw [← contributes.unique other]
    exact o.declarations_eq_filterMap _
  diagnostics := by
    intro pieces other
    rw [← contributes.unique other]
    exact o.diagnostics_eq_filterMap _

/-- Drafts tell what classes contribute, in whatever setting a builder is. -/
theorem draftClass_tells_depth (b : Builder) : ∀ c ∈ b.setting.registry.classes,
    (draftClass b.depth b.setting c).Tells b.setting (.ofClass c) (classFlaw b.setting c) :=
  draftClass_tells b.depth b.setting List.countP_le_length

theorem classDraft_tells (r : Registry) (view : Nat) {c : ClassSite} (declared : c ∈ r.classes) :
    (classDraft r view c).Tells ⟨r, view, []⟩ (.ofClass c) (classFlaw ⟨r, view, []⟩ c) :=
  draftClass_tells r.classes.length ⟨r, view, []⟩ List.countP_le_length c declared

/-- The outline of a message has the contributions of its fields. -/
theorem methodOutline_contributes (r : Registry) (view : Nat) (m : Method) (d : Direction) :
    Contributes ⟨r, view, []⟩ (.fields ((m.fields d).map fun f => (.method m.name, f)))
      (methodOutline r view m d).pieces :=
  outlineFields_contributes (fun _ declared => classDraft_tells r view declared) _

theorem methodLayout_corresponds (b : Builder) (m : Method) (d : Direction) :
    Corresponds b.setting (.fields ((m.fields d).map fun f => (.method m.name, f)))
      (b.methodLayout m d) := by
  have laid := layFields_eq_fillIn (layClass_follows b.depth b.setting)
    ((m.fields d).map fun f => (.method m.name, f)) b rfl
  rw [Builder.methodLayout, laid]
  exact Outline.corresponds (outlineFields_contributes (draftClass_tells_depth b) _) b

theorem classLayout_eq_carryOut (b : Builder) (c : ClassSite) :
    b.classLayout c = (classReport c (b.carryOut (draftClass b.depth b.setting c)).1,
      (b.carryOut (draftClass b.depth b.setting c)).2) := by
  rw [classLayout_eq_report, layClass_follows b.depth b.setting c b rfl]

/-- A class without a flaw is laid out. -/
theorem classLayout_corresponds {b : Builder} {c : ClassSite} (mem : c ∈ b.registry.classes)
    (sound : classFlaw b.setting c = none) :
    Corresponds b.setting (.ofClass c) (b.classLayout c) := by
  have tells := draftClass_tells_depth b c mem
  rw [classLayout_eq_carryOut]
  cases drafted : draftClass b.depth b.setting c with
  | ok o =>
    rw [drafted] at tells
    exact Outline.corresponds tells.2 b
  | error f =>
    rw [drafted] at tells
    cases sound.symm.trans tells

/-- A class with a flaw is reported as a whole. -/
theorem classLayout_of_flaw {b : Builder} {c : ClassSite} (mem : c ∈ b.registry.classes)
    {e : SchemaError} (flawed : classFlaw b.setting c = some e) :
    (b.classLayout c).1 = classFailure c e := by
  have tells := draftClass_tells_depth b c mem
  rw [classLayout_eq_carryOut]
  cases drafted : draftClass b.depth b.setting c with
  | ok o =>
    rw [drafted] at tells
    cases flawed.symm.trans tells.1
  | error f =>
    rw [drafted] at tells
    cases flawed.symm.trans tells
    rfl

/-- With the class not active, only its bases can fail. -/
theorem classFlaw_of_new {b : Builder} {c : ClassSite} (new : c.isIn b.active = false) :
    classFlaw b.setting c =
      match b.registry.flatten b.view c with
      | .error e => some e
      | .ok _ => none :=
  if_neg (Bool.eq_false_iff.1 new)

/-- A type fails, in whatever state the builder is, exactly if it has a flaw, and then with that. -/
theorem ends_error_iff_flaw {scope : Scope} {path : List String} {label : String}
    {type : TypeExpr} {b : Builder} {x : Ending} (ends : Ends (.type scope path label type) b x)
    (e : SchemaError) : x.result = .error e ↔ flaw b.setting type = some e := by
  obtain ⟨entered, laid⟩ := layType_endsWith scope path label type (carries_depth b)
  have carried :=
    layType_eq_carryOut (layClass_follows b.depth b.setting) scope path label type b rfl
  have tells := draftType_tells (draftClass_tells_depth b) scope path label type
  rw [carried] at laid
  -- the ending is that of the builder, which carries out the draft
  cases ends.unique laid
  cases drafted : draftType (draftClass b.depth b.setting) b.setting scope path label type with
  | ok o =>
    rw [drafted] at tells
    simp [Builder.carryOut, tells.1]
  | error f =>
    rw [drafted] at tells
    simp [Builder.carryOut, show flaw b.setting type = some f.error from tells]

/-- The parts of every layout correspond, in whatever state the builder is. The instructions read the
values declared, variants apart, and have a placeholder for every diagnostic, all in order; and
declarations and diagnostics are those of the values and failures that the fields contribute. A class
whose bases fail has nothing but a diagnostic of the class; no class is active between layouts. A
field whose type fails, at any depth and however much of the type has been laid out, has one
placeholder and one diagnostic in its layout and no declaration, and contributes one failure. -/
theorem layout_parts_correspond (b : Builder) :
    (∀ (m : Method) (d : Direction),
      Corresponds b.setting (.fields ((m.fields d).map fun f => (.method m.name, f)))
        (b.methodLayout m d)) ∧
    (∀ c ∈ b.registry.classes, c.isIn b.active = false →
      (∀ fields, b.registry.flatten b.view c = .ok fields →
        Corresponds b.setting (.ofClass c) (b.classLayout c)) ∧
      (∀ e, b.registry.flatten b.view c = .error e →
        (b.classLayout c).1 = ⟨[], [], [⟨c.qualifiedName, c.decl.name, e⟩]⟩)) ∧
    (∀ (scope : Scope) (field : Field) (b' : Builder) (x : Ending) (e : SchemaError),
      Ends (.type scope [field.name] field.name field.type) b' x → x.result = .error e →
      (∀ y, Ends (.field scope field) b' y → ∃ ident, y.result =
        .ok ⟨[], [.unresolved ident e.message], [⟨s!"{scope.text}.{field.name}", ident, e⟩]⟩) ∧
      (∀ pieces, Contributes b'.setting (.field scope field) pieces ↔
        pieces = [.failure s!"{scope.text}.{field.name}" ⟨scope, [field.name]⟩ e])) := by
  refine ⟨methodLayout_corresponds b, ?_, ?_⟩
  · intro c mem new
    have flawed := classFlaw_of_new new
    refine ⟨?_, ?_⟩
    · intro fields flat
      rw [flat] at flawed
      exact classLayout_corresponds mem flawed
    · intro e failed
      rw [failed] at flawed
      exact classLayout_of_flaw mem flawed
  · intro scope field b' x e ends failed
    have flawed := (ends_error_iff_flaw ends e).1 failed
    refine ⟨?_, ?_⟩
    · -- the field ends with its placeholder, and in no other way
      intro y laid
      rcases x with ⟨_, b'', entered⟩
      cases failed
      cases laid.unique (.placeholder ends)
      exact ⟨_, rfl⟩
    · intro pieces
      constructor
      · intro contributes
        exact contributes.unique (.failure flawed)
      · rintro rfl
        exact .failure flawed

namespace Stock

/-- A class with a field of an unknown class behind one with a layout. -/
def item : ClassSite :=
  ⟨0, 0, "Store", "Item", none, [⟨"count", .scalar "uint8"⟩, ⟨"extra", .classRef "Missing"⟩]⟩

/-- A class with an unknown base. -/
def orphan : ClassSite := ⟨0, 1, "Store", "Orphan", some "Nothing", [⟨"count", .scalar "uint8"⟩]⟩

def registry : Registry := ⟨[⟨"Store", [item.decl, orphan.decl], []⟩]⟩

/-- A map whose keys have a layout and whose values have none. -/
def table : Field := ⟨"table", .template "std_map" [.classRef "Item", .scalar "vec"]⟩

def list : Method where
  id := 1
  name := "List"
  parameters := [table]
  returns := []

def builder : Builder := .start registry 0 "Stock"

/-- The map leaves no trace of its keys, the class has its first field and a placeholder for the
second, and the class without a base is reported as a whole. -/
theorem stock_parts_correspond :
    (builder.methodLayout list .request).1.declarations = [] ∧
    ((builder.methodLayout list .request).1.diagnostics.map fun d => (d.path, d.error)) =
      [("List.table", .unknownScalar "vec")] ∧
    ((builder.classLayout item).1.declarations.map fun d => (d.label, d.type)) =
      [("count", .uint8)] ∧
    ((builder.classLayout item).1.diagnostics.map fun d => (d.path, d.error)) =
      [("Store::Item.extra", .classNotFound "Missing")] ∧
    (builder.classLayout orphan).1 =
      ⟨[], [], [⟨"Store::Orphan", "Orphan", .classNotFound "Nothing"⟩]⟩ ∧
    (∃ x, Ends (.type (.method "List") ["table"] "table" table.type) builder x ∧
      x.result = .error (.unknownScalar "vec")) ∧
    Contributes builder.setting (.field (.method "List") table)
      [.failure "List.table" ⟨.method "List", ["table"]⟩ (.unknownScalar "vec")] := by
  have itemFound : registry.resolve 0 "Item" = .ok item := rfl
  have orphanFound : registry.resolve 0 "Orphan" = .ok orphan := rfl
  have itemFields : registry.flatten 0 item =
      .ok [⟨item, "count", .scalar "uint8"⟩, ⟨item, "extra", .classRef "Missing"⟩] := by
    rw [Registry.flatten, Registry.baseChain_of_base_none rfl]
    rfl
  have orphanFails : registry.flatten 0 orphan = .error (.classNotFound "Nothing") := by
    rw [Registry.flatten, Registry.baseChain_of_base_error rfl rfl]
    rfl
  have flawed : flaw builder.setting table.type = some (.unknownScalar "vec") := by
    have found : builder.setting.registry.resolve builder.setting.view "Item" = .ok item :=
      itemFound
    have sound : classFlaw builder.setting item = none := by
      rw [classFlaw_of_new rfl, show builder.registry.flatten builder.view item = _ from itemFields]
    simp only [table, flaw, show TemplateKind.ofName? "std_map" = some .map from rfl, found, sound]
    rfl
  obtain ⟨methods, classes, failures⟩ := layout_parts_correspond builder
  obtain ⟨x, ends⟩ := exists_ends (.type (.method "List") ["table"] "table" table.type) builder
  have failed := (ends_error_iff_flaw ends (.unknownScalar "vec")).2 flawed
  have fromTable := ((failures (.method "List") table builder x _ ends failed).2 _).2 rfl
  have fromList := Contributes.moreFields fromTable .noFields
  have fromItem : Contributes builder.setting (.ofClass item) _ :=
    .ofClass itemFields
      (.moreFields (.field rfl (.scalar rfl)) (.moreFields (.failure rfl) .noFields))
  have itemLayout := (classes item (Registry.mem_classes_of_resolve itemFound) rfl).1 _ itemFields
  refine ⟨?_, ?_, ?_, ?_, ?_, ⟨x, ends, failed⟩, fromTable⟩
  · exact (methods list .request).declarations _ fromList
  · rw [(methods list .request).diagnostics _ fromList]
    rfl
  · rw [itemLayout.declarations _ fromItem]
    rfl
  · rw [itemLayout.diagnostics _ fromItem]
    rfl
  · exact (classes orphan (Registry.mem_classes_of_resolve orphanFound) rfl).2 _ orphanFails

end Stock

end Dissect.Layout
