import Dissect.Proofs.Layout.Builder
import Dissect.Proofs.Layout.Interning
import Dissect.Proofs.Wire.Instruction

/-!
# Outlines

The builder takes two steps at once. What is laid out and what fails is decided by the schema
alone: an `Outline` is a layout at places, before they have identifiers. Which identifiers the
places get is decided by the requests made of the table before, those of failed attempts included.

`draftClass` and its companions make outlines without any table, and laying out is to carry out a
draft: to ask for the places of the outline in order, and to put the identifiers in their places
(`methodLayout_eq_named`, `classLayout_eq_named`). Whatever has been laid out before thus shows in
the identifiers only.
-/

set_option autoImplicit false

namespace Dissect.Layout

open Schema
open Wire (Scalar allScalars allPlaceholders)

@[simp] theorem declarations_append (a b : Layout) :
    (a ++ b).declarations = a.declarations ++ b.declarations := rfl

/-! ## Tables after requests -/

namespace IdentifierTable

/-- The identifier that the next request of a place returns. -/
def identifier (t : IdentifierTable) (place : Place) : Identifier := (t.intern place).1

/-- The table after requests of places, in order. -/
def after (t : IdentifierTable) (places : List Place) : IdentifierTable :=
  places.foldl (fun t place => (t.intern place).2) t

/-- The place has been asked for. -/
def Knows (t : IdentifierTable) (place : Place) : Prop := ∃ i, (place, i) ∈ t.entries

@[simp] theorem after_nil (t : IdentifierTable) : t.after [] = t := rfl

@[simp] theorem after_cons (t : IdentifierTable) (place : Place) (rest : List Place) :
    t.after (place :: rest) = (t.intern place).2.after rest := rfl

theorem after_append (t : IdentifierTable) (first second : List Place) :
    t.after (first ++ second) = (t.after first).after second :=
  List.foldl_append

theorem knows_intern_iff (t : IdentifierTable) (asked place : Place) :
    (t.intern asked).2.Knows place ↔ place = asked ∨ t.Knows place := by
  simp only [Knows, mem_entries_intern_iff, Prod.mk.injEq, exists_or, exists_and_left,
    exists_eq, and_true]

theorem knows_after_iff (t : IdentifierTable) (places : List Place) (place : Place) :
    (t.after places).Knows place ↔ place ∈ places ∨ t.Knows place := by
  induction places generalizing t with
  | nil => simp
  | cons asked rest ih =>
    rw [after_cons, ih, knows_intern_iff, List.mem_cons, or_left_comm, or_assoc]

/-- A place that has been asked for keeps its identifier. -/
theorem identifier_intern {t : IdentifierTable} {place : Place} (known : t.Knows place)
    (asked : Place) : (t.intern asked).2.identifier place = t.identifier place := by
  rcases intern_cases t asked with ⟨_, -, done⟩ | ⟨new, done⟩
  · rw [done]
  · obtain ⟨i, mem⟩ := known
    have other : asked ≠ place := (new (place, i) mem).symm
    rw [done, identifier, identifier, intern, intern, List.find?_cons_of_neg (by simpa using other)]
    cases found : t.entries.find? fun e => e.1 = place with
    | some e => rfl
    | none =>
      have absent := List.find?_eq_none.1 found (place, i) mem
      simp at absent

theorem identifier_intern_self (t : IdentifierTable) (place : Place) :
    (t.intern place).2.identifier place = t.identifier place := by
  rcases intern_cases t place with ⟨_, -, done⟩ | ⟨-, done⟩
  · rw [done]
  · rw [identifier, done, identifier, done, intern, List.find?_cons_of_pos (by simp)]

theorem identifier_after {t : IdentifierTable} {place : Place} (known : t.Knows place)
    (places : List Place) : (t.after places).identifier place = t.identifier place := by
  induction places generalizing t with
  | nil => rfl
  | cons asked rest ih =>
    rw [after_cons, ih ((t.knows_intern_iff asked place).2 (.inr known)), identifier_intern known]

theorem mem_entries_of_knows {t : IdentifierTable} {place : Place} (known : t.Knows place) :
    (place, t.identifier place) ∈ t.entries := by
  rcases intern_cases t place with ⟨_, mem, done⟩ | ⟨new, -⟩
  · rw [identifier, done]
    exact mem
  · obtain ⟨i, mem⟩ := known
    exact absurd rfl (new _ mem)

theorem after_distinct {t : IdentifierTable} (distinct : t.entries.Pairwise Distinct)
    (places : List Place) : (t.after places).entries.Pairwise Distinct := by
  induction places generalizing t with
  | nil => exact distinct
  | cons place rest ih => exact ih (intern_distinct distinct place)

/-- Places that have been asked for are told apart by either name of their identifiers. -/
theorem eq_of_identifier {t : IdentifierTable} (distinct : t.entries.Pairwise Distinct)
    {p q : Place} (hp : t.Knows p) (hq : t.Knows q)
    (same : (t.identifier p).name = (t.identifier q).name ∨
      (t.identifier p).abbr = (t.identifier q).abbr) : p = q := by
  by_contra differ
  have apart := distinct.forall (mem_entries_of_knows hp) (mem_entries_of_knows hq)
    fun equal => differ (Prod.mk.inj equal).1
  rcases same with same | same
  · exact apart.name same
  · exact apart.abbr same

end IdentifierTable

/-! ## Outlines and drafts -/

/-- A layout at places that have no identifiers yet. -/
inductive Outline where
  | nothing
  | value (place : Place) (label : String) (type : Scalar)
  | counted (body : Outline)
  | both (first second : Outline)
  /-- A field without a layout. The places in `asked` have been asked for before its type turned
  out to have none. -/
  | placeholder (asked : List Place) (path : String) (place : Place) (error : SchemaError)

namespace Outline

/-- The places asked for, in order. -/
def requests : Outline → List Place
  | .nothing => []
  | .value place _ _ => [place]
  | .counted body => body.requests
  | .both first second => first.requests ++ second.requests
  | .placeholder asked _ place _ => asked ++ [place]

/-- The layout under given identifiers. -/
def named (names : Place → Identifier) : Outline → Layout
  | .nothing => .empty
  | .value place label type => .scalar (names place) label type
  | .counted body => (body.named names).counted
  | .both first second => first.named names ++ second.named names
  | .placeholder _ path place error => .placeholder path (names place).name error

/-- Only the identifiers of places asked for matter. -/
theorem named_congr {names names' : Place → Identifier} (o : Outline)
    (same : ∀ place ∈ o.requests, names place = names' place) : o.named names = o.named names' := by
  induction o with
  | nothing => rfl
  | value place label type => rw [named, named, same place (List.mem_singleton_self place)]
  | counted body ih => rw [named, named, ih same]
  | both first second ihFirst ihSecond =>
    obtain ⟨sameFirst, sameSecond⟩ := List.forall_mem_append.1 same
    rw [named, named, ihFirst sameFirst, ihSecond sameSecond]
  | placeholder asked path place error =>
    rw [named, named, same place (List.mem_append_right asked (List.mem_singleton_self place))]

/-- Further requests change nothing in a layout whose places have been asked for. -/
theorem named_after (o : Outline) {t : IdentifierTable}
    (known : ∀ place ∈ o.requests, t.Knows place) (more : List Place) :
    o.named (t.after more).identifier = o.named t.identifier :=
  o.named_congr fun place mem => IdentifierTable.identifier_after (known place mem) more

end Outline

/-- Why a type has no layout, and the places asked for until that was found. -/
structure Failure where
  error : SchemaError
  asked : List Place

/-- What the schema makes of a type. -/
abbrev Draft := Except Failure Outline

namespace Draft

/-- The places asked for, in order. -/
def requests : Draft → List Place
  | .ok o => o.requests
  | .error f => f.asked

end Draft

/-- What a draft is made in: a builder without its identifiers. -/
structure Setting where
  registry : Registry
  view : Nat
  active : List ClassSite

/-- The setting inside a class. -/
def Setting.enter (s : Setting) (c : ClassSite) : Setting := { s with active := s.active ++ [c] }

/-- The setting of a builder. -/
def Builder.setting (b : Builder) : Setting := ⟨b.registry, b.view, b.active⟩

/-- Drafts a type at a place; `draftClass` drafts a class. -/
def draftType (draftClass : ClassSite → Draft) (s : Setting) (scope : Scope) :
    List String → String → TypeExpr → Draft
  | path, label, .scalar name =>
    match scalarNamed name with
    | .error e => .error ⟨e, []⟩
    | .ok type => .ok (.value ⟨scope, path⟩ label type)
  | _, _, .classRef name =>
    match s.registry.resolve s.view name with
    | .error e => .error ⟨e, []⟩
    | .ok c => draftClass c
  | path, label, .template name parameters =>
    match TemplateKind.ofName? name, parameters with
    | none, _ => .error ⟨.unsupportedTemplate name, []⟩
    | some .any, [_, payload] => draftType draftClass s scope path label payload
    | some .sequence, [element] =>
      match draftType draftClass s scope path label element with
      | .error f => .error f
      | .ok body => .ok (.counted body)
    | some .map, [key, value] =>
      match draftType draftClass s scope (path ++ ["key"]) (label ++ " Key") key with
      | .error f => .error f
      | .ok keys =>
        match draftType draftClass s scope (path ++ ["value"]) (label ++ " Value") value with
        | .error f => .error ⟨f.error, keys.requests ++ f.asked⟩
        | .ok values => .ok (.counted (.both keys values))
    | some kind, parameters => .error ⟨.templateArity name kind.arity parameters.length, []⟩

/-- Outlines a field; one whose type has no layout becomes a placeholder. -/
def outlineField (draftClass : ClassSite → Draft) (s : Setting) (scope : Scope) (field : Field) :
    Outline :=
  match draftType draftClass s scope [field.name] field.name field.type with
  | .ok o => o
  | .error f =>
    .placeholder f.asked s!"{scope.text}.{field.name}" ⟨scope, [field.name]⟩ f.error

/-- Outlines fields, each in its own scope, one after another. -/
def outlineFields (draftClass : ClassSite → Draft) (s : Setting) :
    List (Scope × Field) → Outline
  | [] => .nothing
  | (scope, field) :: rest =>
    .both (outlineField draftClass s scope field) (outlineFields draftClass s rest)

/-- Drafts a class, while at most `depth` classes more than those active may be opened. -/
def draftClass : Nat → Setting → ClassSite → Draft
  | 0, s, c => .error ⟨Registry.circle s.active c, []⟩
  | depth + 1, s, c =>
    if c.isIn s.active then .error ⟨Registry.circle s.active c, []⟩
    else
      match s.registry.flatten s.view c with
      | .error e => .error ⟨e, []⟩
      | .ok fields => .ok (outlineFields (draftClass depth (s.enter c)) (s.enter c)
          (inOwnScopes fields))

/-! ## Laying out is carrying out a draft -/

namespace Builder

/-- The builder with another table. -/
def having (b : Builder) (identifiers : IdentifierTable) : Builder := { b with identifiers }

@[simp] theorem having_identifiers (b : Builder) (t : IdentifierTable) :
    (b.having t).identifiers = t := rfl

@[simp] theorem having_having (b : Builder) (t t' : IdentifierTable) :
    (b.having t).having t' = b.having t' := rfl

/-- Asks for the places of an outline, and names them. -/
def fillIn (b : Builder) (o : Outline) : Layout × Builder :=
  (o.named (b.identifiers.after o.requests).identifier,
    b.having (b.identifiers.after o.requests))

/-- Asks for the places of a draft, and names them if it has not failed. -/
def carryOut (b : Builder) : Draft → Attempt
  | .ok o => (.ok (b.fillIn o).1, (b.fillIn o).2)
  | .error f => (.error f.error, b.having (b.identifiers.after f.asked))

theorem fillIn_counted (b : Builder) (body : Outline) :
    b.fillIn (.counted body) = ((b.fillIn body).1.counted, (b.fillIn body).2) := rfl

/-- The second of two outlines is filled in by the builder that the first has left, and the layout
of the first is not changed by that. -/
theorem fillIn_both (b : Builder) (first second : Outline) :
    b.fillIn (.both first second) =
      ((b.fillIn first).1 ++ ((b.fillIn first).2.fillIn second).1,
        ((b.fillIn first).2.fillIn second).2) := by
  have known : ∀ place ∈ first.requests, (b.identifiers.after first.requests).Knows place :=
    fun place mem => (b.identifiers.knows_after_iff _ place).2 (.inl mem)
  simp only [fillIn, Outline.named, Outline.requests, IdentifierTable.after_append,
    first.named_after known, having_identifiers, having_having]

theorem leave_fillIn_enter (b : Builder) (c : ClassSite) (o : Outline) :
    ((b.enter c).fillIn o).2.leave = (b.fillIn o).2 := by
  simp only [fillIn, having, enter, leave, List.dropLast_concat]

end Builder

/-- In the given setting, to lay out a class is to carry out its draft. -/
def Follows (lay : ClassSite → Builder → Attempt) (draft : ClassSite → Draft) (s : Setting) :
    Prop :=
  ∀ c b, b.setting = s → lay c b = b.carryOut (draft c)

variable {lay : ClassSite → Builder → Attempt} {draft : ClassSite → Draft} {s : Setting}

theorem layType_eq_carryOut (follows : Follows lay draft s) (scope : Scope) (path : List String)
    (label : String) (type : TypeExpr) (b : Builder) (here : b.setting = s) :
    layType lay scope path label type b =
      b.carryOut (draftType draft s scope path label type) := by
  fun_induction draftType draft s scope path label type generalizing b with
  | case1 path label name e unknown =>
    rw [layType, unknown]
    rfl
  | case2 path label name type known =>
    have same := b.identifiers.identifier_intern_self ⟨scope, path⟩
    rw [layType, known]
    simp only [Builder.carryOut, Builder.fillIn, Outline.named, Outline.requests,
      IdentifierTable.after_cons, IdentifierTable.after_nil, same]
    rfl
  | case3 path label name e unknown =>
    subst here
    rw [layType, show b.registry.resolve b.view name = _ from unknown]
    rfl
  | case4 path label name c found =>
    have resolved : b.registry.resolve b.view name = .ok c := by
      rw [← here] at found
      exact found
    rw [layType, resolved]
    exact follows c b here
  | case5 path label name parameters kind =>
    simp only [layType, kind]
    rfl
  | case6 path label name discriminant payload kind ih =>
    simp only [layType, kind]
    exact ih b here
  | case7 path label name element kind f failed ih =>
    simp only [layType, kind, ih b here, failed, Builder.carryOut]
  | case8 path label name element kind body drafted ih =>
    simp only [layType, kind, ih b here, drafted, Builder.carryOut]
    rfl
  | case9 path label name key value kind f failed ih =>
    simp only [layType, kind, ih b here, failed, Builder.carryOut]
  | case10 path label name key value kind keys drafted f failed ihKey ihValue =>
    -- the value is laid out by the builder that the key has left
    have second := ihValue (b.fillIn keys).2 here
    simp only [layType, kind, ihKey b here, drafted, Builder.carryOut, second, failed,
      IdentifierTable.after_append]
    rfl
  | case11 path label name key value kind keys drafted values drafted' ihKey ihValue =>
    have second := ihValue (b.fillIn keys).2 here
    simp only [layType, kind, ihKey b here, drafted, Builder.carryOut, second, drafted',
      Builder.fillIn_counted, Builder.fillIn_both]
  | case12 path label name kind parameters notAny notSequence notMap ofName =>
    rw [layType.eq_7 _ _ _ _ _ _ _ kind ofName notAny notSequence notMap]
    rfl

theorem layField_eq_fillIn (follows : Follows lay draft s) (scope : Scope) (field : Field)
    (b : Builder) (here : b.setting = s) :
    layField lay scope field b = b.fillIn (outlineField draft s scope field) := by
  rw [layField, layType_eq_carryOut follows scope _ _ field.type b here, outlineField]
  cases draftType draft s scope [field.name] field.name field.type with
  | ok o => rfl
  | error f =>
    have same := (b.identifiers.after f.asked).identifier_intern_self ⟨scope, [field.name]⟩
    simp only [Builder.carryOut, Builder.fillIn, Outline.named, Outline.requests,
      IdentifierTable.after_append, IdentifierTable.after_cons, IdentifierTable.after_nil, same]
    rfl

theorem layFields_eq_fillIn (follows : Follows lay draft s) (fields : List (Scope × Field))
    (b : Builder) (here : b.setting = s) :
    layFields lay fields b = b.fillIn (outlineFields draft s fields) := by
  induction fields generalizing b with
  | nil => rfl
  | cons head rest ih =>
    rw [layFields_cons, layField_eq_fillIn follows head.1 head.2 b here,
      ih (b.fillIn _).2 here, outlineFields, Builder.fillIn_both]

/-- To lay out a class is to carry out its draft. -/
theorem layClass_follows (depth : Nat) (s : Setting) :
    Follows (layClass depth) (draftClass depth s) s := by
  induction depth generalizing s with
  | zero =>
    intro c b here
    subst here
    rfl
  | succ depth ih =>
    intro c b here
    subst here
    rw [layClass, draftClass]
    by_cases met : c.isIn b.active = true
    · rw [if_pos met, if_pos (show c.isIn b.setting.active = true from met)]
      rfl
    · rw [if_neg met, if_neg (show ¬ c.isIn b.setting.active = true from met)]
      show _ = b.carryOut (match b.registry.flatten b.view c with | .error e => _ | .ok fields => _)
      cases b.registry.flatten b.view c with
      | error e => rfl
      | ok fields =>
        -- the fields are laid out inside the class, which is left again afterwards
        have inside := layFields_eq_fillIn (ih (b.setting.enter c)) (inOwnScopes fields)
          (b.enter c) rfl
        simp only [inside, Builder.carryOut, Builder.leave_fillIn_enter]
        rfl

/-! ## Methods and classes -/

/-- The outline of the message that a method sends in a direction. -/
def methodOutline (r : Registry) (view : Nat) (m : Method) (d : Direction) : Outline :=
  outlineFields (draftClass r.classes.length ⟨r, view, []⟩) ⟨r, view, []⟩
    ((m.fields d).map fun f => (.method m.name, f))

/-- The draft of a class by itself. -/
def classDraft (r : Registry) (view : Nat) (c : ClassSite) : Draft :=
  draftClass r.classes.length ⟨r, view, []⟩ c

/-- What stands for a class without a layout. -/
def classFailure (c : ClassSite) (error : SchemaError) : Layout :=
  ⟨[], [], [⟨c.qualifiedName, c.decl.name, error⟩]⟩

/-- The layout of a class under given identifiers. -/
def classNamed (names : Place → Identifier) (r : Registry) (view : Nat) (c : ClassSite) : Layout :=
  match classDraft r view c with
  | .ok o => o.named names
  | .error f => classFailure c f.error

/-- A builder between layouts. -/
def Builder.between (r : Registry) (view : Nat) (t : IdentifierTable) : Builder := ⟨r, view, t, []⟩

/-- Between layouts, the layout of a method is its outline under the identifiers of the table
after its requests. -/
theorem methodLayout_eq_named (r : Registry) (view : Nat) (t : IdentifierTable) (m : Method)
    (d : Direction) :
    (Builder.between r view t).methodLayout m d =
      ((methodOutline r view m d).named (t.after (methodOutline r view m d).requests).identifier,
        .between r view (t.after (methodOutline r view m d).requests)) :=
  layFields_eq_fillIn (layClass_follows r.classes.length _) _ (.between r view t) rfl

/-- Between layouts, the layout of a class is its draft under the identifiers of the table after
its requests. -/
theorem classLayout_eq_named (r : Registry) (view : Nat) (t : IdentifierTable) (c : ClassSite) :
    (Builder.between r view t).classLayout c =
      (classNamed (t.after (classDraft r view c).requests).identifier r view c,
        .between r view (t.after (classDraft r view c).requests)) := by
  have laid : layClass r.classes.length c (.between r view t) =
      (Builder.between r view t).carryOut (classDraft r view c) :=
    layClass_follows r.classes.length _ c _ rfl
  rw [Builder.classLayout, show (Builder.between r view t).depth = r.classes.length from rfl, laid]
  unfold classNamed
  cases classDraft r view c with
  | ok o => rfl
  | error f => rfl

/-- Further requests change nothing in the layout of a class whose places have been asked for. -/
theorem classNamed_after {r : Registry} {view : Nat} {c : ClassSite} {t : IdentifierTable}
    (known : ∀ place ∈ (classDraft r view c).requests, t.Knows place) (more : List Place) :
    classNamed (t.after more).identifier r view c = classNamed t.identifier r view c := by
  unfold classNamed
  cases drafted : classDraft r view c with
  | ok o =>
    rw [drafted] at known
    exact o.named_after known more
  | error f => rfl

/-! ## What layouts hold -/

/-- The instructions of a layout read the values that are declared and on the wire, in order, and
they have a placeholder for every diagnostic, in order. -/
structure InStep (l : Layout) : Prop where
  scalars : allScalars l.instructions =
    (l.declarations.filter fun d => d.type.width ≠ .unwrapped).map fun d => (d.ident.name, d.type)
  placeholders : allPlaceholders l.instructions =
    l.diagnostics.map fun d => (d.ident, d.error.message)

theorem InStep.append {a b : Layout} (first : InStep a) (second : InStep b) : InStep (a ++ b) where
  scalars := by
    rw [instructions_append, declarations_append, Wire.allScalars_append, first.scalars,
      second.scalars, List.filter_append, List.map_append]
  placeholders := by
    rw [instructions_append, diagnostics_append, Wire.allPlaceholders_append, first.placeholders,
      second.placeholders, List.map_append]

theorem InStep.counted {body : Layout} (inside : InStep body) : InStep body.counted where
  scalars := by
    simp only [Layout.counted, allScalars, Wire.Instruction.scalars, List.append_nil]
    exact inside.scalars
  placeholders := by
    simp only [Layout.counted, allPlaceholders, Wire.Instruction.placeholders, List.append_nil]
    exact inside.placeholders

/-- Every layout of an outline goes in step. -/
theorem Outline.named_inStep (o : Outline) (names : Place → Identifier) :
    InStep (o.named names) := by
  induction o with
  | nothing => exact ⟨rfl, rfl⟩
  | value place label type => cases type <;> exact ⟨rfl, rfl⟩
  | counted body ih => exact ih.counted
  | both first second ihFirst ihSecond => exact ihFirst.append ihSecond
  | placeholder asked path place error => exact ⟨rfl, rfl⟩

theorem methodLayout_inStep (r : Registry) (view : Nat) (t : IdentifierTable) (m : Method)
    (d : Direction) : InStep ((Builder.between r view t).methodLayout m d).1 := by
  rw [methodLayout_eq_named]
  exact Outline.named_inStep _ _

/-- The values of an outline with their places, in order. -/
def Outline.values : Outline → List (Place × Scalar)
  | .nothing => []
  | .value place _ type => [(place, type)]
  | .counted body => body.values
  | .both first second => first.values ++ second.values
  | .placeholder _ _ _ _ => []

theorem Outline.mem_requests_of_mem_values {o : Outline} {v : Place × Scalar}
    (mem : v ∈ o.values) : v.1 ∈ o.requests := by
  induction o with
  | nothing => cases mem
  | value place label type =>
    cases List.mem_singleton.1 mem
    exact List.mem_singleton_self place
  | counted body ih => exact ih mem
  | both first second ihFirst ihSecond =>
    rcases List.mem_append.1 mem with mem | mem
    · exact List.mem_append_left _ (ihFirst mem)
    · exact List.mem_append_right _ (ihSecond mem)
  | placeholder asked path place error => cases mem

/-- The declarations of a layout are those of the values of the outline. -/
theorem Outline.declarations_named (o : Outline) (names : Place → Identifier) :
    ((o.named names).declarations.map fun d => (d.ident, d.type)) =
      o.values.map fun v => (names v.1, v.2) := by
  induction o with
  | nothing => rfl
  | value place label type => rfl
  | counted body ih => exact ih
  | both first second ihFirst ihSecond =>
    rw [Outline.named, declarations_append, List.map_append, ihFirst, ihSecond, Outline.values,
      List.map_append]
  | placeholder asked path place error => rfl

/-- What the instructions of a layout read are the values of the outline that are on the wire. -/
theorem Outline.allScalars_named (o : Outline) (names : Place → Identifier) :
    allScalars (o.named names).instructions =
      (o.values.filter fun v => v.2.width ≠ .unwrapped).map fun v => ((names v.1).name, v.2) := by
  have declared :=
    congrArg (List.filter fun d => d.2.width ≠ .unwrapped) (o.declarations_named names)
  rw [List.filter_map, List.filter_map] at declared
  have named := congrArg (List.map fun d : Identifier × Scalar => (d.1.name, d.2)) declared
  rw [List.map_map, List.map_map] at named
  rw [(o.named_inStep names).scalars]
  exact named

end Dissect.Layout
