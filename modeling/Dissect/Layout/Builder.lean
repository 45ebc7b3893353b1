import Dissect.Layout.Basic

/-!
# Building layouts

From the declared types of fields to layouts. Class names are looked up, bases are put in front,
containers become counted sequences. A class that is met while it is being laid out has no
layout. A field whose type has none becomes a placeholder, and the fields around it are laid out
all the same.
-/

set_option autoImplicit false

namespace Dissect.Layout

open Schema

/-- What layouts of one protocol share: the registry seen from the namespace of the protocol, the
identifiers given out, and the classes being laid out, the outermost first. -/
structure Builder where
  registry : Registry
  view : Nat
  identifiers : IdentifierTable
  active : List ClassSite

/-- How an attempt to lay out a type ends, and what the builder has become. Identifiers given out
during an attempt that failed stay given out. -/
abbrev Attempt := Except SchemaError Layout × Builder

namespace Builder

/-- The builder of a protocol in the namespace at place `view`. -/
def start (registry : Registry) (view : Nat) (protocol : String) : Builder :=
  ⟨registry, view, .empty protocol, []⟩

/-- The identifier of a place. -/
def intern (b : Builder) (place : Place) : Identifier × Builder :=
  let (i, identifiers) := b.identifiers.intern place
  (i, { b with identifiers })

/-- The builder with one more class being laid out. -/
def enter (b : Builder) (c : ClassSite) : Builder := { b with active := b.active ++ [c] }

/-- The builder with the innermost class done. -/
def leave (b : Builder) : Builder := { b with active := b.active.dropLast }

end Builder

/-- Lays out a type at a place; `layClass` lays out a class. -/
def layType (layClass : ClassSite → Builder → Attempt) (scope : Scope) :
    List String → String → TypeExpr → Builder → Attempt
  | path, label, .scalar name, b =>
    match scalarNamed name with
    | .error e => (.error e, b)
    | .ok type =>
      let (ident, b) := b.intern ⟨scope, path⟩
      (.ok (.scalar ident label type), b)
  | _, _, .classRef name, b =>
    match b.registry.resolve b.view name with
    | .error e => (.error e, b)
    | .ok c => layClass c b
  | path, label, .template name parameters, b =>
    match TemplateKind.ofName? name, parameters with
    | none, _ => (.error (.unsupportedTemplate name), b)
    | some .any, [_, payload] => layType layClass scope path label payload b
    | some .sequence, [element] =>
      match layType layClass scope path label element b with
      | (.error e, b) => (.error e, b)
      | (.ok body, b) => (.ok body.counted, b)
    | some .map, [key, value] =>
      match layType layClass scope (path ++ ["key"]) (label ++ " Key") key b with
      | (.error e, b) => (.error e, b)
      | (.ok keys, b) =>
        match layType layClass scope (path ++ ["value"]) (label ++ " Value") value b with
        | (.error e, b) => (.error e, b)
        | (.ok values, b) => (.ok (keys ++ values).counted, b)
    | some kind, parameters => (.error (.templateArity name kind.arity parameters.length), b)

/-- Lays out a field; one whose type has no layout becomes a placeholder. -/
def layField (layClass : ClassSite → Builder → Attempt) (scope : Scope) (field : Field)
    (b : Builder) : Layout × Builder :=
  match layType layClass scope [field.name] field.name field.type b with
  | (.ok layout, b) => (layout, b)
  | (.error e, b) =>
    let (ident, b) := b.intern ⟨scope, [field.name]⟩
    (.placeholder s!"{scope.text}.{field.name}" ident.name e, b)

/-- Lays out fields, each in its own scope, one after another. -/
def layFields (layClass : ClassSite → Builder → Attempt) :
    List (Scope × Field) → Builder → Layout × Builder
  | [], b => (.empty, b)
  | (scope, field) :: rest, b =>
    let (first, b) := layField layClass scope field b
    let (others, b) := layFields layClass rest b
    (first ++ others, b)

/-- The fields of a class, each in the scope of the class that declares it. -/
def inOwnScopes (fields : List FlatField) : List (Scope × Field) :=
  fields.map fun f => (.inClass f.owner.spaceName f.owner.decl.name, f.field)

/-- Lays out a class, while at most `depth` classes more than those active may be opened. With
all classes of a registry active every further one closes a circle, so a depth of as many classes
as there are is no restriction. -/
def layClass : Nat → ClassSite → Builder → Attempt
  | 0, c, b => (.error (Registry.circle b.active c), b)
  | depth + 1, c, b =>
    if c.isIn b.active then (.error (Registry.circle b.active c), b)
    else
      match b.registry.flatten b.view c with
      | .error e => (.error e, b)
      | .ok fields =>
        let (layout, b) := layFields (layClass depth) (inOwnScopes fields) (b.enter c)
        (.ok layout, b.leave)

namespace Builder

/-- How many classes can be active at once. -/
def depth (b : Builder) : Nat := b.registry.classes.length

/-- The layout of the message that a method sends in a direction. -/
def methodLayout (b : Builder) (m : Method) (d : Direction) : Layout × Builder :=
  layFields (layClass b.depth) ((m.fields d).map fun f => (.method m.name, f)) b

/-- The layout of a class. A class that has none is reported as a whole. -/
def classLayout (b : Builder) (c : ClassSite) : Layout × Builder :=
  match layClass b.depth c b with
  | (.ok layout, b) => (layout, b)
  | (.error e, b) => (⟨[], [], [⟨c.qualifiedName, c.decl.name, e⟩]⟩, b)

end Builder

end Dissect.Layout
