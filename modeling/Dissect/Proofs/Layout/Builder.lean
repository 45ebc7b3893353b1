import Dissect.Layout.Builder

/-!
# What laying out leaves as it was

Laying out a type, a field or a class gives out identifiers, and leaves the registry, the namespace
it is seen from and the active classes of the builder as they were, whether it succeeds or fails.
Between layouts no class is active (`Builder.Reached.idle`).
-/

set_option autoImplicit false

namespace Dissect.Layout

open Schema

@[simp] theorem instructions_append (a b : Layout) :
    (a ++ b).instructions = a.instructions ++ b.instructions := rfl

@[simp] theorem diagnostics_append (a b : Layout) :
    (a ++ b).diagnostics = a.diagnostics ++ b.diagnostics := rfl

/-- Fields are laid out from left to right. -/
theorem layFields_cons (lay : ClassSite → Builder → Attempt) (scope : Scope) (field : Field)
    (rest : List (Scope × Field)) (b : Builder) :
    layFields lay ((scope, field) :: rest) b =
      ((layField lay scope field b).1 ++ (layFields lay rest (layField lay scope field b).2).1,
        (layFields lay rest (layField lay scope field b).2).2) := rfl

/-- Two builders see the same registry from the same namespace with the same active classes. -/
structure Builder.SameSetting (b b' : Builder) : Prop where
  registry : b'.registry = b.registry
  view : b'.view = b.view
  active : b'.active = b.active

namespace Builder.SameSetting

theorem refl (b : Builder) : SameSetting b b := ⟨rfl, rfl, rfl⟩

theorem trans {a b c : Builder} (first : SameSetting a b) (second : SameSetting b c) :
    SameSetting a c :=
  ⟨second.registry.trans first.registry, second.view.trans first.view,
    second.active.trans first.active⟩

theorem intern (b : Builder) (place : Place) : SameSetting b (b.intern place).2 := ⟨rfl, rfl, rfl⟩

/-- Entering a class, laying out its fields and leaving it. -/
theorem leave {b b' : Builder} {c : ClassSite} (inside : SameSetting (b.enter c) b') :
    SameSetting b b'.leave where
  registry := inside.registry
  view := inside.view
  active := by
    show b'.active.dropLast = b.active
    rw [inside.active]
    exact List.dropLast_concat

end Builder.SameSetting

/-- Laying out a class leaves the setting as it was. -/
def Keeps (lay : ClassSite → Builder → Attempt) : Prop :=
  ∀ c b, Builder.SameSetting b (lay c b).2

variable {lay : ClassSite → Builder → Attempt}

theorem layType_keeps (keeps : Keeps lay) (scope : Scope) (path : List String) (label : String)
    (type : TypeExpr) (b : Builder) :
    Builder.SameSetting b (layType lay scope path label type b).2 := by
  fun_induction layType lay scope path label type b with
  | case1 | case3 | case5 | case12 => exact .refl _
  | case2 path _ _ b _ _ _ _ interned =>
    have kept := Builder.SameSetting.intern b ⟨scope, path⟩
    rwa [interned] at kept
  | case4 _ _ _ b c _ => exact keeps c b
  | case6 _ _ _ _ _ _ _ kept => exact kept
  | case7 _ _ _ _ _ _ _ _ laid kept => rwa [laid] at kept
  | case8 _ _ _ _ _ _ _ _ laid kept => rwa [laid] at kept
  | case9 _ _ _ _ _ _ _ _ _ laid kept => rwa [laid] at kept
  | case10 _ _ _ _ _ _ _ _ _ laid _ _ laid' kept kept' =>
    rw [laid] at kept
    rw [laid'] at kept'
    exact kept.trans kept'
  | case11 _ _ _ _ _ _ _ _ _ laid _ _ laid' kept kept' =>
    rw [laid] at kept
    rw [laid'] at kept'
    exact kept.trans kept'

theorem layField_keeps (keeps : Keeps lay) (scope : Scope) (field : Field) (b : Builder) :
    Builder.SameSetting b (layField lay scope field b).2 := by
  have kept := layType_keeps keeps scope [field.name] field.name field.type b
  fun_cases layField lay scope field b with
  | case1 _ _ laid => rwa [laid] at kept
  | case2 _ b' laid _ _ interned =>
    rw [laid] at kept
    have named := Builder.SameSetting.intern b' ⟨scope, [field.name]⟩
    rw [interned] at named
    exact kept.trans named

theorem layFields_keeps (keeps : Keeps lay) (fields : List (Scope × Field)) (b : Builder) :
    Builder.SameSetting b (layFields lay fields b).2 := by
  induction fields generalizing b with
  | nil => exact .refl b
  | cons head rest ih =>
    rw [layFields_cons]
    exact (layField_keeps keeps head.1 head.2 b).trans (ih _)

/-- Whatever the depth, the classes entered are left again. -/
theorem layClass_keeps (depth : Nat) : Keeps (layClass depth) := by
  induction depth with
  | zero => exact fun _ b => .refl b
  | succ depth ih =>
    intro c b
    rw [layClass]
    split
    · exact .refl b
    · split
      · exact .refl b
      · exact (layFields_keeps ih _ _).leave

/-! ## Between layouts -/

/-- The builders of a run: a new one, and what each layout of a method or a class and each change
of the namespace at hand makes of it. -/
inductive Builder.Reached : Builder → Prop
  | start (registry : Registry) (view : Nat) (protocol : String) :
      Reached (.start registry view protocol)
  | methodLayout {b : Builder} (m : Method) (d : Direction) :
      Reached b → Reached (b.methodLayout m d).2
  | classLayout {b : Builder} (c : ClassSite) : Reached b → Reached (b.classLayout c).2
  | look {b : Builder} (view : Nat) : Reached b → Reached { b with view }

theorem Builder.methodLayout_keeps (b : Builder) (m : Method) (d : Direction) :
    SameSetting b (b.methodLayout m d).2 :=
  layFields_keeps (layClass_keeps b.depth) _ b

theorem Builder.classLayout_keeps (b : Builder) (c : ClassSite) :
    SameSetting b (b.classLayout c).2 := by
  have kept := layClass_keeps b.depth c b
  fun_cases Builder.classLayout b c with
  | case1 _ _ laid => rwa [laid] at kept
  | case2 _ _ laid => rwa [laid] at kept

/-- Between layouts no class is active. -/
theorem Builder.Reached.idle {b : Builder} (reached : b.Reached) : b.active = [] := by
  induction reached with
  | start => rfl
  | methodLayout m d _ ih => rw [(Builder.methodLayout_keeps _ m d).active, ih]
  | classLayout c _ ih => rw [(Builder.classLayout_keeps _ c).active, ih]
  | look _ _ ih => exact ih

end Dissect.Layout
