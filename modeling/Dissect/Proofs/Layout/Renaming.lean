import Dissect.Proofs.Layout.Outline
import Mathlib.Logic.Equiv.Fintype

/-!
# Layouts up to the names of their identifiers

The identifiers in a layout depend on what has been laid out before, and nothing else does. Two
builders that see one schema from one namespace give layouts that differ by a renaming, which is one
to one on names and on abbreviations: places that share an identifier in one of the layouts share
one in the other (`Outline.renames`).
-/

set_option autoImplicit false

namespace Dissect

open Layout (Identifier IdentifierTable Place Outline)
open Wire (Instruction)

mutual

/-- An instruction with other names of fields. -/
def Wire.Instruction.rename (names : String → String) : Instruction → Instruction
  | .scalar field type => .scalar (names field) type
  | .counted body => .counted (Wire.renameAll names body)
  | .unresolved field reason => .unresolved (names field) reason

/-- Instructions with other names of fields. -/
def Wire.renameAll (names : String → String) : List Instruction → List Instruction
  | [] => []
  | i :: rest => i.rename names :: renameAll names rest

end

/-- A layout with other identifiers. Types, labels, reasons, paths and errors stay as they are. -/
def Layout.rename (names abbrs : String → String) (l : Layout) : Layout where
  declarations := l.declarations.map fun d =>
    { d with ident := ⟨names d.ident.name, abbrs d.ident.abbr⟩ }
  instructions := Wire.renameAll names l.instructions
  diagnostics := l.diagnostics.map fun d => { d with ident := names d.ident }

/-- One layout is the other up to a renaming of names and one of abbreviations. -/
def Layout.Renames (l l' : Layout) : Prop :=
  ∃ names abbrs : Equiv.Perm String, l' = l.rename names abbrs

namespace Layout

@[simp] theorem renameAll_append (names : String → String) (a b : List Instruction) :
    Wire.renameAll names (a ++ b) = Wire.renameAll names a ++ Wire.renameAll names b := by
  induction a with
  | nil => simp [Wire.renameAll]
  | cons i rest ih => simp [Wire.renameAll, ih]

theorem rename_append (names abbrs : String → String) (a b : Layout) :
    (a ++ b).rename names abbrs = a.rename names abbrs ++ b.rename names abbrs := by
  show Layout.rename names abbrs (Layout.append a b) = Layout.append _ _
  simp [Layout.rename, Layout.append]

/-- To rename a layout is to name its outline otherwise. -/
theorem Outline.named_rename (o : Outline) (given : Place → Identifier)
    (names abbrs : String → String) :
    (o.named given).rename names abbrs =
      o.named fun place => ⟨names (given place).name, abbrs (given place).abbr⟩ := by
  induction o with
  | nothing => rfl
  | value place label type =>
    cases type <;> rfl
  | counted body ih =>
    rw [Outline.named, Outline.named, ← ih]
    rfl
  | both first second ihFirst ihSecond =>
    rw [Outline.named, Outline.named, ← ihFirst, ← ihSecond, rename_append]
  | placeholder asked path place error => rfl

/-- Two texts for each of some things, neither text shared, are related by a renaming of texts. -/
theorem exists_perm_of_injOn {α : Type} (things : List α) (f g : α → String)
    (hf : ∀ a ∈ things, ∀ b ∈ things, f a = f b → a = b)
    (hg : ∀ a ∈ things, ∀ b ∈ things, g a = g b → a = b) :
    ∃ σ : Equiv.Perm String, ∀ a ∈ things, σ (f a) = g a := by
  have finite : Finite { a // a ∈ things } := List.finite_toSet things
  obtain ⟨σ, maps⟩ := Equiv.Perm.exists_extending_pair
    (fun a : { a // a ∈ things } => f a) (fun a : { a // a ∈ things } => g a)
    (fun a b same => Subtype.ext (hf a a.2 b b.2 same))
    (fun a b same => Subtype.ext (hg a a.2 b b.2 same))
  exact ⟨σ, fun a mem => maps ⟨a, mem⟩⟩

/-- The layouts of an outline under two tables that know its places differ by a renaming. -/
theorem Outline.renames (o : Outline) {t t' : IdentifierTable}
    (distinct : t.entries.Pairwise Distinct) (distinct' : t'.entries.Pairwise Distinct)
    (known : ∀ place ∈ o.requests, t.Knows place)
    (known' : ∀ place ∈ o.requests, t'.Knows place) :
    (o.named t.identifier).Renames (o.named t'.identifier) := by
  obtain ⟨names, mapsName⟩ := exists_perm_of_injOn o.requests
    (fun place => (t.identifier place).name) (fun place => (t'.identifier place).name)
    (fun p hp q hq same => t.eq_of_identifier distinct (known p hp) (known q hq) (.inl same))
    (fun p hp q hq same => t'.eq_of_identifier distinct' (known' p hp) (known' q hq) (.inl same))
  obtain ⟨abbrs, mapsAbbr⟩ := exists_perm_of_injOn o.requests
    (fun place => (t.identifier place).abbr) (fun place => (t'.identifier place).abbr)
    (fun p hp q hq same => t.eq_of_identifier distinct (known p hp) (known q hq) (.inr same))
    (fun p hp q hq same => t'.eq_of_identifier distinct' (known' p hp) (known' q hq) (.inr same))
  refine ⟨names, abbrs, ?_⟩
  rw [Outline.named_rename]
  refine o.named_congr fun place mem => ?_
  rw [mapsName place mem, mapsAbbr place mem]

end Layout

end Dissect
