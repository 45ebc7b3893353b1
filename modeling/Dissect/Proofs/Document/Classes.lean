import Dissect.Proofs.Document.Methods

/-!
# What becomes of the elements of a class

All elements of a class have to be variables with types that can be used (`Element.Storable`). The
class is refused because of the first one that is not (`Element.refusal?`). Otherwise it has its
name, its base unless that is empty, and the fields that its variables declare, in order
(`convertClass_reads_variables`).
-/

set_option autoImplicit false

namespace Dissect.Document

open Schema

namespace Element

/-- An element that a class may have: a variable with a type that can be used. -/
def Storable : Element → Prop
  | .fieldVariable _ type => type.type.Usable
  | _ => False

/-- Why an element of a class is refused. -/
def refusal? (className : String) : Element → Option DocumentError
  | .fieldVariable name type => type.type.firstUnusable?.map (.malformedType name)
  | e => some (.unexpectedElement e.kind (.classNamed className))

/-- The class that a declaration is about. Its base is the one that is named, unless the name is
empty. -/
def DeclaresClass : Element → ClassDecl → Prop
  | .classDeclaration name _ base vars, c =>
    c.name = name ∧ (∀ b, c.base = some b ↔ base = some b ∧ b ≠ "") ∧
      List.Forall₂ Declares vars c.fields
  | _, _ => False

theorem refusal?_eq_none_iff (className : String) (e : Element) :
    e.refusal? className = none ↔ e.Storable := by
  cases e with
  | fieldVariable name type =>
    rw [refusal?, Storable, Option.map_eq_none_iff]
    exact TypeVariant.firstUnusable?_eq_none_iff type.type
  | _ => exact iff_of_false (Option.some_ne_none _) id

end Element

variable {className : String} {vars : List Element}

/-- The first refusal is the error. -/
theorem convertVariables_of_refusal {error : DocumentError}
    (first : vars.findSome? (Element.refusal? className) = some error) :
    convertVariables className vars = .error error := by
  induction vars with
  | nil => cases first
  | cons e rest ih =>
    cases e with
    | fieldVariable name type =>
      have settles := convertField_settles name type
      rw [convertVariables]
      cases unusable : type.type.firstUnusable? with
      | some text =>
        rw [List.findSome?_cons, Element.refusal?, unusable] at first
        cases first
        rw [settles.eq_error unusable]
      | none =>
        rw [List.findSome?_cons, Element.refusal?, unusable] at first
        obtain ⟨f, converted, -⟩ := settles.exists_ok unusable
        rw [converted]
        simp only [ih first]
        rfl
    | _ =>
      cases first
      rfl

/-- Variables with types that can be used declare the fields, one by one. -/
theorem convertVariables_of_storable (storable : ∀ v ∈ vars, v.Storable) :
    ∃ fields, convertVariables className vars = .ok fields ∧
      List.Forall₂ Element.Declares vars fields := by
  induction vars with
  | nil => exact ⟨[], rfl, .nil⟩
  | cons e rest ih =>
    obtain ⟨here, later⟩ := List.forall_mem_cons.1 storable
    obtain ⟨fields, others, declare⟩ := ih later
    cases e with
    | fieldVariable name type =>
      have usable := (TypeVariant.firstUnusable?_eq_none_iff type.type).2 here
      obtain ⟨f, converted, declares⟩ := (convertField_settles name type).exists_ok usable
      refine ⟨f :: fields, ?_, .cons declares declare⟩
      rw [convertVariables, converted]
      simp only [others]
      rfl
    | _ => exact here.elim

theorem findSome?_refusal?_eq_none_iff (className : String) (vars : List Element) :
    vars.findSome? (Element.refusal? className) = none ↔ ∀ v ∈ vars, v.Storable := by
  rw [List.findSome?_eq_none_iff]
  simp only [Element.refusal?_eq_none_iff]

/-- A class is made exactly if each of its elements is a variable with a type that can be used, and
then it is the class that is declared. Otherwise the first element that is none says why. -/
theorem convertClass_reads_variables (name : String) (base : Option String) (vars : List Element) :
    ((∃ c, convertClass name base vars = .ok c) ↔ ∀ v ∈ vars, v.Storable) ∧
    (∀ c space, convertClass name base vars = .ok c →
      (Element.classDeclaration name space base vars).DeclaresClass c) ∧
    (∀ error, convertClass name base vars = .error error ↔
      vars.findSome? (Element.refusal? name) = some error) := by
  unfold convertClass
  cases first : vars.findSome? (Element.refusal? name) with
  | some refusal =>
    have storable : ¬ ∀ v ∈ vars, v.Storable := by
      rw [← findSome?_refusal?_eq_none_iff name, first]
      exact Option.some_ne_none refusal
    rw [convertVariables_of_refusal first]
    refine ⟨iff_of_false nofun storable, nofun, fun error => ?_⟩
    simp [Except.map]
  | none =>
    have storable := (findSome?_refusal?_eq_none_iff name vars).1 first
    obtain ⟨fields, converted, declare⟩ := convertVariables_of_storable storable
    rw [converted]
    refine ⟨iff_of_true ⟨_, rfl⟩ storable, ?_, fun _ => iff_of_false nofun nofun⟩
    rintro c space made
    cases made
    refine ⟨rfl, fun b => ?_, declare⟩
    simp [Option.filter_eq_some_iff]

end Dissect.Document
