import Dissect.Wire.Instruction

/-!
# What instructions hold

The scalars and the placeholders of instructions, at any depth and in wire order, and the
instructions without the names of their fields.
-/

set_option autoImplicit false

namespace Dissect.Wire

mutual

/-- The fields that an instruction reads, with their types. -/
def Instruction.scalars : Instruction → List (String × Scalar)
  | .scalar field type => [(field, type)]
  | .counted body => allScalars body
  | .unresolved _ _ => []

/-- The fields that instructions read, with their types. -/
def allScalars : List Instruction → List (String × Scalar)
  | [] => []
  | i :: rest => i.scalars ++ allScalars rest

end

mutual

/-- The placeholders of an instruction: fields without a layout, with the reasons. -/
def Instruction.placeholders : Instruction → List (String × String)
  | .scalar _ _ => []
  | .counted body => allPlaceholders body
  | .unresolved field reason => [(field, reason)]

/-- The placeholders of instructions. -/
def allPlaceholders : List Instruction → List (String × String)
  | [] => []
  | i :: rest => i.placeholders ++ allPlaceholders rest

end

mutual

/-- An instruction without the names of the fields. -/
def Instruction.unnamed : Instruction → Instruction
  | .scalar _ type => .scalar "" type
  | .counted body => .counted (allUnnamed body)
  | .unresolved _ reason => .unresolved "" reason

/-- Instructions without the names of the fields. -/
def allUnnamed : List Instruction → List Instruction
  | [] => []
  | i :: rest => i.unnamed :: allUnnamed rest

end

@[simp] theorem allUnnamed_append (a b : List Instruction) :
    allUnnamed (a ++ b) = allUnnamed a ++ allUnnamed b := by
  induction a with
  | nil => simp [allUnnamed]
  | cons i rest ih => simp [allUnnamed, ih]

@[simp] theorem allScalars_append (a b : List Instruction) :
    allScalars (a ++ b) = allScalars a ++ allScalars b := by
  induction a with
  | nil => simp [allScalars]
  | cons i rest ih => simp [allScalars, ih]

@[simp] theorem allPlaceholders_append (a b : List Instruction) :
    allPlaceholders (a ++ b) = allPlaceholders a ++ allPlaceholders b := by
  induction a with
  | nil => simp [allPlaceholders]
  | cons i rest ih => simp [allPlaceholders, ih]

end Dissect.Wire
