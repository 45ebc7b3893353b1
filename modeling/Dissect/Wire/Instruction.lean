import Dissect.Wire.Scalar

/-!
# Decode instructions

The byte layout of a message: a list of instructions, each of which reads a scalar, reads a
sequence, or stands for a field whose layout is not known.
-/

set_option autoImplicit false

namespace Dissect.Wire

/-- One decode instruction. -/
inductive Instruction where
  /-- Reads one scalar into a field. -/
  | scalar (field : String) (type : Scalar)
  /-- Reads a count, then runs the body that many times. -/
  | counted (body : List Instruction)
  /-- A field whose layout is not known. -/
  | unresolved (field reason : String)

end Dissect.Wire
