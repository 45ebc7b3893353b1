import Dissect.Script.Statement

/-!
# Decode statements

Every decode instruction becomes statements that add its fields to the subtree and move on past
its bytes.
-/

set_option autoImplicit false

namespace Dissect.Script

open Wire (Instruction Scalar)

/-- The comment that stands for a field without a layout: its name and the reason, on one line. -/
def placeholder (field reason : String) : Statement :=
  .comment s!"{field}: {Text.oneLine reason}"

/-- The statements that read a scalar. -/
def scalarStatements (var field : String) (type : Scalar) : List Statement :=
  match encoding? type with
  | none => []
  | some encoding =>
    match type.width with
    | .unwrapped => []
    | .fixed n => [.addField var field (.bytes n) encoding, .advance (.bytes n)]
    | .lengthPrefixed =>
      [.readSize, .advance (.bytes Wire.lengthWidth), .addField var field .size encoding,
        .advance .size]

mutual

/-- The statements of an instruction. -/
def instructionStatements (var : String) : Instruction → List Statement
  | .scalar field type => scalarStatements var field type
  | .counted body =>
    [.readCount, .advance (.bytes Wire.countWidth), .forCount (decodeStatements var body)]
  | .unresolved field reason => [placeholder field reason]

/-- The statements of instructions, in order. -/
def decodeStatements (var : String) : List Instruction → List Statement
  | [] => []
  | i :: rest => instructionStatements var i ++ decodeStatements var rest

end

/-- Whether the statements of an instruction need a length or a count. -/
def needsScratch : Instruction → Bool
  | .scalar _ type => type.isPrefixed
  | .counted _ => true
  | .unresolved _ _ => false

/-- The statements for one message: a subtree, the offset, and the fields. -/
def branch (var title : String) (layout : List Instruction) : List Statement :=
  [.beginSubtree var title, .beginOffset]
    ++ (if layout.any needsScratch then [.beginScratch] else [])
    ++ decodeStatements var layout

end Dissect.Script
