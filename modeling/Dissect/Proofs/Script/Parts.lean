import Dissect.Script.Block
import Mathlib.Data.List.Basic

/-!
# Statements inside statements

What a block does is asked statement by statement: which fields are declared, which variables are
assigned, what is done for a method. `pickedIn` gathers the answers from all statements, those
inside others included. Most questions have no answer anywhere in the code that decodes messages
(`Statement.isOfDissector`); for these, a dissector says what it says of its methods
(`pickedIn_dissectorBody`).
-/

set_option autoImplicit false

namespace Dissect.Script

open Wire (Instruction)

mutual

/-- A statement and all statements inside it, in the order of the text. -/
def Statement.parts : Statement → List Statement
  | .defineFunction var name parameters body =>
    .defineFunction var name parameters body :: allParts body
  | .onMethod id body => .onMethod id body :: allParts body
  | .onRequest request response =>
    .onRequest request response :: (allParts request ++ allParts response)
  | .forCount body => .forCount body :: allParts body
  | s => [s]

/-- All statements in and inside those given, in the order of the text. -/
def allParts : List Statement → List Statement
  | [] => []
  | s :: rest => s.parts ++ allParts rest

end

@[simp] theorem allParts_append (a b : List Statement) :
    allParts (a ++ b) = allParts a ++ allParts b := by
  induction a with
  | nil => simp [allParts]
  | cons s rest ih => simp [allParts, ih]

/-- What is picked from statements and from those inside them, in the order of the text. -/
def pickedIn {α : Type} (pick : Statement → Option α) (ss : List Statement) : List α :=
  (allParts ss).filterMap pick

/-- Whether a statement may stand in the body of a dissector, the branches of methods apart. -/
def Statement.isOfDissector : Statement → Bool
  | .comment _ | .fetchValue _ _ | .onRequest _ _ | .beginSubtree _ _ | .beginOffset
  | .beginScratch | .readSize | .readCount | .advance _ | .addField _ _ _ _ | .forCount _ => true
  | _ => false

mutual

theorem all_parts_instruction (var : String) (i : Instruction) :
    (allParts (instructionStatements var i)).all Statement.isOfDissector = true := by
  cases i with
  | scalar field type => cases type <;> rfl
  | counted body =>
    have inside := all_parts_decode var body
    simpa [instructionStatements, allParts, Statement.parts, Statement.isOfDissector] using inside
  | unresolved field reason => rfl

/-- Decoding is done by statements of its own, at any depth. -/
theorem all_parts_decode (var : String) (is : List Instruction) :
    (allParts (decodeStatements var is)).all Statement.isOfDissector = true := by
  cases is with
  | nil => rfl
  | cons i rest =>
    rw [decodeStatements, allParts_append, List.all_append, all_parts_instruction var i,
      all_parts_decode var rest]
    rfl

end

theorem all_parts_branch (var title : String) (is : List Instruction) :
    (allParts (branch var title is)).all Statement.isOfDissector = true := by
  rw [branch, allParts_append, allParts_append, List.all_append, all_parts_decode]
  split <;> rfl

section Picking

variable {α : Type} {pick : Statement → Option α}

@[simp] theorem pickedIn_append (a b : List Statement) :
    pickedIn pick (a ++ b) = pickedIn pick a ++ pickedIn pick b := by
  rw [pickedIn, allParts_append, List.filterMap_append]
  rfl

theorem pickedIn_flatMap {β : Type} (l : List β) (f : β → List Statement) :
    pickedIn pick (l.flatMap f) = l.flatMap fun b => pickedIn pick (f b) := by
  induction l with
  | nil => rfl
  | cons b rest ih => rw [List.flatMap_cons, List.flatMap_cons, pickedIn_append, ih]

/-- From a statement around others, and then from these. -/
theorem pickedIn_around {s : Statement} (inside : List Statement)
    (parts : s.parts = s :: allParts inside) :
    pickedIn pick [s] = (pick s).toList ++ pickedIn pick inside := by
  rw [pickedIn, allParts, allParts, List.append_nil, parts, List.filterMap_cons]
  cases pick s <;> rfl

/-- A statement with no other inside it. -/
theorem pickedIn_single {s : Statement} (alone : s.parts = [s]) :
    pickedIn pick [s] = (pick s).toList :=
  (pickedIn_around [] alone).trans (List.append_nil _)

theorem pickedIn_defineFunction (var name : String) (parameters : List String)
    (body : List Statement) :
    pickedIn pick [.defineFunction var name parameters body] =
      (pick (.defineFunction var name parameters body)).toList ++ pickedIn pick body :=
  pickedIn_around body (by simp [Statement.parts])

/-- Statements with nothing inside that matters are asked one by one. -/
theorem pickedIn_map {β : Type} {f : β → Statement}
    (each : ∀ b, pickedIn pick [f b] = (pick (f b)).toList) (l : List β) :
    pickedIn pick (l.map f) = l.filterMap fun b => pick (f b) := by
  rw [List.map_eq_flatMap, pickedIn_flatMap, List.filterMap_eq_flatMap_toList]
  simp only [each]

variable (silent : ∀ s : Statement, s.isOfDissector = true → pick s = none)
include silent

theorem pickedIn_branch (var title : String) (is : List Instruction) :
    pickedIn pick (branch var title is) = [] := by
  refine List.filterMap_eq_nil_iff.2 fun s mem => silent s ?_
  exact List.all_eq_true.1 (all_parts_branch var title is) s mem

theorem pickedIn_methodBody (var protocol : String) (m : MethodLayouts) :
    pickedIn pick (methodBody var protocol m) = [] := by
  have both (request response : List Statement) : pickedIn pick [.onRequest request response] =
      pickedIn pick (request ++ response) := by
    rw [pickedIn_around (request ++ response) (by simp [Statement.parts]), silent _ rfl]
    rfl
  rw [methodBody, both, pickedIn_append, pickedIn_branch silent, pickedIn_branch silent]
  rfl

/-- Of a dissector only the branches of methods matter, and nothing inside them. -/
theorem pickedIn_dissectorBody (var protocol : String) (ms : List MethodLayouts) :
    pickedIn pick (dissectorBody var protocol ms) =
      ms.filterMap fun m => pick (methodStatements var protocol m) := by
  have fetched (name field : String) : pick (.fetchValue name field) = none := silent _ rfl
  have begun : pickedIn pick [.fetchValue "method_id" "method_id_field",
      .fetchValue "is_request" "is_request_field"] = [] := by
    simp [pickedIn, allParts, Statement.parts, fetched]
  have each (m : MethodLayouts) : pickedIn pick [methodStatements var protocol m] =
      (pick (methodStatements var protocol m)).toList := by
    rw [methodStatements, pickedIn_around (methodBody var protocol m) (by simp [Statement.parts]),
      pickedIn_methodBody silent, List.append_nil]
  rw [dissectorBody, pickedIn_append, begun, pickedIn_map each]
  rfl

end Picking

end Dissect.Script
