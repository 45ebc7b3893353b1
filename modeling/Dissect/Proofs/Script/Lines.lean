import Dissect.Proofs.Script.Rereading

/-!
# The lines of statements

Writing statements adds lines to a writer, and which ones depends on the level of the writer only
(`writeAll_adds`). What is written is thus known from the lines of each statement at each level,
where the lines of a block stand one level further in than those around it.
-/

set_option autoImplicit false

namespace Dissect.Script

/-- The lines that a statement is written as at a level. -/
def Statement.lines (s : Statement) (level : Nat) : List Line :=
  (s.write ⟨level, #[]⟩).lines.toList

/-- The lines that statements are written as at a level. -/
def linesOf (ss : List Statement) (level : Nat) : List Line :=
  (writeAll ss ⟨level, #[]⟩).lines.toList

/-- What `write` does to a writer is to add lines, those of the level of the writer. -/
def Adds (write : Writer → Writer) (ls : Nat → List Line) : Prop :=
  ∀ w, write w = ⟨w.level, w.lines ++ (ls w.level).toArray⟩

namespace Adds

variable {f g : Writer → Writer} {ls ls' : Nat → List Line}

theorem nothing : Adds id fun _ => [] := by
  intro w
  simp

theorem line (content : String) : Adds (fun w => w.line content) fun n => [⟨n, content⟩] := by
  intro w
  simp [Writer.line]

theorem andThen (hf : Adds f ls) (hg : Adds g ls') :
    Adds (fun w => g (f w)) fun n => ls n ++ ls' n := by
  intro w
  show g (f w) = _
  rw [hg (f w), hf w]
  simp

/-- What is written one level further in. -/
theorem indented (hf : Adds f ls) :
    Adds (fun w => (f w.indent).dedent) fun n => ls (n + 1) := by
  intro w
  show (f w.indent).dedent = _
  rw [hf w.indent]
  simp [Writer.indent, Writer.dedent]

theorem block (first last : String) (hf : Adds f ls) :
    Adds (fun w => w.block first last f) fun n => ⟨n, first⟩ :: ls (n + 1) ++ [⟨n, last⟩] :=
  ((line first).andThen hf.indented).andThen (line last)

/-- The lines added can be seen by writing to an empty writer. -/
theorem toList_eq (hf : Adds f ls) (n : Nat) : (f ⟨n, #[]⟩).lines.toList = ls n := by
  rw [hf]
  simp

theorem self (hf : Adds f ls) : Adds f fun n => (f ⟨n, #[]⟩).lines.toList := by
  intro w
  show f w = ⟨w.level, w.lines ++ (f ⟨w.level, #[]⟩).lines.toList.toArray⟩
  rw [hf.toList_eq]
  exact hf w

end Adds

mutual

/-- Writing a statement adds its lines. -/
theorem Statement.adds : ∀ s : Statement, Adds s.write s.lines
  | .blank => (Adds.line _).self
  | .comment _ => (Adds.line _).self
  | .paramType _ _ => (Adds.line _).self
  | .createProto _ _ => (Adds.line _).self
  | .declareField _ _ => (Adds.line _).self
  | .defineFunction _ _ _ body => ((writeAll_adds body).block _ _).self
  | .register _ _ _ => (Adds.line _).self
  | .fetchValue _ _ => (Adds.line _).self
  | .onMethod _ body => ((writeAll_adds body).block _ _).self
  | .onRequest request response =>
    -- two blocks that share the line in their middle, so that it is no case of `Adds.block`
    ((((Adds.line _).andThen (writeAll_adds request).indented).andThen
      ((Adds.line _).andThen (writeAll_adds response).indented)).andThen (Adds.line _)).self
  | .beginSubtree _ _ => (Adds.line _).self
  | .beginOffset => (Adds.line _).self
  | .beginScratch => (Adds.line _).self
  | .readSize => (Adds.line _).self
  | .readCount => (Adds.line _).self
  | .advance _ => (Adds.line _).self
  | .addField _ _ _ _ => (Adds.line _).self
  | .forCount body => ((writeAll_adds body).block _ _).self

/-- Writing statements adds their lines. -/
theorem writeAll_adds : ∀ ss : List Statement, Adds (writeAll ss) (linesOf ss)
  | [] => Adds.nothing.self
  | s :: rest => (s.adds.andThen (writeAll_adds rest)).self

end

@[simp] theorem linesOf_nil (level : Nat) : linesOf [] level = [] := rfl

@[simp] theorem linesOf_cons (s : Statement) (rest : List Statement) (level : Nat) :
    linesOf (s :: rest) level = s.lines level ++ linesOf rest level :=
  (s.adds.andThen (writeAll_adds rest)).toList_eq level

@[simp] theorem linesOf_append (a b : List Statement) (level : Nat) :
    linesOf (a ++ b) level = linesOf a level ++ linesOf b level := by
  induction a with
  | nil => rfl
  | cons s rest ih => simp [ih]

theorem linesOf_singleton (s : Statement) (level : Nat) : linesOf [s] level = s.lines level := by
  rw [linesOf_cons, linesOf_nil, List.append_nil]

theorem lines_defineFunction (var name : String) (parameters : List String) (body : List Statement)
    (level : Nat) :
    (Statement.defineFunction var name parameters body).lines level =
      ⟨level, s!"function {var}.{name}(" ++ ", ".intercalate parameters ++ ")"⟩
        :: linesOf body (level + 1) ++ [⟨level, "end"⟩] :=
  ((writeAll_adds body).block _ _).toList_eq level

theorem lines_onMethod (id : Nat) (body : List Statement) (level : Nat) :
    (Statement.onMethod id body).lines level =
      ⟨level, s!"if method_id == {id} then"⟩ :: linesOf body (level + 1) ++ [⟨level, "end"⟩] :=
  ((writeAll_adds body).block _ _).toList_eq level

theorem lines_forCount (body : List Statement) (level : Nat) :
    (Statement.forCount body).lines level =
      ⟨level, "for i=1,cnt do"⟩ :: linesOf body (level + 1) ++ [⟨level, "end"⟩] :=
  ((writeAll_adds body).block _ _).toList_eq level

theorem lines_onRequest (request response : List Statement) (level : Nat) :
    (Statement.onRequest request response).lines level =
      ⟨level, "if is_request then"⟩ :: linesOf request (level + 1)
        ++ (⟨level, "else"⟩ :: linesOf response (level + 1) ++ [⟨level, "end"⟩]) := by
  have written := (((Adds.line "if is_request then").andThen
    (writeAll_adds request).indented).andThen ((Adds.line "else").andThen
      (writeAll_adds response).indented)).andThen (Adds.line "end")
  rw [← List.append_assoc]
  exact written.toList_eq level

/-! ## Text -/

/-- The text of lines. -/
def textOf (ls : List Line) : String := String.join (ls.map Line.text)

@[simp] theorem textOf_nil : textOf [] = "" := rfl

@[simp] theorem textOf_cons (l : Line) (rest : List Line) :
    textOf (l :: rest) = l.text ++ textOf rest :=
  String.join_cons

@[simp] theorem textOf_append (a b : List Line) : textOf (a ++ b) = textOf a ++ textOf b := by
  induction a with
  | nil => simp
  | cons l rest ih => simp [ih, String.append_assoc]

/-- Writing statements adds the text of their lines. -/
theorem text_writeAll (ss : List Statement) (w : Writer) :
    (writeAll ss w).text = w.text ++ textOf (linesOf ss w.level) := by
  rw [writeAll_adds ss w]
  simp [Writer.text, textOf]

theorem text_write (s : Statement) (w : Writer) :
    (s.write w).text = w.text ++ textOf (s.lines w.level) := by
  rw [s.adds w]
  simp [Writer.text, textOf]

/-- The characters of a line behind which it ends. An empty line is not indented. -/
def Line.chars (l : Line) : List Char :=
  if l.content.isEmpty then [] else List.replicate (4 * l.level) ' ' ++ l.content.toList

/-- Lines within which no line ends are the lines of their text. -/
theorem lines_textOf {ls : List Line} (plain : ∀ l ∈ ls, OneLine l.content) :
    Lua.lines (textOf ls).toList = ls.map Line.chars ++ [[]] :=
  lines_text plain

end Dissect.Script
