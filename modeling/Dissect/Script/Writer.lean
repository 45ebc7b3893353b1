/-!
# Writing lines

Text is written line by line, each line indented by four spaces a level.
-/

set_option autoImplicit false

namespace Dissect.Script

/-- A line at a level of indentation. -/
structure Line where
  level : Nat
  content : String

namespace Line

/-- The text of a line. An empty line is not indented. -/
def text (l : Line) : String :=
  if l.content.isEmpty then "\n"
  else String.ofList (List.replicate (4 * l.level) ' ') ++ l.content ++ "\n"

end Line

/-- The lines written so far, and the level of the next one. -/
structure Writer where
  level : Nat
  lines : Array Line

namespace Writer

/-- A writer at the left margin that has written nothing. -/
def empty : Writer := ⟨0, #[]⟩

/-- Writes a line. -/
def line (w : Writer) (content : String) : Writer :=
  { w with lines := w.lines.push ⟨w.level, content⟩ }

/-- Writes an empty line. -/
def blank (w : Writer) : Writer := w.line ""

/-- Goes one level in. -/
def indent (w : Writer) : Writer := { w with level := w.level + 1 }

/-- Goes one level out; there is none beyond the left margin. -/
def dedent (w : Writer) : Writer := { w with level := w.level - 1 }

/-- Writes a block: a line that opens it, a body one level further in, and a line that closes
it. -/
def block (w : Writer) (first last : String) (body : Writer → Writer) : Writer :=
  (body (w.line first).indent).dedent.line last

/-- All that has been written. -/
def text (w : Writer) : String := String.join (w.lines.toList.map Line.text)

end Writer

end Dissect.Script
