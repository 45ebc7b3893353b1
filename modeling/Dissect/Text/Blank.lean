import Dissect.Text.Span

/-!
# Blank characters

The Unicode property `White_Space`, and the words it separates.
-/

set_option autoImplicit false

namespace Dissect.Text

/-- The characters with the property `White_Space`. -/
def blankSpans : List Span :=
  [ ⟨0x0009, 0x000D, 1⟩, ⟨0x0020, 0x0020, 1⟩, ⟨0x0085, 0x0085, 1⟩, ⟨0x00A0, 0x00A0, 1⟩,
    ⟨0x1680, 0x1680, 1⟩, ⟨0x2000, 0x200A, 1⟩, ⟨0x2028, 0x2029, 1⟩, ⟨0x202F, 0x202F, 1⟩,
    ⟨0x205F, 0x205F, 1⟩, ⟨0x3000, 0x3000, 1⟩ ]

/-- Whether a character has the property `White_Space`. -/
def isBlank (c : Char) : Bool := Span.covers blankSpans c

/-- The word that a text begins with, empty if it begins with a blank, and the words behind it. -/
def splitWords : List Char → List Char × List (List Char)
  | [] => ([], [])
  | c :: rest =>
    let (word, others) := splitWords rest
    if isBlank c then ([], if word.isEmpty then others else word :: others)
    else (c :: word, others)

/-- The words of a text: its maximal runs of characters that are not blank. -/
def words (text : List Char) : List (List Char) :=
  let (word, others) := splitWords text
  if word.isEmpty then others else word :: others

/-- A text on one line: its words with one space between neighbours. -/
def oneLine (text : String) : String :=
  String.ofList (List.intercalate [' '] (words text.toList))

end Dissect.Text
