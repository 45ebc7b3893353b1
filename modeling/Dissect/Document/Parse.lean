import Dissect.Document.Conversion
import Dissect.Document.Reader

/-!
# Parsing documents

The whole text is read before anything in it is interpreted.
-/

set_option autoImplicit false

namespace Dissect.Document

/-- The registry of a document given as JSON text. -/
def parse (text : String) : Except DocumentError Schema.Registry :=
  match unitsOfText? text with
  | none => .error .json
  | some units => buildRegistry units

end Dissect.Document
