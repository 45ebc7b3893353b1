/-!
# String literals

Text between double quotes as Lua reads it. Only what would end the literal or break the line is
escaped.
-/

set_option autoImplicit false

namespace Dissect.Script

/-- How a character is written in a literal. -/
def literalChar (c : Char) : List Char :=
  if c = '\x22' || c = '\\' then ['\\', c]
  else if c = '\n' then ['\\', 'n']
  else if c = '\r' then ['\\', 'r']
  else [c]

/-- The characters of a literal. -/
def literalChars (text : List Char) : List Char :=
  '\x22' :: text.flatMap literalChar ++ ['\x22']

/-- The literal of a text. -/
def literal (text : String) : String := String.ofList (literalChars text.toList)

end Dissect.Script
