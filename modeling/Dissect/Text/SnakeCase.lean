import Dissect.Text.LetterCase

/-!
# Snake case

Schema names become script names: capitals are lowered and an underscore is set where a word
begins. A word begins at a capital after a lower-case letter or an ASCII digit, and at the last
capital of a run that goes on in lower case. Hyphens, spaces and dots count as underscores, and
neither kind puts a second underscore next to one that is there.
-/

set_option autoImplicit false

namespace Dissect.Text

/-- Whether a character separates words without belonging to one. -/
def isSeparator (c : Char) : Bool := c = '-' || c = ' ' || c = '.'

/-- Whether a word begins at a capital that stands between `before` and `after`. -/
def beginsWord (before : Option Char) (after : List Char) : Bool :=
  match before with
  | none => false
  | some p =>
    isLowercase p || p.isDigit || (isUppercase p && after.head?.any isLowercase)

/-- Snake case of the rest of a name: `before` is the character in front of the rest, `last` the
last character written. -/
def snakeFrom (before last : Option Char) : List Char → List Char
  | [] => []
  | c :: rest =>
    if isUppercase c then
      let mark := if beginsWord before rest && last != some '_' then ['_'] else []
      mark ++ lowered c ++ snakeFrom (some c) (lowered c).getLast? rest
    else if isSeparator c then
      if last.isSome && last != some '_' then '_' :: snakeFrom (some c) (some '_') rest
      else snakeFrom (some c) last rest
    else c :: snakeFrom (some c) (some c) rest

/-- A name in snake case. -/
def snakeCase (name : String) : String := String.ofList (snakeFrom none none name.toList)

end Dissect.Text
