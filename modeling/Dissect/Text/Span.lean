/-!
# Spans of code points

Character properties are tables of spans. A span with stride two holds every other code point,
which is how upper-case and lower-case letters alternate in many scripts.
-/

set_option autoImplicit false

namespace Dissect.Text

/-- Every `stride`-th code point from `first` to `last`, both ends included. -/
structure Span where
  first : Nat
  last : Nat
  stride : Nat

namespace Span

/-- Whether a code point lies in a span. -/
def contains (s : Span) (n : Nat) : Bool :=
  s.first ≤ n && n ≤ s.last && (n - s.first) % s.stride == 0

/-- Whether a code point lies in one of the spans of a table in ascending order. -/
def search (n : Nat) : List Span → Bool
  | [] => false
  | s :: rest => if n < s.first then false else s.contains n || search n rest

/-- Whether a character lies in one of the spans of a table in ascending order. -/
def covers (table : List Span) (c : Char) : Bool := search c.toNat table

end Span

end Dissect.Text
