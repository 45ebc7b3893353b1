/-!
# JSON numbers

A number as it is written. Whether it is a natural number, and whether it is in the range of
doubles, is asked where it matters.
-/

set_option autoImplicit false

namespace Dissect.Json

/-- A written number: digits before the point, digits behind it, and a power of ten. -/
structure Number where
  negative : Bool
  whole : List Char
  fraction : Option (List Char)
  /-- Whether the exponent is negative, and its digits. -/
  exponent : Option (Bool × List Char)
deriving DecidableEq

/-- The value of a digit. -/
def digitValue (c : Char) : Nat := c.toNat - '0'.toNat

/-- The number that digits spell. -/
def digitsValue (digits : List Char) : Nat :=
  digits.foldl (fun n c => 10 * n + digitValue c) 0

namespace Number

/-- Digits, at least one, and what follows them. -/
def someDigits (cs : List Char) : Option (List Char × List Char) :=
  match cs.takeWhile Char.isDigit with
  | [] => none
  | digits => some (digits, cs.dropWhile Char.isDigit)

/-- The digits behind a point, if there is one. -/
def fractionOf : List Char → Option (Option (List Char) × List Char)
  | '.' :: rest => do
    let (digits, rest) ← someDigits rest
    some (some digits, rest)
  | rest => some (none, rest)

/-- The exponent, if there is one. -/
def exponentOf : List Char → Option (Option (Bool × List Char) × List Char)
  | c :: rest =>
    if c = 'e' || c = 'E' then do
      let (negative, rest) :=
        match rest with
        | '-' :: rest => (true, rest)
        | '+' :: rest => (false, rest)
        | rest => (false, rest)
      let (digits, rest) ← someDigits rest
      some (some (negative, digits), rest)
    else some (none, c :: rest)
  | [] => some (none, [])

/-- Reads a number that takes up a whole text. Digits before the point do not begin with a zero
unless it is the only one. -/
def ofChars? (cs : List Char) : Option Number := do
  let (negative, cs) :=
    match cs with
    | '-' :: rest => (true, rest)
    | cs => (false, cs)
  let (whole, cs) ← someDigits cs
  if whole.head? = some '0' && whole.length ≠ 1 then none
  let (fraction, cs) ← fractionOf cs
  let (exponent, cs) ← exponentOf cs
  if cs.isEmpty then some ⟨negative, whole, fraction, exponent⟩ else none

/-- The natural number that is written without a sign, a point or an exponent. -/
def natural? (n : Number) : Option Nat :=
  if n.negative || n.fraction.isSome || n.exponent.isSome then none
  else some (digitsValue n.whole)

/-! ## The range of doubles

A number is read as a double by way of its leading digits, as many as fit in 64 bits, and a power
of ten. The digits after those only count as places. -/

/-- Leading digits and the power of ten that they are to be multiplied by. -/
structure Scaled where
  significand : Nat
  exponent : Int

/-- The digits after `digit` still fit. -/
def Scaled.fits (s : Scaled) (digit : Char) : Bool :=
  s.significand * 10 + digitValue digit < Nat.pow 2 64

/-- Takes in the digits before the point. -/
def Scaled.takeWhole (s : Scaled) : List Char → Scaled
  | [] => s
  | d :: rest =>
    if s.fits d then takeWhole { s with significand := s.significand * 10 + digitValue d } rest
    else { s with exponent := s.exponent + (rest.length + 1) }

/-- Takes in the digits behind the point. -/
def Scaled.takeFraction (s : Scaled) : List Char → Scaled
  | [] => s
  | d :: rest =>
    if s.fits d then
      takeFraction ⟨s.significand * 10 + digitValue d, s.exponent - 1⟩ rest
    else s

/-- The leading digits of a number with their power of ten. -/
def scaled (n : Number) : Scaled :=
  let s := (Scaled.takeWhole ⟨0, 0⟩ n.whole).takeFraction (n.fraction.getD [])
  match n.exponent with
  | none => s
  | some (true, digits) => { s with exponent := s.exponent - digitsValue digits }
  | some (false, digits) => { s with exponent := s.exponent + digitsValue digits }

/-- A natural number rounded to 53 significant bits, ties to even. -/
def rounded (n : Nat) : Nat :=
  if n < Nat.pow 2 53 then n
  else
    let unit := Nat.pow 2 (n.log2 - 52)
    let below := n / unit
    let rest := n % unit
    if 2 * rest < unit || (2 * rest = unit && below % 2 = 0) then below * unit
    else (below + 1) * unit

/-- Where doubles end: from here on numbers round to infinity. -/
def doubleLimit : Nat := Nat.pow 2 1024 - Nat.pow 2 970

/-- Whether a number is in the range of doubles. -/
def inRange (n : Number) : Bool :=
  let s := n.scaled
  if s.significand = 0 || s.exponent < 0 then true
  else if 308 < s.exponent then false
  else rounded s.significand * rounded (Nat.pow 10 s.exponent.toNat) < doubleLimit

end Number

end Dissect.Json
