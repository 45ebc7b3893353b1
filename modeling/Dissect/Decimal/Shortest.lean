/-!
# Shortest decimals

The shortest decimal that reads back as a given binary floating-point number. A finite number is
`mantissa · 2 ^ exponent`, and the reals that round to it form an interval, which contains its
ends exactly when the mantissa is even. Of all decimals in the interval one with the fewest digits
is wanted, and of those the nearest, the greater of two equally near.
-/

set_option autoImplicit false

namespace Dissect.Decimal

/-- A positive binary floating-point number `mantissa · 2 ^ exponent`. `narrow` tells that the
next smaller number is only half as far away as the next greater one. -/
structure Binary where
  mantissa : Nat
  exponent : Int
  narrow : Bool

/-- The number `significand · 10 ^ exponent`. -/
structure Numeral where
  significand : Nat
  exponent : Int

/-- An integer power as a numerator: the power, or one if the exponent is negative. -/
def powerAbove (base : Nat) (e : Int) : Nat := Nat.pow base e.toNat

/-- An integer power as a denominator: the power of the negated exponent, or one. -/
def powerBelow (base : Nat) (e : Int) : Nat := Nat.pow base (-e).toNat

/-- The numbers of quarter units in the last place at which the interval of reals that round to
`x` begins and ends. The number itself lies at four times its mantissa. -/
def Binary.bounds (x : Binary) : Nat × Nat :=
  (4 * x.mantissa - (if x.narrow then 1 else 2), 4 * x.mantissa + 2)

/-- A grid of decimals `d · 10 ^ k` laid beside quarter units of a binary number: both are whole
multiples of a common measure, `step` the decimal one and `quarter` the binary one. -/
structure Grid where
  step : Nat
  quarter : Nat

/-- The grid of the multiples of `10 ^ k`. -/
def Binary.grid (x : Binary) (k : Int) : Grid where
  step := powerAbove 10 k * powerBelow 2 (x.exponent - 2)
  quarter := powerBelow 10 k * powerAbove 2 (x.exponent - 2)

/-- Whether the `d`-th point of a grid rounds to `x`. -/
def Binary.admits (x : Binary) (g : Grid) (d : Nat) : Bool :=
  let (lower, upper) := x.bounds
  if x.mantissa % 2 = 0 then lower * g.quarter ≤ d * g.step && d * g.step ≤ upper * g.quarter
  else lower * g.quarter < d * g.step && d * g.step < upper * g.quarter

/-- The point of a grid that stands for `x`, if one of the two points around `x` rounds to it:
the nearer of the two if both do, the upper one if they are equally near. -/
def Binary.onGrid (x : Binary) (g : Grid) : Option Nat :=
  let value := 4 * x.mantissa * g.quarter
  let below := value / g.step
  match x.admits g below, x.admits g (below + 1) with
  | true, true => some (if 2 * value < (2 * below + 1) * g.step then below else below + 1)
  | true, false => some below
  | false, true => some (below + 1)
  | false, false => none

/-- The exponent of the leading decimal digit of `x`. -/
def Binary.leading (x : Binary) : Int :=
  let above := x.mantissa * powerAbove 2 x.exponent
  let below := powerBelow 2 x.exponent
  if below ≤ above then (Nat.toDigits 10 (above / below)).length - 1
  else
    -- the least number of places after which the integer part is no longer zero
    match (List.range 400).find? fun j => below ≤ above * Nat.pow 10 j with
    | some j => -(j : Int)
    | none => 0

/-- No double needs more significant digits than this. -/
def mostDigits : Nat := 17

/-- The shortest decimal that rounds to `x`. -/
def Binary.shortest (x : Binary) : Numeral :=
  let atDigits (n : Nat) : Option Numeral :=
    let k := x.leading - n
    (x.onGrid (x.grid k)).map fun d => ⟨d, k⟩
  ((List.range mostDigits).findSome? atDigits).getD ⟨x.mantissa, 0⟩

end Dissect.Decimal
