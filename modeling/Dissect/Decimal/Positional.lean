import Dissect.Decimal.Shortest

/-!
# Positional text of doubles

A double is written with the fewest digits that read back, always positionally: no exponent, no
decimal point in a whole number, a sign also before zero.
-/

set_option autoImplicit false

namespace Dissect.Decimal

/-- What the 64 bits of a double stand for. -/
inductive Double where
  | notANumber
  | infinite (negative : Bool)
  | zero (negative : Bool)
  | finite (negative : Bool) (magnitude : Binary)

/-- The double with the given bits. -/
def Double.ofBits (bits : UInt64) : Double :=
  let n := bits.toNat
  let negative := Nat.pow 2 63 ≤ n
  let biased : Nat := n / Nat.pow 2 52 % Nat.pow 2 11
  let fraction := n % Nat.pow 2 52
  if biased = 2047 then
    if fraction = 0 then .infinite negative else .notANumber
  else if biased = 0 then
    if fraction = 0 then .zero negative else .finite negative ⟨fraction, -1074, false⟩
  else .finite negative ⟨Nat.pow 2 52 + fraction, (biased : Int) - 1075, fraction = 0 && biased ≠ 1⟩

/-- A numeral written out: zeros are added behind the digits, or a point is set between them, or
zeros are added in front of them. -/
def Numeral.positional (d : Numeral) : List Char :=
  let digits := Nat.toDigits 10 d.significand
  let places := (-d.exponent).toNat
  if places = 0 then digits ++ List.replicate d.exponent.toNat '0'
  else if places < digits.length then
    digits.take (digits.length - places) ++ '.' :: digits.drop (digits.length - places)
  else '0' :: '.' :: (List.replicate (places - digits.length) '0' ++ digits)

/-- A numeral without the zeros at the end of its significand. -/
def Numeral.trimmed (d : Numeral) : Numeral :=
  let zeros := ((Nat.toDigits 10 d.significand).reverse.takeWhile (· = '0')).length
  ⟨d.significand / Nat.pow 10 zeros, d.exponent + zeros⟩

/-- The text of a double. -/
def Double.text : Double → String
  | .notANumber => "NaN"
  | .infinite negative => if negative then "-inf" else "inf"
  | .zero negative => if negative then "-0" else "0"
  | .finite negative x =>
    let digits := x.shortest.trimmed.positional
    String.ofList (if negative then '-' :: digits else digits)

end Dissect.Decimal
