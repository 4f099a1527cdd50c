import Zoop.Number.Basic

/-!
# Rounding to a number

The number nearest to a given fraction.  Of two numbers that are equally near, the one with the even
last bit is taken.  Fractions that are too large become infinite.
-/

namespace Zoop.Number

/-- A quotient rounded to the nearest whole number, a half to the even neighbour. -/
def roundDiv (dividend divisor : Nat) : Nat :=
  let quotient := dividend / divisor
  let rest := dividend % divisor
  if 2 * rest < divisor then
    quotient
  else if divisor < 2 * rest then
    quotient + 1
  else
    quotient + quotient % 2

/-- The magnitude nearest to a fraction.  Counted in steps of `2 ^ -1074`, the fraction is cut to the
fifty-three bits that a magnitude holds; a carry out of these bits runs into the exponent. -/
def nearestMagnitude (numerator denominator : Nat) : Nat :=
  let scaled := numerator <<< 1074
  let shift := (scaled / denominator).log2 - 52
  shift * 0x10000000000000 + roundDiv scaled (denominator <<< shift)

/-- The number nearest to a fraction, with a given sign. -/
def ofRatio (negative : Bool) (numerator denominator : Nat) : Number where
  negative := negative
  magnitude := min infiniteMagnitude (nearestMagnitude numerator denominator)
  bounded := Nat.lt_of_le_of_lt (Nat.min_le_left _ _) (by decide)

/-- How many decimal digits a whole number is written with. -/
def digitCount (number : Nat) : Nat :=
  (Nat.toDigits 10 number).length

/-- The number nearest to a coefficient times a power of ten.  From `10 ^ 310` on the result is
infinite, and below `10 ^ -330` it is zero, so the power is only computed between. -/
def ofDecimal (negative : Bool) (coefficient : Nat) (power : Int) : Number :=
  let leading := (digitCount coefficient : Int) + power
  if coefficient = 0 || leading < -330 then
    { zero with negative := negative }
  else if 310 < leading then
    { infinity with negative := negative }
  else
    ofRatio negative (coefficient * Nat.pow 10 power.toNat) (Nat.pow 10 (-power).toNat)

end Zoop.Number
