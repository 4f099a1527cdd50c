import Zoop.Number.Rounding

/-!
# Shortest decimals

The decimal with the fewest digits that still reads back as a given number.  The fractions that read
back as a number form an interval around it.  The neighbours of the number on the grid of all decimals
with one digit, then with two digits, and so on, are tried until one of them lies in the interval.
Seventeen digits are always enough.
-/

namespace Zoop

/-- A decimal: a coefficient times a power of ten. -/
structure Decimal where
  /-- The digits, as a whole number. -/
  coefficient : Nat
  /-- The exponent of the last digit. -/
  power : Int
deriving DecidableEq, Repr

namespace Decimal

/-- The digits from the first to the last that is not zero. -/
def digits (decimal : Decimal) : List Char :=
  ((Nat.toDigits 10 decimal.coefficient).reverse.dropWhile (· == '0')).reverse

/-- The exponent of the first digit. -/
def leadingPower (decimal : Decimal) : Int :=
  decimal.power + Number.digitCount decimal.coefficient - 1

end Decimal

namespace Number

/-- The fractions that read back as a number, all over one denominator. -/
structure ReadBack where
  centre : Nat
  lower : Nat
  upper : Nat
  denominator : Nat
  /-- Whether the two ends read back as the number as well. -/
  closed : Bool
deriving Repr

/-- The fractions that read back as a finite magnitude above zero, in quarters of a step of
`2 ^ -1074`.  Each end lies half way to the next number; below a power of two the numbers lie twice
as dense.  The ends belong to the number when the last bit of its fraction is even. -/
def readBack (magnitude : Nat) : ReadBack where
  centre := 4 * steps magnitude
  lower :=
    let gap := 1 <<< scale magnitude
    if magnitude % 0x10000000000000 = 0 && 1 < magnitude / 0x10000000000000 then
      4 * steps magnitude - gap
    else
      4 * steps magnitude - 2 * gap
  upper := 4 * steps magnitude + 2 * (1 <<< scale magnitude)
  denominator := 1 <<< 1076
  closed := magnitude % 2 == 0

namespace ReadBack

/-- The interval in units of a power of ten: the centre and the ends over a new denominator. -/
def rescale (interval : ReadBack) (power : Int) : ReadBack :=
  let factor := Nat.pow 10 (-power).toNat
  { centre := interval.centre * factor
    lower := interval.lower * factor
    upper := interval.upper * factor
    denominator := interval.denominator * Nat.pow 10 power.toNat
    closed := interval.closed }

/-- Whether a whole number lies in the interval. -/
def covers (interval : ReadBack) (whole : Nat) : Bool :=
  let point := whole * interval.denominator
  if interval.closed then
    interval.lower ≤ point && point ≤ interval.upper
  else
    interval.lower < point && point < interval.upper

/-- The whole number in the interval that is nearest to its centre, among the two neighbours of the
centre; a tie goes to the larger one. -/
def nearestWhole? (interval : ReadBack) : Option Nat :=
  let below := interval.centre / interval.denominator
  let rest := interval.centre % interval.denominator
  match interval.covers below, interval.covers (below + 1) with
  | true, true => some (if interval.denominator ≤ 2 * rest then below + 1 else below)
  | true, false => some below
  | false, true => some (below + 1)
  | false, false => none

/-- The exponent of the first decimal digit of the centre. -/
def leadingPower (interval : ReadBack) : Int :=
  let whole := interval.centre / interval.denominator
  if whole = 0 then
    -(digitCount ((interval.denominator - 1) / interval.centre) : Int)
  else
    (digitCount whole : Int) - 1

/-- The first decimal in the interval on the grids whose last digit has the given power, the power
below it, and so on. -/
def search (interval : ReadBack) : Nat → Int → Decimal
  | 0, power => ⟨(interval.rescale power).centre / (interval.rescale power).denominator, power⟩
  | tries + 1, power =>
      match (interval.rescale power).nearestWhole? with
      | some coefficient => ⟨coefficient, power⟩
      | none => search interval tries (power - 1)

end ReadBack

/-- The decimal with the fewest digits that reads back as a finite number above zero, given by its
magnitude; of several, the nearest one. -/
def shortest (magnitude : Nat) : Decimal :=
  let interval := readBack magnitude
  interval.search 17 interval.leadingPower

end Number

end Zoop
