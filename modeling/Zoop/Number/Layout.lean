import Zoop.Number.Shortest

/-!
# Layouts of numbers

A number is written with the digits of its shortest decimal.  Where the point stands, when an exponent
is written and how the special numbers read is decided by a layout.  The language has three of them:
for values that a program prints, for numbers that become labels or prompts, and for dumps.
-/

namespace Zoop

/-- The decisions that turn digits into a text. -/
structure Layout where
  /-- Whether a number whose first digit has this power of ten is written without an exponent. -/
  positional : Int → Bool
  /-- What follows the digits of a whole number that is written without an exponent. -/
  wholeEnding : String
  /-- What stands before an exponent that is not negative. -/
  exponentSign : String
  zero : String
  negativeZero : String
  infinity : String

namespace Layout

/-- Values are printed without an exponent from `10 ^ -6` up to `10 ^ 21`, whole numbers without a
point, and both zeros alike. -/
def printed : Layout where
  positional power := -6 ≤ power && power ≤ 20
  wholeEnding := ""
  exponentSign := "+"
  zero := "0"
  negativeZero := "0"
  infinity := "Infinity"

/-- A number that becomes a label or a prompt has no exponent. -/
def plain : Layout where
  positional _ := true
  wholeEnding := ""
  exponentSign := ""
  zero := "0"
  negativeZero := "-0"
  infinity := "inf"

/-- In dumps a number has no exponent from `10 ^ -4` up to `10 ^ 16`, and a whole number keeps a zero
after the point. -/
def dumped : Layout where
  positional power := -4 ≤ power && power ≤ 15
  wholeEnding := ".0"
  exponentSign := ""
  zero := "0.0"
  negativeZero := "-0.0"
  infinity := "inf"

/-! ## Digits and a point -/

/-- Digits without an exponent, where the first digit has a given power of ten. -/
def positionalText (wholeEnding : List Char) (digits : List Char) (power : Int) : List Char :=
  if power < 0 then
    ['0', '.'] ++ List.replicate (-power - 1).toNat '0' ++ digits
  else
    let whole := power.toNat + 1
    if digits.length ≤ whole then
      digits ++ List.replicate (whole - digits.length) '0' ++ wholeEnding
    else
      digits.take whole ++ ['.'] ++ digits.drop whole

/-- Digits with an exponent: a point after the first digit, if there are more, and the power of ten
of the first digit. -/
def exponentText (exponentSign : List Char) (digits : List Char) (power : Int) : List Char :=
  let mantissa :=
    match digits with
    | first :: second :: rest => first :: '.' :: second :: rest
    | short => short
  let sign := if power < 0 then ['-'] else exponentSign
  mantissa ++ ['e'] ++ sign ++ Nat.toDigits 10 power.natAbs

/-- The text of a decimal. -/
def decimalText (layout : Layout) (decimal : Decimal) : List Char :=
  let power := decimal.leadingPower
  if layout.positional power then
    positionalText layout.wholeEnding.toList decimal.digits power
  else
    exponentText layout.exponentSign.toList decimal.digits power

/-- The text of a number. -/
def text (layout : Layout) (number : Number) : String :=
  if number.isNaN then
    "NaN"
  else if number.isZero then
    if number.negative then layout.negativeZero else layout.zero
  else
    let sign := if number.negative then "-" else ""
    if number.isFinite then
      sign ++ String.ofList (layout.decimalText (Number.shortest number.magnitude))
    else
      sign ++ layout.infinity

end Layout

end Zoop
