import Zoop.Number.Rounding

/-!
# Reading numbers

The numbers that a person may type: an optional sign, digits with an optional point among them and at
least one digit on a side of it, and an optional exponent.  The words for infinity and for no number
are read as well, in any case.
-/

namespace Zoop.Number

/-- The whole number that a run of decimal digits stands for. -/
def digitsValue (digits : List Char) : Nat :=
  digits.foldl (fun value digit => 10 * value + (digit.toNat - '0'.toNat)) 0

/-- The value of a number literal: digits, and maybe a point and more digits. -/
def ofDigits (text : List Char) : Number :=
  let whole := text.takeWhile (· ≠ '.')
  let fraction := (text.dropWhile (· ≠ '.')).drop 1
  ofDecimal false (digitsValue (whole ++ fraction)) (-(fraction.length : Int))

/-- Part a leading sign from a text, and tell whether it is a minus. -/
def readSign : List Char → Bool × List Char
  | '-' :: rest => (true, rest)
  | '+' :: rest => (false, rest)
  | text => (false, text)

/-- The exponent after the digits: nothing, or the letter `e`, an optional sign, and digits to the
end. -/
def readExponent? : List Char → Option Int
  | [] => some 0
  | letter :: rest =>
      if letter = 'e' ∨ letter = 'E' then
        let (negative, digits) := readSign rest
        if digits.isEmpty || !digits.all Char.isDigit then
          none
        else if negative then
          some (-(digitsValue digits : Int))
        else
          some (digitsValue digits)
      else
        none

/-- The words that stand for numbers without digits. -/
def readWord? (negative : Bool) (text : List Char) : Option Number :=
  let word := text.map Char.toLower
  if word = "inf".toList ∨ word = "infinity".toList then
    some { infinity with negative := negative }
  else if word = "nan".toList then
    some { notANumber with negative := negative }
  else
    none

/-- The number that a whole text stands for, if it is written as one. -/
def read? (text : List Char) : Option Number :=
  let (negative, unsigned) := readSign text
  let whole := unsigned.takeWhile Char.isDigit
  let afterWhole := unsigned.dropWhile Char.isDigit
  let (fraction, rest) :=
    match afterWhole with
    | '.' :: tail => (tail.takeWhile Char.isDigit, tail.dropWhile Char.isDigit)
    | tail => ([], tail)
  if (whole ++ fraction).isEmpty then
    readWord? negative unsigned
  else
    (readExponent? rest).map fun exponent =>
      ofDecimal negative (digitsValue (whole ++ fraction)) (exponent - fraction.length)

end Zoop.Number
