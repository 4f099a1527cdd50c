/-!
# Numbers

The numbers of the language are the 64-bit binary floating-point numbers.  A number is a sign and a
magnitude, where the magnitude is the word of 63 bits below the sign.  Magnitudes are ordered as the
numbers they stand for, so comparing, rounding toward zero and changing the sign are operations on
whole numbers.  The four arithmetic operations are those of the machine.
-/

namespace Zoop

/-- A 64-bit binary floating-point number: its sign and the 63 bits below the sign. -/
structure Number where
  negative : Bool
  /-- Eleven bits of exponent above fifty-two bits of fraction. -/
  magnitude : Nat
  bounded : magnitude < 0x8000000000000000
deriving DecidableEq

namespace Number

/-! ## Words -/

/-- The magnitude of the two infinities.  The larger magnitudes are those of no number at all. -/
def infiniteMagnitude : Nat :=
  0x7FF0000000000000

/-- The number with a given word of 64 bits. -/
def ofBits (bits : UInt64) : Number where
  negative := 0x8000000000000000 ≤ bits.toNat
  magnitude := bits.toNat % 0x8000000000000000
  bounded := Nat.mod_lt _ (by decide)

/-- The word of 64 bits of a number. -/
def bits (number : Number) : UInt64 :=
  UInt64.ofNat (number.magnitude + if number.negative then 0x8000000000000000 else 0)

/-- Zero with the sign plus. -/
def zero : Number :=
  ⟨false, 0, by decide⟩

/-- The value of an operation without a result. -/
def notANumber : Number :=
  ⟨false, 0x7FF8000000000000, by decide⟩

/-- The infinity with the sign plus. -/
def infinity : Number :=
  ⟨false, infiniteMagnitude, by decide⟩

instance : Inhabited Number :=
  ⟨zero⟩

/-! ## Kinds of numbers -/

/-- Whether this is the value of an operation without a result. -/
def isNaN (number : Number) : Bool :=
  infiniteMagnitude < number.magnitude

/-- Whether this is neither infinite nor without a value. -/
def isFinite (number : Number) : Bool :=
  number.magnitude < infiniteMagnitude

/-- Whether this is one of the two zeros. -/
def isZero (number : Number) : Bool :=
  number.magnitude == 0

/-! ## Order -/

/-- Numbers that have a value are ordered as their ranks; both zeros have rank zero. -/
def rank (number : Number) : Int :=
  if number.negative then -(number.magnitude : Int) else number.magnitude

/-- Whether both numbers have a value and the first is the smaller. -/
def lt (first second : Number) : Bool :=
  !first.isNaN && !second.isNaN && first.rank < second.rank

/-- Whether both numbers have a value and the first is not the larger. -/
def le (first second : Number) : Bool :=
  !first.isNaN && !second.isNaN && first.rank ≤ second.rank

/-- Whether both numbers have a value and it is the same. -/
def equals (first second : Number) : Bool :=
  !first.isNaN && !second.isNaN && first.rank == second.rank

/-! ## Exact operations -/

/-- The number with the other sign. -/
def negate (number : Number) : Number :=
  { number with negative := !number.negative }

/-- The part of a magnitude that stands for a whole number.  Below one this is nothing.  From
`2 ^ 52` on every number is whole.  Between, the bits of the fraction that weigh less than one go
away. -/
def wholeMagnitude (magnitude : Nat) : Nat :=
  let exponent := magnitude / 0x10000000000000
  if exponent < 1023 then
    0
  else if 1075 ≤ exponent then
    magnitude
  else
    magnitude - magnitude % (1 <<< (1075 - exponent))

theorem wholeMagnitude_le (magnitude : Nat) : wholeMagnitude magnitude ≤ magnitude := by
  unfold wholeMagnitude
  dsimp only
  split
  · exact Nat.zero_le _
  · split
    · exact Nat.le_refl _
    · exact Nat.sub_le _ _

/-- The number without its fractional part, toward zero and with the same sign. -/
def truncate (number : Number) : Number where
  negative := number.negative
  magnitude := wholeMagnitude number.magnitude
  bounded := Nat.lt_of_le_of_lt (wholeMagnitude_le _) number.bounded

/-- Whether the number is finite and has no fractional part. -/
def isWhole (number : Number) : Bool :=
  number.isFinite && number.truncate == number

/-- The number itself when it is above zero, and zero otherwise. -/
def atLeastZero (number : Number) : Number :=
  if zero.lt number then number else zero

/-! ## Arithmetic -/

/-- The number as the machine computes with it. -/
def toFloat (number : Number) : Float :=
  Float.ofBits number.bits

/-- The number of a result of the machine. -/
def ofFloat (float : Float) : Number :=
  ofBits float.toBits

/-- The sum, rounded to nearest. -/
def add (first second : Number) : Number :=
  ofFloat (first.toFloat + second.toFloat)

/-- The difference, rounded to nearest. -/
def sub (first second : Number) : Number :=
  ofFloat (first.toFloat - second.toFloat)

/-- The product, rounded to nearest. -/
def mul (first second : Number) : Number :=
  ofFloat (first.toFloat * second.toFloat)

/-- The quotient, rounded to nearest. -/
def div (first second : Number) : Number :=
  ofFloat (first.toFloat / second.toFloat)

/-! ## Exact value -/

/-- The exponent of a magnitude, as the weight of the last bit of its fraction: the last bit weighs
`2 ^ scale` steps, where a step is the least number above zero, `2 ^ -1074`. -/
def scale (magnitude : Nat) : Nat :=
  magnitude / 0x10000000000000 - 1

/-- The fraction of a magnitude with the leading bit that the word leaves out. -/
def mantissa (magnitude : Nat) : Nat :=
  if magnitude / 0x10000000000000 = 0 then
    magnitude
  else
    magnitude % 0x10000000000000 + 0x10000000000000

/-- The exact value of a finite magnitude, as a count of steps of `2 ^ -1074`. -/
def steps (magnitude : Nat) : Nat :=
  mantissa magnitude <<< scale magnitude

end Number

end Zoop
