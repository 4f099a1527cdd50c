import Mathlib.Algebra.Group.Nat.Defs
import Mathlib.Data.List.TakeWhile
import Zoop.Number.Reader
import Zoop.Number.Shortest

/-!
# Decimals in texts

The decimal that a text stands for: its digits as one whole number, and the power of ten of the last of
them.  Reading a number is rounding this decimal.
-/

namespace Zoop

namespace Number

/-! ## Values of digits -/

theorem digitsValue_append (first second : List Char) :
    digitsValue (first ++ second) = 10 ^ second.length * digitsValue first + digitsValue second := by
  change Nat.ofDigitChars 10 (first ++ second) 0 = _
  rw [Nat.ofDigitChars_append, Nat.ofDigitChars_eq_ofDigitChars_zero]
  rfl

theorem digitsValue_zeros (count : Nat) : digitsValue (List.replicate count '0') = 0 :=
  Nat.ofDigitChars_replicate_zero

theorem isDigit_of_mem_zeros (count : Nat) :
    ∀ character ∈ List.replicate count '0', character.isDigit = true := by
  intro character member
  rw [List.eq_of_mem_replicate member]
  rfl

theorem digitsValue_toDigits (whole : Nat) : digitsValue (Nat.toDigits 10 whole) = whole :=
  Nat.ofDigitChars_ten_toDigits

/-- A character that is a digit is none that is not. -/
theorem ne_of_isDigit
    {character other : Char} (isDigit : character.isDigit = true)
    (otherKind : other.isDigit = false) : character ≠ other := by
  rintro rfl
  rw [isDigit] at otherKind
  cases otherKind

/-! ## Reading decimals -/

/-- The digits behind a point, if there is one, and the rest of the text. -/
def partFraction : List Char → List Char × List Char
  | '.' :: tail => (tail.takeWhile Char.isDigit, tail.dropWhile Char.isDigit)
  | text => ([], text)

/-- The decimal that a text without a sign stands for, if it has digits. -/
def unsignedDecimal? (text : List Char) : Option Decimal :=
  let whole := text.takeWhile Char.isDigit
  let parts := partFraction (text.dropWhile Char.isDigit)
  if (whole ++ parts.1).isEmpty then
    none
  else
    (readExponent? parts.2).map fun exponent =>
      ⟨digitsValue (whole ++ parts.1), exponent - parts.1.length⟩

/-- Whether a text has a minus, and the decimal that the rest of it stands for. -/
def decimal? (text : List Char) : Option (Bool × Decimal) :=
  (unsignedDecimal? (readSign text).2).map fun decimal => ((readSign text).1, decimal)

theorem read?_eq (text : List Char) :
    read? text =
      let unsigned := (readSign text).2
      let whole := unsigned.takeWhile Char.isDigit
      let parts := partFraction (unsigned.dropWhile Char.isDigit)
      if (whole ++ parts.1).isEmpty then
        readWord? (readSign text).1 unsigned
      else
        (readExponent? parts.2).map fun exponent =>
          ofDecimal (readSign text).1 (digitsValue (whole ++ parts.1)) (exponent - parts.1.length) :=
  rfl

/-- A text with digits is read as the number nearest to its decimal. -/
theorem read?_of_decimal?
    {text : List Char} {negative : Bool} {decimal : Decimal}
    (stands : decimal? text = some (negative, decimal)) :
    read? text = some (ofDecimal negative decimal.coefficient decimal.power) := by
  obtain ⟨unsigned, found, same⟩ := Option.map_eq_some_iff.mp stands
  cases same
  unfold unsignedDecimal? at found
  rw [read?_eq]
  dsimp only at found ⊢
  split at found
  · cases found
  · next someDigits =>
      obtain ⟨exponent, exponentRead, rfl⟩ := Option.map_eq_some_iff.mp found
      rw [if_neg someDigits, exponentRead]
      rfl

theorem readSign_of_digit
    {text : List Char} (starts : text.head?.any Char.isDigit = true) :
    readSign text = (false, text) := by
  cases text with
  | nil => cases starts
  | cons first rest =>
      have noMinus : first ≠ '-' := ne_of_isDigit starts rfl
      have noPlus : first ≠ '+' := ne_of_isDigit starts rfl
      unfold readSign
      split
      · next same => exact absurd (List.cons.inj same).1 noMinus
      · next same => exact absurd (List.cons.inj same).1 noPlus
      · rfl

theorem head?_isDigit
    {digits : List Char} (nonempty : digits ≠ [])
    (areDigits : ∀ character ∈ digits, character.isDigit = true) (rest : List Char) :
    (digits ++ rest).head?.any Char.isDigit = true := by
  cases digits with
  | nil => exact absurd rfl nonempty
  | cons first others => exact areDigits first List.mem_cons_self

/-- A text does not start with such a character. -/
def StartsOutside (accepts : Char → Bool) (text : List Char) : Prop :=
  ∀ character ∈ text.head?, accepts character = false

theorem startsOutside_nil (accepts : Char → Bool) : StartsOutside accepts [] :=
  fun _ => nofun

theorem startsOutside_cons
    {accepts : Char → Bool} {first : Char} (refused : accepts first = false) (rest : List Char) :
    StartsOutside accepts (first :: rest) := by
  rintro character isFirst
  cases isFirst
  exact refused

theorem startsOutside_dropWhile (accepts : Char → Bool) (text : List Char) :
    StartsOutside accepts (text.dropWhile accepts) := by
  intro character isFirst
  have refused := List.head?_dropWhile_not accepts text
  rwa [Option.mem_def.mp isFirst] at refused

theorem takeWhile_append_of_startsOutside
    {accepts : Char → Bool} {front rest : List Char}
    (accepted : ∀ character ∈ front, accepts character = true) (outside : StartsOutside accepts rest) :
    (front ++ rest).takeWhile accepts = front ∧ (front ++ rest).dropWhile accepts = rest := by
  rw [List.takeWhile_append_of_pos accepted, List.dropWhile_append_of_pos accepted]
  cases rest with
  | nil => exact ⟨List.append_nil front, rfl⟩
  | cons first others =>
      have first := outside first rfl
      simp [first]

theorem unsignedDecimal?_whole
    {digits rest : List Char} (nonempty : digits ≠ [])
    (areDigits : ∀ character ∈ digits, character.isDigit = true)
    (outside : StartsOutside (fun character => character.isDigit || character == '.') rest) :
    unsignedDecimal? (digits ++ rest) =
      (readExponent? rest).map fun exponent => ⟨digitsValue digits, exponent⟩ := by
  have noDigit : StartsOutside Char.isDigit rest := fun character isFirst =>
    (Bool.or_eq_false_iff.mp (outside character isFirst)).1
  have noFraction : partFraction rest = ([], rest) := by
    unfold partFraction
    split
    · exact absurd (outside '.' rfl) (by decide)
    · rfl
  obtain ⟨taken, dropped⟩ := takeWhile_append_of_startsOutside areDigits noDigit
  simp [unsignedDecimal?, taken, dropped, noFraction, nonempty]

theorem unsignedDecimal?_pointed
    {digits fraction rest : List Char} (nonempty : digits ≠ [])
    (areDigits : ∀ character ∈ digits, character.isDigit = true)
    (fractionDigits : ∀ character ∈ fraction, character.isDigit = true)
    (outside : StartsOutside Char.isDigit rest) :
    unsignedDecimal? (digits ++ '.' :: (fraction ++ rest)) =
      (readExponent? rest).map fun exponent =>
        ⟨digitsValue (digits ++ fraction), exponent - fraction.length⟩ := by
  obtain ⟨taken, dropped⟩ := takeWhile_append_of_startsOutside areDigits
    (startsOutside_cons (rfl : '.'.isDigit = false) (fraction ++ rest))
  obtain ⟨fractionTaken, restLeft⟩ := takeWhile_append_of_startsOutside fractionDigits outside
  simp [unsignedDecimal?, partFraction, taken, dropped, fractionTaken, restLeft, nonempty]

end Number

end Zoop
