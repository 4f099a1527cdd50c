import Zoop.Proofs.Number.Decimals
import Zoop.Proofs.Number.ReadBack

/-!
# Digits of decimals

The digits of a decimal, from the first to the last that is not zero.  Together with the power of ten of the
first digit they stand for the same rational number as the decimal.
-/

namespace Zoop

namespace Number

/-! ## Digits of whole numbers -/

theorem head?_append_of_ne_nil {front : List Char} (nonempty : front ≠ []) (rest : List Char) :
    (front ++ rest).head? = front.head? := by
  cases front with
  | nil => exact absurd rfl nonempty
  | cons first others => rfl

/-- The first digit of a number is zero only for zero itself. -/
theorem head?_toDigits_ne {whole : Nat} (positive : whole ≠ 0) :
    (Nat.toDigits 10 whole).head? ≠ some '0' := by
  induction whole using Nat.strongRecOn with
  | ind whole inductionHypothesis =>
      rw [Nat.toDigits_eq_if (by decide)]
      split
      · next single =>
          have others : ∀ digit < 10, digit ≠ 0 → [Nat.digitChar digit].head? ≠ some '0' := by
            decide
          exact others whole single positive
      · next several =>
          rw [head?_append_of_ne_nil Nat.toDigits_ne_nil]
          exact inductionHypothesis (whole / 10) (by omega) (by omega)

/-- A number that ends with a zero is a multiple of ten, and the other way round. -/
theorem getLast?_toDigits_of_dvd {whole : Nat} (several : 10 ≤ whole) (divides : whole % 10 = 0) :
    (Nat.toDigits 10 whole).getLast? = some '0' := by
  rw [Nat.toDigits_of_base_le (by decide) several, divides, List.getLast?_concat]
  rfl

end Number

namespace Decimal

variable {decimal : Decimal}

/-- The digits that are left out are zeros at the end. -/
theorem exists_zeros (decimal : Decimal) :
    ∃ zeros,
      Nat.toDigits 10 decimal.coefficient = decimal.digits ++ List.replicate zeros '0' ∧
      Number.digitCount decimal.coefficient = decimal.digits.length + zeros := by
  generalize textIs : Nat.toDigits 10 decimal.coefficient = text
  have zeros : text.reverse.takeWhile (· == '0') =
      List.replicate (text.reverse.takeWhile (· == '0')).length '0' := by
    refine List.eq_replicate_iff.mpr ⟨rfl, fun character member => ?_⟩
    have isZero := List.mem_takeWhile_imp member
    exact beq_iff_eq.mp isZero
  have split : text =
      decimal.digits ++ List.replicate (text.reverse.takeWhile (· == '0')).length '0' := by
    rw [digits, textIs, ← List.reverse_replicate, ← zeros, ← List.reverse_append,
      List.takeWhile_append_dropWhile, List.reverse_reverse]
  refine ⟨_, split, ?_⟩
  rw [Number.digitCount, textIs]
  conv_lhs => rw [split]
  rw [List.length_append, List.length_replicate]

/-- Digits with no zero at either end. -/
structure AreSignificant (digits : List Char) : Prop where
  nonempty : digits ≠ []
  areDigits : ∀ character ∈ digits, character.isDigit = true
  first : digits.head? ≠ some '0'
  last : digits.getLast? ≠ some '0'

theorem digits_ne_nil (positive : decimal.coefficient ≠ 0) : decimal.digits ≠ [] := by
  obtain ⟨zeros, split, _⟩ := decimal.exists_zeros
  intro nothing
  have value := Number.digitsValue_toDigits decimal.coefficient
  rw [split, nothing, List.nil_append, Number.digitsValue_zeros] at value
  exact positive value.symm

theorem areSignificant_digits (positive : decimal.coefficient ≠ 0) :
    AreSignificant decimal.digits := by
  have nonempty := digits_ne_nil positive
  obtain ⟨zeros, split, _⟩ := decimal.exists_zeros
  refine ⟨nonempty, fun character member => ?_, ?_, ?_⟩
  · have member : character ∈ Nat.toDigits 10 decimal.coefficient := by
      rw [split]
      exact List.mem_append_left _ member
    exact Nat.isDigit_of_mem_toDigits (by decide) (by decide) member
  · have first := Number.head?_toDigits_ne positive
    rwa [split, Number.head?_append_of_ne_nil nonempty] at first
  · intro last
    rw [digits, List.getLast?_reverse] at last
    have stopped := List.head?_dropWhile_not (· == '0')
      (Nat.toDigits 10 decimal.coefficient).reverse
    rw [last] at stopped
    cases stopped

/-- The digits stand for the decimal, with the power of ten of the last of them. -/
theorem value_eq_digits (decimal : Decimal) :
    decimal.value = Number.digitsValue decimal.digits *
      10 ^ (decimal.leadingPower - decimal.digits.length + 1) := by
  obtain ⟨zeros, split, count⟩ := decimal.exists_zeros
  have coefficient : decimal.coefficient = 10 ^ zeros * Number.digitsValue decimal.digits := by
    rw [← Number.digitsValue_toDigits decimal.coefficient, split, Number.digitsValue_append,
      Number.digitsValue_zeros, List.length_replicate, Nat.add_zero]
  have power : decimal.leadingPower - decimal.digits.length + 1 = zeros + decimal.power := by
    unfold leadingPower
    omega
  rw [power, zpow_add₀ (by decide), zpow_natCast, value, coefficient, Nat.cast_mul, Nat.cast_pow,
    Nat.cast_ofNat]
  ring

/-- A coefficient up to a power of ten has no more digits than that, since the power itself has one. -/
theorem length_digits_le
    {places : Nat} (atLeastOne : places ≠ 0) (atMost : decimal.coefficient ≤ 10 ^ places) :
    decimal.digits.length ≤ places := by
  obtain ⟨zeros, split, count⟩ := decimal.exists_zeros
  rcases Nat.lt_or_eq_of_le atMost with fewer | same
  · have few : Number.digitCount decimal.coefficient ≤ places :=
      (Nat.length_toDigits_le_iff (by decide) (Nat.pos_of_ne_zero atLeastOne)).mpr fewer
    omega
  · -- the power itself ends with a zero, which is left out
    have positive : decimal.coefficient ≠ 0 := by
      rw [same]
      exact Nat.ne_of_gt (Nat.pow_pos (by decide))
    have divides : decimal.coefficient % 10 = 0 := by
      rw [same]
      exact Nat.mod_eq_zero_of_dvd (dvd_pow_self 10 atLeastOne)
    have last := Number.getLast?_toDigits_of_dvd (by omega) divides
    have some : zeros ≠ 0 := by
      rintro rfl
      rw [split, List.replicate_zero, List.append_nil] at last
      exact (areSignificant_digits positive).last last
    have few : Number.digitCount decimal.coefficient ≤ places + 1 := by
      refine (Nat.length_toDigits_le_iff (by decide) (Nat.succ_pos _)).mpr ?_
      rw [same]
      exact Nat.pow_lt_pow_right (by decide) (Nat.lt_succ_self places)
    omega

end Decimal

end Zoop
