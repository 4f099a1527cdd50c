import Mathlib.Algebra.Order.Field.Power
import Mathlib.Algebra.Order.Field.Rat
import Zoop.Proofs.Number.Rounding

/-!
# Decimals that read back

A decimal stands for a rational number.  It is read as a finite number above zero exactly if this rational
number lies in the interval of the number.
-/

namespace Zoop

/-! ## Values of decimals -/

/-- The rational number that a decimal stands for. -/
def Decimal.value (decimal : Decimal) : ℚ :=
  decimal.coefficient * 10 ^ decimal.power

namespace Number

theorem lt_pow_digitCount (whole : Nat) : whole < 10 ^ digitCount whole :=
  (Nat.length_toDigits_le_iff (by decide) Nat.length_toDigits_pos).mp (Nat.le_refl _)

theorem pow_digitCount_le {whole : Nat} (positive : whole ≠ 0) :
    10 ^ (digitCount whole - 1) ≤ whole := by
  by_cases single : digitCount whole - 1 = 0
  · rw [single]
    exact Nat.one_le_iff_ne_zero.mpr positive
  · by_contra below
    have fewer : digitCount whole ≤ digitCount whole - 1 :=
      (Nat.length_toDigits_le_iff (by decide) (Nat.pos_of_ne_zero single)).mpr
        (Nat.not_le.mp below)
    omega

theorem digitCount_pos (whole : Nat) : 0 < digitCount whole :=
  Nat.length_toDigits_pos

end Number

namespace Decimal

variable {decimal : Decimal}

theorem pow_leadingPower_le (positive : decimal.coefficient ≠ 0) :
    (10 : ℚ) ^ decimal.leadingPower ≤ decimal.value := by
  have digits := Number.digitCount_pos decimal.coefficient
  have split : decimal.leadingPower =
      ((Number.digitCount decimal.coefficient - 1 : Nat) : Int) + decimal.power := by
    unfold leadingPower
    omega
  rw [split, zpow_add₀ (by decide), zpow_natCast]
  unfold value
  gcongr
  exact_mod_cast Number.pow_digitCount_le positive

theorem value_lt : decimal.value < (10 : ℚ) ^ (decimal.leadingPower + 1) := by
  have split : decimal.leadingPower + 1 =
      (Number.digitCount decimal.coefficient : Int) + decimal.power := by
    unfold leadingPower
    omega
  rw [split, zpow_add₀ (by decide), zpow_natCast]
  unfold value
  gcongr
  exact_mod_cast Number.lt_pow_digitCount decimal.coefficient

end Decimal

namespace Number

/-! ## The interval of a number -/

/-- A rational number lies in the interval. -/
def ReadBack.Contains (interval : ReadBack) (value : ℚ) : Prop :=
  if interval.closed then
    interval.lower ≤ value * interval.denominator ∧ value * interval.denominator ≤ interval.upper
  else
    interval.lower < value * interval.denominator ∧ value * interval.denominator < interval.upper

theorem ReadBack.contains_div_iff
    {interval : ReadBack} {numerator denominator : Nat} (positive : 0 < denominator) :
    interval.Contains (numerator / denominator) ↔ interval.Holds numerator denominator := by
  have positive : (0 : ℚ) < denominator := Nat.cast_pos.mpr positive
  unfold Contains Holds
  rw [div_mul_eq_mul_div, le_div_iff₀ positive, div_le_iff₀ positive, lt_div_iff₀ positive,
    div_lt_iff₀ positive]
  norm_cast

theorem ReadBack.Contains.bounds
    {interval : ReadBack} {value : ℚ} (contains : interval.Contains value) :
    interval.lower ≤ value * interval.denominator ∧
      value * interval.denominator ≤ interval.upper := by
  unfold Contains at contains
  split at contains
  · exact contains
  · exact contains.imp le_of_lt le_of_lt

section Bounds

variable {magnitude : Nat}

theorem denominator_pos (magnitude : Nat) : 0 < (readBack magnitude).denominator := by
  rw [readBack_denominator]
  -- the power of two is too large to be computed
  generalize 1074 = count
  exact Nat.mul_pos (by decide) (Nat.two_pow_pos count)

theorem two_le_lower (positive : 0 < magnitude) : 2 ≤ (readBack magnitude).lower := by
  have unit : 0 < 2 ^ scale magnitude := Nat.two_pow_pos _
  have atLeast := le_steps positive
  rcases readBack_lower magnitude with ⟨_, lower⟩ | ⟨_, lower⟩ <;>
  · rw [lower]
    omega

theorem scale_le (finite : magnitude < infiniteMagnitude) : scale magnitude ≤ 2045 := by
  unfold scale
  unfold infiniteMagnitude at finite
  omega

theorem upper_lt {largest : Nat} (few : scale magnitude ≤ largest) :
    (readBack magnitude).upper < 2 ^ 55 * 2 ^ largest := by
  have lastBit : 2 ^ scale magnitude ≤ 2 ^ largest := Nat.pow_le_pow_right Nat.two_pos few
  have unit : 0 < 2 ^ scale magnitude := Nat.two_pow_pos _
  have bits := steps_le magnitude
  rw [readBack_upper]
  omega

/-- The finite numbers above zero lie between `10 ^ -324` and `10 ^ 309`, with what is rounded to them. -/
theorem ReadBack.Contains.value_bounds
    {value : ℚ} (positive : 0 < magnitude) (finite : magnitude < infiniteMagnitude)
    (contains : (readBack magnitude).Contains value) :
    (10 : ℚ) ^ (-324 : Int) < value ∧ value < (10 : ℚ) ^ (309 : Int) := by
  have small : (readBack magnitude).denominator < 2 * 10 ^ 324 := by
    rw [readBack_denominator]
    decide +kernel
  have large : (readBack magnitude).upper < 10 ^ 309 * (readBack magnitude).denominator := by
    refine Nat.lt_of_lt_of_le (upper_lt (scale_le finite)) ?_
    rw [readBack_denominator]
    decide +kernel
  have least : (2 : ℚ) ≤ (readBack magnitude).lower := by
    exact_mod_cast two_le_lower positive
  have many : (0 : ℚ) < (readBack magnitude).denominator :=
    Nat.cast_pos.mpr (denominator_pos magnitude)
  obtain ⟨lower, upper⟩ := contains.bounds
  generalize (readBack magnitude).denominator = denominator at *
  generalize (readBack magnitude).lower = lowest at *
  generalize (readBack magnitude).upper = uppermost at *
  have small : (denominator : ℚ) < 2 * 10 ^ (324 : Int) := by exact_mod_cast small
  have large : (uppermost : ℚ) < 10 ^ (309 : Int) * denominator := by exact_mod_cast large
  constructor
  · apply lt_of_mul_lt_mul_right ?_ many.le
    calc (10 : ℚ) ^ (-324 : Int) * denominator
        < 10 ^ (-324 : Int) * (2 * 10 ^ (324 : Int)) := by gcongr
      _ = 2 := by
        rw [mul_left_comm, ← zpow_add₀ (by decide)]
        exact mul_one 2
      _ ≤ value * denominator := least.trans lower
  · exact lt_of_mul_lt_mul_right (upper.trans_lt large) many.le

/-- The decimals that are rounded to a finite number above zero are above zero themselves, and their first
digits have powers of ten that are not far from zero. -/
theorem ReadBack.Contains.leadingPower_bounds
    {decimal : Decimal} (positive : 0 < magnitude) (finite : magnitude < infiniteMagnitude)
    (contains : (readBack magnitude).Contains decimal.value) :
    decimal.coefficient ≠ 0 ∧ -324 ≤ decimal.leadingPower ∧ decimal.leadingPower ≤ 308 := by
  obtain ⟨above, below⟩ := contains.value_bounds positive finite
  have nonzero : decimal.coefficient ≠ 0 := by
    intro nothing
    rw [Decimal.value, nothing, Nat.cast_zero, zero_mul] at above
    exact absurd above (not_lt.mpr (zpow_nonneg (by decide) _))
  have leading := (zpow_lt_zpow_iff_right₀ (by decide)).mp
    ((decimal.pow_leadingPower_le nonzero).trans_lt below)
  have next := (zpow_lt_zpow_iff_right₀ (by decide)).mp (above.trans decimal.value_lt)
  exact ⟨nonzero, by omega, by omega⟩

end Bounds

/-! ## Reading decimals -/

/-- A power of ten as a fraction of whole numbers. -/
theorem ten_zpow (power : Int) :
    (10 : ℚ) ^ power = 10 ^ power.toNat / 10 ^ (-power).toNat := by
  have split : power = (power.toNat : Int) - ((-power).toNat : Int) := by
    omega
  rw [← zpow_natCast, ← zpow_natCast, ← zpow_sub₀ (by decide), ← split]

theorem value_eq_div (decimal : Decimal) :
    decimal.value =
      (decimal.coefficient * Nat.pow 10 decimal.power.toNat : Nat) /
        (Nat.pow 10 (-decimal.power).toNat : Nat) := by
  rw [Decimal.value, ten_zpow, ← mul_div_assoc]
  simp only [Nat.pow_eq, Nat.cast_mul, Nat.cast_pow, Nat.cast_ofNat]

theorem contains_value_iff {interval : ReadBack} {decimal : Decimal} :
    interval.Contains decimal.value ↔
      interval.Holds (decimal.coefficient * Nat.pow 10 decimal.power.toNat)
        (Nat.pow 10 (-decimal.power).toNat) := by
  rw [value_eq_div]
  exact ReadBack.contains_div_iff (Nat.pow_pos (by decide))

/-- A decimal is read as a finite number above zero exactly if it lies in the interval of the number. -/
theorem ofDecimal_eq_iff
    {number : Number} (finite : number.isFinite = true) (nonzero : number.isZero = false)
    (decimal : Decimal) :
    ofDecimal number.negative decimal.coefficient decimal.power = number ↔
      (readBack number.magnitude).Contains decimal.value := by
  obtain ⟨negative, magnitude, bounded⟩ := number
  have finite : magnitude < infiniteMagnitude := of_decide_eq_true finite
  have positive : 0 < magnitude := Nat.pos_of_ne_zero (beq_eq_false_iff_ne.mp nonzero)
  have sameMagnitude : ∀ {other : Nat} {otherBounded : other < 0x8000000000000000},
      (⟨negative, other, otherBounded⟩ : Number) = ⟨negative, magnitude, bounded⟩ ↔
        other = magnitude := by
    simp
  unfold ofDecimal
  dsimp only
  split
  · next tooSmall =>
      refine iff_of_false (fun same => ?_) (fun contains => ?_)
      · exact absurd (sameMagnitude.mp same) (Nat.ne_of_lt positive)
      · obtain ⟨coefficient, least, _⟩ := contains.leadingPower_bounds positive finite
        unfold Decimal.leadingPower at least
        simp only [Bool.or_eq_true, decide_eq_true_eq] at tooSmall
        omega
  · split
    · next tooLarge =>
        refine iff_of_false (fun same => ?_) (fun contains => ?_)
        · exact absurd (sameMagnitude.mp same).symm (Nat.ne_of_lt finite)
        · obtain ⟨_, _, most⟩ := contains.leadingPower_bounds positive finite
          unfold Decimal.leadingPower at most
          omega
    · have unit : 0 < Nat.pow 10 (-decimal.power).toNat := Nat.pow_pos (by decide)
      rw [ofRatio, sameMagnitude, contains_value_iff, ← nearestMagnitude_eq_iff unit]
      omega

end Number

end Zoop
