import Mathlib.Algebra.Order.Field.Rat
import Mathlib.Tactic.Ring
import Zoop.Number.Rounding
import Zoop.Number.Shortest

/-!
# Rounding to the nearest number

The whole number nearest to a quotient, the magnitude nearest to a fraction, and the fractions that are
rounded to a given magnitude.
-/

namespace Zoop

namespace Number

/-! ## Rounding quotients -/

/-- A whole number is at most a half away from a quotient, and less than that if it is odd. -/
structure IsNearest (dividend divisor whole : Nat) : Prop where
  below : 2 * (whole * divisor) ≤ 2 * dividend + divisor
  above : 2 * dividend ≤ 2 * (whole * divisor) + divisor
  even : whole % 2 = 0 ∨
    2 * (whole * divisor) < 2 * dividend + divisor ∧ 2 * dividend < 2 * (whole * divisor) + divisor

/-- A whole number at most a half away from a quotient is one of its two neighbours. -/
theorem IsNearest.neighbour
    {dividend divisor whole : Nat} (positive : 0 < divisor)
    (nearest : IsNearest dividend divisor whole) :
    whole = dividend / divisor ∨ whole = dividend / divisor + 1 := by
  have parts := Nat.div_add_mod dividend divisor
  have rest := Nat.mod_lt dividend positive
  have below := nearest.below
  have above := nearest.above
  have atLeast : dividend / divisor < whole + 1 := by
    apply Nat.lt_of_mul_lt_mul_left (a := divisor)
    rw [Nat.mul_succ, Nat.mul_comm divisor whole]
    omega
  have atMost : whole < dividend / divisor + 2 := by
    apply Nat.lt_of_mul_lt_mul_left (a := divisor)
    rw [Nat.mul_add, Nat.mul_comm divisor whole]
    omega
  omega

/-- A quotient below a whole number is not rounded beyond it. -/
theorem IsNearest.whole_le
    {dividend divisor whole bound : Nat} (nearest : IsNearest dividend divisor whole)
    (below : dividend < bound * divisor) : whole ≤ bound := by
  by_contra beyond
  have product := Nat.mul_le_mul_right divisor (Nat.not_le.mp beyond)
  rw [Nat.succ_mul bound] at product
  have half := nearest.below
  omega

/-- A quotient from a whole number on is not rounded below it. -/
theorem IsNearest.le_whole
    {dividend divisor whole bound : Nat} (positive : 0 < divisor)
    (nearest : IsNearest dividend divisor whole)
    (atLeast : bound * divisor ≤ dividend) : bound ≤ whole := by
  by_contra beyond
  have product := Nat.mul_le_mul_right divisor (Nat.not_le.mp beyond)
  rw [Nat.succ_mul whole] at product
  have half := nearest.above
  omega

theorem roundDiv_eq
    {dividend divisor whole : Nat} (positive : 0 < divisor)
    (nearest : IsNearest dividend divisor whole) : roundDiv dividend divisor = whole := by
  have parts := Nat.div_add_mod dividend divisor
  have rest := Nat.mod_lt dividend positive
  obtain ⟨below, above, even⟩ := nearest
  have neighbour := IsNearest.neighbour positive ⟨below, above, even⟩
  unfold roundDiv
  dsimp only
  generalize dividend / divisor = quotient at *
  generalize dividend % divisor = remainder at *
  rw [Nat.mul_comm] at parts
  rcases neighbour with rfl | rfl
  · split
    · rfl
    · split <;> omega
  · rw [Nat.succ_mul quotient divisor] at below above even
    split
    · omega
    · split <;> omega

/-- Rounding gives the nearest whole number. -/
theorem isNearest_roundDiv
    (dividend : Nat) {divisor : Nat} (positive : 0 < divisor) :
    IsNearest dividend divisor (roundDiv dividend divisor) := by
  have parts := Nat.div_add_mod dividend divisor
  have rest := Nat.mod_lt dividend positive
  unfold roundDiv
  dsimp only
  generalize dividend / divisor = quotient at *
  generalize dividend % divisor = remainder at *
  rw [Nat.mul_comm] at parts
  split
  · exact ⟨by omega, by omega, .inr ⟨by omega, by omega⟩⟩
  · split
    · refine ⟨?_, ?_, .inr ⟨?_, ?_⟩⟩ <;>
      · rw [Nat.succ_mul quotient divisor]
        omega
    · rcases Nat.mod_two_eq_zero_or_one quotient with even | odd
      · rw [even, Nat.add_zero]
        exact ⟨by omega, by omega, .inl even⟩
      · rw [odd]
        refine ⟨?_, ?_, .inl (by omega)⟩ <;>
        · rw [Nat.succ_mul quotient divisor]
          omega

/-! ## The leading bits of quotients -/

/-- A quotient has at most fifty-three bits above a shift, and all of them unless the shift is zero. -/
structure IsShift (dividend divisor shift : Nat) : Prop where
  below : dividend < 2 ^ (53 + shift) * divisor
  leading : shift = 0 ∨ 2 ^ (52 + shift) * divisor ≤ dividend

theorem shift_eq
    {dividend divisor shift : Nat} (positive : 0 < divisor)
    (isShift : IsShift dividend divisor shift) : (dividend / divisor).log2 - 52 = shift := by
  have below := (Nat.div_lt_iff_lt_mul positive).mpr isShift.below
  rcases isShift.leading with rfl | leading
  · by_cases nothing : dividend / divisor = 0
    · rw [nothing, Nat.log2_zero]
    · have few := (Nat.log2_lt nothing).mpr below
      omega
  · have leading := (Nat.le_div_iff_mul_le positive).mpr leading
    have nonzero : dividend / divisor ≠ 0 :=
      Nat.ne_of_gt (Nat.lt_of_lt_of_le (Nat.two_pow_pos _) leading)
    have log := (Nat.log2_eq_iff nonzero).mpr
      ⟨leading, by rwa [show 52 + shift + 1 = 53 + shift by omega]⟩
    omega

theorem isShift_shift
    (dividend : Nat) {divisor : Nat} (positive : 0 < divisor) :
    IsShift dividend divisor ((dividend / divisor).log2 - 52) := by
  constructor
  · apply (Nat.div_lt_iff_lt_mul positive).mp
    exact Nat.lt_of_lt_of_le Nat.lt_log2_self (Nat.pow_le_pow_right Nat.two_pos (by omega))
  · by_cases few : (dividend / divisor).log2 ≤ 52
    · exact .inl (by omega)
    · refine .inr ((Nat.le_div_iff_mul_le positive).mp ?_)
      have nonzero : dividend / divisor ≠ 0 := by
        intro nothing
        rw [nothing, Nat.log2_zero] at few
        omega
      rw [show 52 + ((dividend / divisor).log2 - 52) = (dividend / divisor).log2 by omega]
      exact Nat.log2_self_le nonzero

/-! ## Scales and mantissas -/

/-- A magnitude has its exponent in front of its fraction. -/
theorem magnitude_eq (magnitude : Nat) :
    magnitude = scale magnitude * 2 ^ 52 + mantissa magnitude := by
  unfold scale mantissa
  split <;> omega

theorem mantissa_lt (magnitude : Nat) : mantissa magnitude < 2 ^ 53 := by
  unfold mantissa
  split <;> omega

theorem mantissa_pos {magnitude : Nat} (positive : 0 < magnitude) : 0 < mantissa magnitude := by
  unfold mantissa
  split <;> omega

theorem le_mantissa {magnitude : Nat} (scaled : scale magnitude ≠ 0) :
    2 ^ 52 ≤ mantissa magnitude := by
  unfold scale at scaled
  unfold mantissa
  split <;> omega

/-- A magnitude is known from its scale and its mantissa. -/
theorem scale_mantissa_unique
    {magnitude shift whole : Nat} (parts : magnitude = shift * 2 ^ 52 + whole)
    (few : whole < 2 ^ 53) (leading : shift = 0 ∨ 2 ^ 52 ≤ whole) :
    scale magnitude = shift ∧ mantissa magnitude = whole := by
  unfold scale mantissa
  split <;> omega

/-- The magnitude is the least of its scale, so that the numbers below it lie twice as dense. -/
def BeginsScale (magnitude : Nat) : Prop :=
  scale magnitude ≠ 0 ∧ mantissa magnitude = 2 ^ 52

theorem steps_eq (magnitude : Nat) :
    steps magnitude = mantissa magnitude * 2 ^ scale magnitude :=
  Nat.shiftLeft_eq _ _

theorem le_steps {magnitude : Nat} (positive : 0 < magnitude) :
    2 ^ scale magnitude ≤ steps magnitude := by
  rw [steps_eq]
  exact Nat.le_mul_of_pos_left _ (mantissa_pos positive)

theorem steps_le (magnitude : Nat) :
    steps magnitude ≤ (2 ^ 53 - 1) * 2 ^ scale magnitude := by
  rw [steps_eq]
  exact Nat.mul_le_mul_right _ (Nat.le_sub_one_of_lt (mantissa_lt magnitude))

/-! ## The magnitude nearest to a quotient -/

/-- The mantissa of a magnitude is nearest to a quotient in units of the last bit, and where the numbers
below lie twice as dense, the quotient is at most half as far below. -/
structure RoundsTo (dividend divisor magnitude : Nat) : Prop where
  nearest : IsNearest dividend (2 ^ scale magnitude * divisor) (mantissa magnitude)
  fromBelow : BeginsScale magnitude →
    4 * (2 ^ 52 * (2 ^ scale magnitude * divisor)) ≤
      4 * dividend + 2 ^ scale magnitude * divisor

section Quotients

variable {dividend divisor shift whole : Nat}

theorem two_pow_succ_mul (shift divisor : Nat) :
    2 ^ (shift + 1) * divisor = 2 * (2 ^ shift * divisor) := by
  rw [Nat.pow_succ, Nat.mul_comm _ 2, Nat.mul_assoc]

/-- A quotient that is cut to fifty-three bits is rounded to the magnitude that results, also if a carry
runs into the exponent. -/
theorem roundsTo_of_shift
    (positive : 0 < divisor) (isShift : IsShift dividend divisor shift)
    (nearest : IsNearest dividend (2 ^ shift * divisor) whole) :
    RoundsTo dividend divisor (shift * 2 ^ 52 + whole) := by
  have unit : 0 < 2 ^ shift * divisor := Nat.mul_pos (Nat.two_pow_pos shift) positive
  obtain ⟨below, leading⟩ := isShift
  rw [Nat.pow_add, Nat.mul_assoc] at below leading
  have few : whole ≤ 2 ^ 53 := nearest.whole_le below
  have many : shift = 0 ∨ 2 ^ 52 ≤ whole := leading.imp id (nearest.le_whole unit)
  rcases Nat.lt_or_eq_of_le few with fits | carries
  · obtain ⟨scaleIs, mantissaIs⟩ : scale (shift * 2 ^ 52 + whole) = shift ∧
        mantissa (shift * 2 ^ 52 + whole) = whole :=
      scale_mantissa_unique rfl fits many
    refine ⟨by rwa [scaleIs, mantissaIs], fun begins => ?_⟩
    rw [BeginsScale, scaleIs] at begins
    rw [scaleIs]
    have leading := leading.resolve_left begins.1
    omega
  · obtain ⟨scaleIs, mantissaIs⟩ : scale (shift * 2 ^ 52 + whole) = shift + 1 ∧
        mantissa (shift * 2 ^ 52 + whole) = 2 ^ 52 :=
      scale_mantissa_unique (by omega) (by decide) (.inr (Nat.le_refl _))
    have half := nearest.below
    rw [carries] at half
    constructor
    · rw [scaleIs, mantissaIs, two_pow_succ_mul shift divisor]
      exact ⟨by omega, by omega, .inl (by decide)⟩
    · intro _
      rw [scaleIs, two_pow_succ_mul shift divisor]
      omega

/-- A quotient just below the least magnitude of a scale is cut one bit further. -/
theorem shift_of_fromBelow
    (below : dividend < 2 ^ 52 * (2 ^ (shift + 1) * divisor))
    (near : 4 * (2 ^ 52 * (2 ^ (shift + 1) * divisor)) ≤
      4 * dividend + 2 ^ (shift + 1) * divisor) :
    IsShift dividend divisor shift ∧ IsNearest dividend (2 ^ shift * divisor) (2 ^ 53) := by
  rw [two_pow_succ_mul shift divisor] at below near
  refine ⟨⟨?_, .inr ?_⟩, ⟨?_, ?_, .inl (by decide)⟩⟩
  · rw [Nat.pow_add, Nat.mul_assoc]
    omega
  · rw [Nat.pow_add, Nat.mul_assoc]
    omega
  · omega
  · omega

/-- A quotient that is rounded to a magnitude is cut to fifty-three bits that give this magnitude. -/
theorem RoundsTo.exists_shift
    {magnitude : Nat} (positive : 0 < divisor) (roundsTo : RoundsTo dividend divisor magnitude) :
    ∃ shift whole, magnitude = shift * 2 ^ 52 + whole ∧ IsShift dividend divisor shift ∧
      IsNearest dividend (2 ^ shift * divisor) whole := by
  obtain ⟨nearest, fromBelow⟩ := roundsTo
  have unit : 0 < 2 ^ scale magnitude * divisor := Nat.mul_pos (Nat.two_pow_pos _) positive
  by_cases leading :
      scale magnitude = 0 ∨ 2 ^ 52 * (2 ^ scale magnitude * divisor) ≤ dividend
  · refine ⟨scale magnitude, mantissa magnitude, magnitude_eq magnitude, ⟨?_, ?_⟩, nearest⟩
    · rw [Nat.pow_add, Nat.mul_assoc]
      by_contra atLeast
      exact absurd (nearest.le_whole unit (Nat.not_lt.mp atLeast))
        (Nat.not_le.mpr (mantissa_lt magnitude))
    · rwa [Nat.pow_add, Nat.mul_assoc]
  · obtain ⟨scaled, below⟩ := not_or.mp leading
    have below := Nat.not_le.mp below
    have begins : BeginsScale magnitude :=
      ⟨scaled, Nat.le_antisymm (nearest.whole_le below) (le_mantissa scaled)⟩
    have near := fromBelow begins
    have parts := magnitude_eq magnitude
    obtain ⟨shift, shiftIs⟩ := Nat.exists_eq_succ_of_ne_zero scaled
    rw [shiftIs] at below near parts
    rw [begins.2] at parts
    obtain ⟨isShift, carries⟩ := shift_of_fromBelow below near
    have carried : (shift + 1) * 2 ^ 52 + 2 ^ 52 = shift * 2 ^ 52 + 2 ^ 53 := by omega
    exact ⟨shift, 2 ^ 53, parts.trans carried, isShift, carries⟩

end Quotients

section Fractions

variable {numerator denominator magnitude : Nat}

theorem nearestMagnitude_of_shift
    {shift whole : Nat} (positive : 0 < denominator)
    (isShift : IsShift (numerator * 2 ^ 1074) denominator shift)
    (nearest : IsNearest (numerator * 2 ^ 1074) (2 ^ shift * denominator) whole) :
    nearestMagnitude numerator denominator = shift * 2 ^ 52 + whole := by
  have unit : 0 < 2 ^ shift * denominator := Nat.mul_pos (Nat.two_pow_pos shift) positive
  have hidden : 0x10000000000000 = 2 ^ 52 := by decide
  unfold nearestMagnitude
  -- the power of two is too large to be computed
  generalize 1074 = count at *
  dsimp only
  rw [Nat.shiftLeft_eq, shift_eq positive isShift, Nat.shiftLeft_eq, Nat.mul_comm denominator,
    roundDiv_eq unit nearest, hidden]

/-- The nearest magnitude is the one that the fraction is rounded to, in steps of `2 ^ -1074`. -/
theorem nearestMagnitude_eq_iff_roundsTo (positive : 0 < denominator) :
    nearestMagnitude numerator denominator = magnitude ↔
      RoundsTo (numerator * 2 ^ 1074) denominator magnitude := by
  constructor
  · rintro rfl
    have isShift := isShift_shift (numerator * 2 ^ 1074) positive
    generalize (numerator * 2 ^ 1074 / denominator).log2 - 52 = shift at isShift
    have nearest := isNearest_roundDiv (numerator * 2 ^ 1074)
      (Nat.mul_pos (Nat.two_pow_pos shift) positive)
    rw [nearestMagnitude_of_shift positive isShift nearest]
    exact roundsTo_of_shift positive isShift nearest
  · intro roundsTo
    obtain ⟨shift, whole, parts, isShift, nearest⟩ := roundsTo.exists_shift positive
    rw [nearestMagnitude_of_shift positive isShift nearest, parts]

/-! ## The interval of a magnitude -/

theorem readBack_lower (magnitude : Nat) :
    (BeginsScale magnitude ∧
      (readBack magnitude).lower = 4 * steps magnitude - 2 ^ scale magnitude) ∨
    (¬BeginsScale magnitude ∧
      (readBack magnitude).lower = 4 * steps magnitude - 2 * 2 ^ scale magnitude) := by
  have beginsIff : (magnitude % 0x10000000000000 = 0 && 1 < magnitude / 0x10000000000000) = true ↔
      BeginsScale magnitude := by
    unfold BeginsScale scale mantissa
    simp only [Bool.and_eq_true, decide_eq_true_eq]
    split <;> omega
  unfold readBack
  simp only [Nat.one_shiftLeft]
  split
  · next dense => exact .inl ⟨beginsIff.mp dense, rfl⟩
  · next dense => exact .inr ⟨fun begins => dense (beginsIff.mpr begins), rfl⟩

theorem readBack_upper (magnitude : Nat) :
    (readBack magnitude).upper = 4 * steps magnitude + 2 * 2 ^ scale magnitude := by
  unfold readBack
  dsimp only
  rw [Nat.one_shiftLeft]

theorem readBack_denominator (magnitude : Nat) :
    (readBack magnitude).denominator = 4 * 2 ^ 1074 := by
  have quarters : ∀ places, 1 <<< (2 + places) = 4 * 2 ^ places := by
    intro places
    rw [Nat.one_shiftLeft, Nat.pow_add]
  exact quarters 1074

theorem readBack_closed_iff : (readBack magnitude).closed = true ↔ mantissa magnitude % 2 = 0 := by
  have parts := magnitude_eq magnitude
  simp only [readBack, beq_iff_eq]
  omega

/-- A fraction lies in the interval. -/
def ReadBack.Holds (interval : ReadBack) (numerator denominator : Nat) : Prop :=
  if interval.closed then
    interval.lower * denominator ≤ numerator * interval.denominator ∧
      numerator * interval.denominator ≤ interval.upper * denominator
  else
    interval.lower * denominator < numerator * interval.denominator ∧
      numerator * interval.denominator < interval.upper * denominator

/-- The interval of a magnitude has the fractions that are rounded to it. -/
theorem holds_readBack_iff :
    (readBack magnitude).Holds numerator denominator ↔
      RoundsTo (numerator * 2 ^ 1074) denominator magnitude := by
  have quarters : numerator * (readBack magnitude).denominator = 4 * (numerator * 2 ^ 1074) := by
    rw [readBack_denominator, Nat.mul_left_comm]
  have product : steps magnitude * denominator =
      mantissa magnitude * (2 ^ scale magnitude * denominator) := by
    rw [steps_eq, Nat.mul_assoc]
  unfold ReadBack.Holds
  rw [quarters, readBack_upper, Nat.add_mul, Nat.mul_assoc, product, Nat.mul_assoc]
  generalize numerator * 2 ^ 1074 = scaled
  rcases readBack_lower magnitude with ⟨begins, lower⟩ | ⟨begins, lower⟩
  · have even : mantissa magnitude % 2 = 0 := by
      rw [begins.2]
      decide
    rw [if_pos (readBack_closed_iff.mpr even), lower, Nat.sub_mul, Nat.mul_assoc, product]
    constructor
    · rintro ⟨below, above⟩
      refine ⟨⟨by omega, by omega, .inl even⟩, fun _ => ?_⟩
      rw [← begins.2]
      omega
    · rintro ⟨nearest, fromBelow⟩
      have below := fromBelow begins
      have above := nearest.above
      rw [← begins.2] at below
      exact ⟨by omega, by omega⟩
  · rw [lower, Nat.sub_mul, Nat.mul_assoc, Nat.mul_assoc, product]
    by_cases even : mantissa magnitude % 2 = 0
    · rw [if_pos (readBack_closed_iff.mpr even)]
      constructor
      · rintro ⟨below, above⟩
        exact ⟨⟨by omega, by omega, .inl even⟩, fun begun => absurd begun begins⟩
      · rintro ⟨⟨below, above, _⟩, _⟩
        exact ⟨by omega, by omega⟩
    · have atLeast : 2 ^ scale magnitude * denominator ≤
          mantissa magnitude * (2 ^ scale magnitude * denominator) :=
        Nat.le_mul_of_pos_left _ (by omega)
      rw [if_neg (mt readBack_closed_iff.mp even)]
      constructor
      · rintro ⟨below, above⟩
        exact ⟨⟨by omega, by omega, .inr ⟨by omega, by omega⟩⟩,
          fun begun => absurd begun begins⟩
      · rintro ⟨⟨_, _, strict⟩, _⟩
        obtain ⟨below, above⟩ := strict.resolve_left even
        exact ⟨by omega, by omega⟩

/-- The magnitude nearest to a fraction is the one whose interval the fraction lies in. -/
theorem nearestMagnitude_eq_iff (positive : 0 < denominator) :
    nearestMagnitude numerator denominator = magnitude ↔
      (readBack magnitude).Holds numerator denominator := by
  rw [holds_readBack_iff, nearestMagnitude_eq_iff_roundsTo positive]

end Fractions

end Number

end Zoop
