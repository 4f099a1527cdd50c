import Mathlib.Algebra.Group.Nat.Defs
import Zoop.Evaluation.Cast

/-!
# Numbers that fit a data type

A number fits a data type if it is whole for a whole type and not below zero for an unsigned type.  What
is made to fit does fit, and so does a literal without a point: the number nearest to a whole number is
whole.
-/

namespace Zoop

namespace Number

/-! ## Whole magnitudes -/

theorem wholeMagnitude_of_le
    {magnitude : Nat} (large : 1075 ≤ magnitude / 0x10000000000000) :
    wholeMagnitude magnitude = magnitude := by
  unfold wholeMagnitude
  dsimp only
  rw [if_neg (by omega), if_pos large]

/-- Between one and `2 ^ 52` a magnitude is whole if the bits that weigh less than one are zero. -/
theorem wholeMagnitude_of_mod_eq_zero
    {magnitude : Nat} (aboveOne : 1023 ≤ magnitude / 0x10000000000000)
    (whole : magnitude % 2 ^ (1075 - magnitude / 0x10000000000000) = 0) :
    wholeMagnitude magnitude = magnitude := by
  unfold wholeMagnitude
  dsimp only
  rw [if_neg (by omega)]
  split
  · rfl
  · rw [Nat.one_shiftLeft, whole, Nat.sub_zero]

/-- What is left of a magnitude is whole. -/
theorem wholeMagnitude_wholeMagnitude (magnitude : Nat) :
    wholeMagnitude (wholeMagnitude magnitude) = wholeMagnitude magnitude := by
  by_cases belowOne : magnitude / 0x10000000000000 < 1023
  · have nothing : wholeMagnitude magnitude = 0 := by
      unfold wholeMagnitude
      dsimp only
      rw [if_pos belowOne]
    rw [nothing]
    rfl
  by_cases large : 1075 ≤ magnitude / 0x10000000000000
  · rw [wholeMagnitude_of_le large, wholeMagnitude_of_le large]
  -- the bits that go away lie below the exponent, so that the exponent stays
  generalize exponentIs : magnitude / 0x10000000000000 = exponent at belowOne large
  have cut : wholeMagnitude magnitude = magnitude - magnitude % 2 ^ (1075 - exponent) := by
    unfold wholeMagnitude
    dsimp only
    rw [exponentIs, if_neg belowOne, if_neg large, Nat.one_shiftLeft]
  have belowExponent : magnitude % 2 ^ (1075 - exponent) ≤ magnitude % 0x10000000000000 := by
    have divides : 2 ^ (1075 - exponent) ∣ 0x10000000000000 :=
      Nat.pow_dvd_pow 2 (show 1075 - exponent ≤ 52 by omega)
    rw [← Nat.mod_mod_of_dvd magnitude divides]
    exact Nat.mod_le _ _
  have sameExponent : (wholeMagnitude magnitude) / 0x10000000000000 = exponent := by
    rw [cut]
    omega
  apply wholeMagnitude_of_mod_eq_zero
  · rw [sameExponent]
    omega
  · rw [sameExponent, cut]
    exact Nat.sub_mod_eq_zero_of_mod_eq (Nat.mod_mod _ _).symm

/-! ## The number nearest to a whole number -/

theorem le_roundDiv (dividend divisor : Nat) : dividend / divisor ≤ roundDiv dividend divisor := by
  unfold roundDiv
  dsimp only
  split
  · exact Nat.le_refl _
  · split <;> omega

theorem roundDiv_mul_right (quotient : Nat) {divisor : Nat} (positive : 0 < divisor) :
    roundDiv (quotient * divisor) divisor = quotient := by
  unfold roundDiv
  dsimp only
  rw [Nat.mul_mod_left, Nat.mul_div_cancel _ positive, if_pos (by omega)]

theorem log2_mul_two_pow {whole : Nat} (positive : whole ≠ 0) (places : Nat) :
    (whole * 2 ^ places).log2 = whole.log2 + places := by
  have nonzero : whole * 2 ^ places ≠ 0 :=
    Nat.mul_ne_zero positive (Nat.ne_of_gt (Nat.two_pow_pos places))
  rw [Nat.log2_eq_iff nonzero]
  constructor
  · rw [Nat.pow_add]
    exact Nat.mul_le_mul_right _ (Nat.log2_self_le positive)
  · rw [Nat.add_right_comm, Nat.pow_add]
    exact Nat.mul_lt_mul_of_pos_right Nat.lt_log2_self (Nat.two_pow_pos places)

/-- Rounding to fifty-three bits keeps the leading bit in its place. -/
theorem le_roundDiv_scaled
    {whole bits : Nat} (leading : 2 ^ bits ≤ whole) (places : Nat) :
    2 ^ 52 ≤ roundDiv (whole * 2 ^ (52 + places)) (2 ^ (bits + places)) := by
  refine Nat.le_trans ?_ (le_roundDiv _ _)
  rw [Nat.le_div_iff_mul_le (Nat.two_pow_pos _)]
  calc 2 ^ 52 * 2 ^ (bits + places)
      = 2 ^ bits * 2 ^ (52 + places) := by
        rw [← Nat.pow_add, ← Nat.pow_add, Nat.add_left_comm]
    _ ≤ whole * 2 ^ (52 + places) := Nat.mul_le_mul_right _ leading

/-- A whole number of at most fifty-three bits is not rounded at all. -/
theorem roundDiv_scaled
    (whole : Nat) {bits : Nat} (few : bits ≤ 52) (places : Nat) :
    roundDiv (whole * 2 ^ (52 + places)) (2 ^ (bits + places)) = whole * 2 ^ (52 - bits) := by
  have split : whole * 2 ^ (52 + places) = whole * 2 ^ (52 - bits) * 2 ^ (bits + places) := by
    rw [Nat.mul_assoc, ← Nat.pow_add]
    congr 2
    omega
  rw [split, roundDiv_mul_right _ (Nat.two_pow_pos _)]

/-- A magnitude that is made of the exponent and the bits of a whole number is whole. -/
theorem wholeMagnitude_of_bits
    {whole bits : Nat} (leading : 2 ^ bits ≤ whole) (next : whole < 2 ^ (bits + 1))
    (few : bits ≤ 52) :
    wholeMagnitude ((bits + 1022) * 2 ^ 52 + whole * 2 ^ (52 - bits)) =
      (bits + 1022) * 2 ^ 52 + whole * 2 ^ (52 - bits) := by
  have atLeast : 2 ^ 52 ≤ whole * 2 ^ (52 - bits) := by
    calc 2 ^ 52
        = 2 ^ bits * 2 ^ (52 - bits) := by rw [← Nat.pow_add, Nat.add_sub_of_le few]
      _ ≤ whole * 2 ^ (52 - bits) := Nat.mul_le_mul_right _ leading
  have below : whole * 2 ^ (52 - bits) < 2 ^ 53 := by
    calc whole * 2 ^ (52 - bits)
        < 2 ^ (bits + 1) * 2 ^ (52 - bits) :=
          Nat.mul_lt_mul_of_pos_right next (Nat.two_pow_pos _)
      _ = 2 ^ 53 := by rw [← Nat.pow_add, Nat.add_right_comm, Nat.add_sub_of_le few]
  have exponent :
      ((bits + 1022) * 2 ^ 52 + whole * 2 ^ (52 - bits)) / 0x10000000000000 = bits + 1023 := by
    omega
  apply wholeMagnitude_of_mod_eq_zero
  · rw [exponent]
    omega
  · have places : 1075 - (bits + 1023) = 52 - bits := by omega
    rw [exponent, places, Nat.add_mul_mod_self_right]
    have divides : 2 ^ (52 - bits) ∣ 2 ^ 52 := Nat.pow_dvd_pow 2 (Nat.sub_le 52 bits)
    exact Nat.mod_eq_zero_of_dvd (Nat.dvd_mul_left_of_dvd divides _)

/-- Above zero the shift is that of the leading bit. -/
theorem nearestMagnitude_one {whole : Nat} (positive : whole ≠ 0) :
    ∃ places, nearestMagnitude whole 1 =
      (whole.log2 + 1022) * 2 ^ 52 +
        roundDiv (whole * 2 ^ (52 + places)) (2 ^ (whole.log2 + places)) := by
  unfold nearestMagnitude
  -- the power of two is too large to be computed
  generalize countIs : 1074 = count
  dsimp only
  rw [Nat.div_one, Nat.shiftLeft_eq, log2_mul_two_pow positive, Nat.one_shiftLeft]
  refine ⟨1022, ?_⟩
  have shift : whole.log2 + count - 52 = whole.log2 + 1022 := by omega
  have scale : count = 52 + 1022 := by omega
  have hidden : 0x10000000000000 = 2 ^ 52 := by decide
  rw [shift, ← scale, hidden]

/-- The magnitude nearest to a whole number is whole. -/
theorem wholeMagnitude_nearestMagnitude {whole : Nat} (positive : whole ≠ 0) :
    wholeMagnitude (nearestMagnitude whole 1) = nearestMagnitude whole 1 := by
  obtain ⟨places, nearest⟩ := nearestMagnitude_one positive
  rw [nearest]
  have leading := Nat.log2_self_le positive
  by_cases few : whole.log2 ≤ 52
  · rw [roundDiv_scaled whole few]
    exact wholeMagnitude_of_bits leading Nat.lt_log2_self few
  · have rounded := le_roundDiv_scaled leading places
    apply wholeMagnitude_of_le
    omega

/-! ## Whole numbers -/

theorem truncate_truncate (number : Number) : number.truncate.truncate = number.truncate := by
  simp only [truncate, wholeMagnitude_wholeMagnitude]

theorem truncate_infinity : infinity.truncate = infinity := by
  decide

/-- A literal without a point is whole, or infinite. -/
theorem truncate_ofDigits {text : List Char} (noPoint : '.' ∉ text) :
    (ofDigits text).truncate = ofDigits text := by
  have noneIsPoint : ∀ character ∈ text, decide (character ≠ '.') = true := by
    intro character member
    rw [decide_eq_true_eq]
    rintro rfl
    exact noPoint member
  have wholeOnly : text.takeWhile (· ≠ '.') = text := by
    have taken : (text ++ []).takeWhile (· ≠ '.') = text ++ [].takeWhile (· ≠ '.') :=
      List.takeWhile_append_of_pos noneIsPoint
    rwa [List.append_nil, List.takeWhile_nil, List.append_nil] at taken
  have noFraction : text.dropWhile (· ≠ '.') = [] := by
    have dropped : (text ++ []).dropWhile (· ≠ '.') = [].dropWhile (· ≠ '.') :=
      List.dropWhile_append_of_pos noneIsPoint
    rwa [List.append_nil, List.dropWhile_nil] at dropped
  simp only [ofDigits, wholeOnly, noFraction, List.drop_nil, List.append_nil, List.length_nil]
  unfold ofDecimal
  dsimp only
  split
  · decide
  · next positive =>
      split
      · exact truncate_infinity
      · simp only [Bool.or_eq_true, decide_eq_true_eq, not_or] at positive
        simp only [ofRatio, truncate]
        congr 1
        have oneUnit : Nat.pow 10 (-(-((0 : Nat) : Int))).toNat = 1 := rfl
        have sameUnit : digitsValue text * Nat.pow 10 (-((0 : Nat) : Int)).toNat =
            digitsValue text := Nat.mul_one _
        rw [oneUnit, sameUnit]
        rcases Nat.le_total infiniteMagnitude (nearestMagnitude (digitsValue text) 1) with
          above | below
        · rw [Nat.min_eq_left above]
          decide
        · rw [Nat.min_eq_right below]
          exact wholeMagnitude_nearestMagnitude positive.1

/-! ## Numbers that are not below zero -/

/-- A magnitude with the sign plus is that of a number from zero on. -/
theorem zero_le_of_not_negative
    {number : Number} (plus : number.negative = false)
    (hasValue : number.magnitude ≤ infiniteMagnitude) : zero.le number = true := by
  have rank : number.rank = number.magnitude := by simp [Number.rank, plus]
  have notNaN : number.isNaN = false := by simpa [isNaN] using hasValue
  have zeroNotNaN : zero.isNaN = false := by decide
  have zeroRank : zero.rank = 0 := by decide
  simp [le, notNaN, zeroNotNaN, zeroRank, rank]

theorem isNaN_of_zero_le {number : Number} (atLeast : zero.le number = true) :
    number.isNaN = false := by
  simp only [le, Bool.and_eq_true, Bool.not_eq_true'] at atLeast
  exact atLeast.1.2

theorem zero_le_ofDigits (text : List Char) : zero.le (ofDigits text) = true := by
  unfold ofDigits ofDecimal
  dsimp only
  split
  · decide
  · split
    · decide
    · exact zero_le_of_not_negative rfl (Nat.min_le_left _ _)

theorem zero_le_of_lt {number : Number} (above : zero.lt number = true) :
    zero.le number = true := by
  simp only [lt, le, Bool.and_eq_true, decide_eq_true_eq] at above ⊢
  exact ⟨above.1, Int.le_of_lt above.2⟩

theorem zero_le_atLeastZero (number : Number) : zero.le number.atLeastZero = true := by
  unfold atLeastZero
  split
  · next above => exact zero_le_of_lt above
  · decide

/-- A number with a value that is not below zero is zero or above. -/
theorem zero_le_of_not_lt
    {number : Number} (finite : number.isFinite = true) (notBelow : number.lt zero = false) :
    zero.le number = true := by
  have hasValue : number.isNaN = false := by
    simp only [isFinite, decide_eq_true_eq] at finite
    simp only [isNaN, decide_eq_false_iff_not]
    omega
  have zeroNotNaN : zero.isNaN = false := by decide
  simpa [lt, le, hasValue, zeroNotNaN] using notBelow

end Number

/-! ## Data types -/

/-- A number is one that the data type is for: a whole type has whole numbers, and the value of an
operation without a result, and an unsigned type has numbers from zero on. -/
structure DataType.Fits (type : DataType) (number : Number) : Prop where
  whole : type.isIntegral = true → number.truncate = number ∨ number.isNaN = true
  unsigned : type.isUnsigned = true → Number.zero.le number = true ∧ number.isNaN = false

namespace DataType

/-- A number that is made to fit fits. -/
theorem fits_fit (type : DataType) (number : Number) : type.Fits (type.fit number) := by
  have unsigned : type.isUnsigned = true →
      Number.zero.le (type.fit number) = true ∧ (type.fit number).isNaN = false := by
    intro isUnsigned
    simp only [fit, if_pos isUnsigned]
    have atLeast := Number.zero_le_atLeastZero
      (if type.isIntegral = true then number.truncate else number)
    exact ⟨atLeast, Number.isNaN_of_zero_le atLeast⟩
  refine ⟨?_, unsigned⟩
  intro isIntegral
  simp only [fit, if_pos isIntegral]
  split
  · unfold Number.atLeastZero
    split
    · exact .inl number.truncate_truncate
    · exact .inl (by decide)
  · exact .inl number.truncate_truncate

/-- A line that is read as a number gives one that fits. -/
theorem fits_of_readNumber?
    {type : DataType} {line : String} {number : Number}
    (read : Literal.readNumber? type line = some number) : type.Fits number := by
  obtain ⟨_, accepted⟩ := Option.filter_eq_some_iff.mp read
  simp only [Bool.and_eq_true, Bool.or_eq_true, Bool.not_eq_true'] at accepted
  obtain ⟨⟨finite, whole⟩, unsigned⟩ := accepted
  constructor
  · intro isIntegral
    have isWhole := whole.resolve_left (by simp [isIntegral])
    simp only [Number.isWhole, Bool.and_eq_true, beq_iff_eq] at isWhole
    exact .inl isWhole.2
  · intro isUnsigned
    have notBelow := unsigned.resolve_left (by simp [isUnsigned])
    have atLeast := Number.zero_le_of_not_lt finite notBelow
    exact ⟨atLeast, Number.isNaN_of_zero_le atLeast⟩

end DataType

end Zoop
