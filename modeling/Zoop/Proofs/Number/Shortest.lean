import Zoop.Proofs.Number.Digits

/-!
# Shortest decimals

On each grid of decimals the search looks at the two neighbours of the number only, and one of them lies in
the interval if any decimal of the grid does.  The interval is so wide that a grid of seventeen digits has
such a decimal.  So the search ends at the coarsest grid that has one, and its decimal has no more digits
than any other decimal that is read as the number.
-/

namespace Zoop

namespace Number

namespace ReadBack

/-! ## Grids of whole numbers -/

/-- An interval around a centre that is wider than a part in `10 ^ 16` of the centre. -/
structure Wide (interval : ReadBack) : Prop where
  lower_lt : interval.lower < interval.centre
  lt_upper : interval.centre < interval.upper
  denominator_pos : 0 < interval.denominator
  wide : interval.centre + 10 ^ 16 * interval.lower < 10 ^ 16 * interval.upper

variable {interval : ReadBack}

theorem Wide.rescale (wide : interval.Wide) (power : Int) : (interval.rescale power).Wide := by
  have factor : 0 < Nat.pow 10 (-power).toNat := Nat.pow_pos (by decide)
  constructor
  · exact Nat.mul_lt_mul_of_pos_right wide.lower_lt factor
  · exact Nat.mul_lt_mul_of_pos_right wide.lt_upper factor
  · exact Nat.mul_pos wide.denominator_pos (Nat.pow_pos (by decide))
  · have scaled := Nat.mul_lt_mul_of_pos_right wide.wide factor
    rwa [Nat.add_mul, Nat.mul_assoc, Nat.mul_assoc] at scaled

theorem covers_eq_true_iff {whole : Nat} :
    interval.covers whole = true ↔
      if interval.closed then
        interval.lower ≤ whole * interval.denominator ∧
          whole * interval.denominator ≤ interval.upper
      else
        interval.lower < whole * interval.denominator ∧
          whole * interval.denominator < interval.upper := by
  unfold covers
  dsimp only
  split <;> simp

theorem centre_bounds (positive : 0 < interval.denominator) :
    interval.centre / interval.denominator * interval.denominator ≤ interval.centre ∧
      interval.centre < (interval.centre / interval.denominator + 1) * interval.denominator := by
  have parts := Nat.div_add_mod interval.centre interval.denominator
  have rest := Nat.mod_lt interval.centre positive
  rw [Nat.add_mul, Nat.one_mul, Nat.mul_comm (interval.centre / interval.denominator)]
  omega

/-- What lies between the centre and a whole number in the interval lies in it as well. -/
theorem Wide.covers_of_nearer
    (wide : interval.Wide) {whole nearer : Nat} (covered : interval.covers whole = true)
    (between :
      interval.centre ≤ nearer * interval.denominator ∧
          nearer * interval.denominator ≤ whole * interval.denominator ∨
        whole * interval.denominator ≤ nearer * interval.denominator ∧
          nearer * interval.denominator ≤ interval.centre) :
    interval.covers nearer = true := by
  have lower := wide.lower_lt
  have upper := wide.lt_upper
  rw [covers_eq_true_iff] at covered ⊢
  split at covered
  · next closed =>
      rw [if_pos closed]
      omega
  · next opened =>
      rw [if_neg opened]
      omega

/-- If a whole number lies in the interval, then so does one of the two neighbours of the centre. -/
theorem Wide.covers_neighbour
    (wide : interval.Wide) {whole : Nat} (covered : interval.covers whole = true) :
    interval.covers (interval.centre / interval.denominator) = true ∨
      interval.covers (interval.centre / interval.denominator + 1) = true := by
  obtain ⟨below, above⟩ := centre_bounds wide.denominator_pos
  rcases Nat.lt_or_ge (interval.centre / interval.denominator) whole with after | before
  · exact .inr (wide.covers_of_nearer covered
      (.inl ⟨Nat.le_of_lt above, Nat.mul_le_mul_right _ after⟩))
  · exact .inl (wide.covers_of_nearer covered
      (.inr ⟨Nat.mul_le_mul_right _ before, below⟩))

theorem nearestWhole?_eq_some
    {whole : Nat} (found : interval.nearestWhole? = some whole) :
    interval.covers whole = true ∧
      (whole = interval.centre / interval.denominator ∨
        whole = interval.centre / interval.denominator + 1) := by
  unfold nearestWhole? at found
  dsimp only at found
  split at found
  · next first second =>
      cases found
      split
      · exact ⟨second, .inr rfl⟩
      · exact ⟨first, .inl rfl⟩
  · next first _ =>
      cases found
      exact ⟨first, .inl rfl⟩
  · next _ second =>
      cases found
      exact ⟨second, .inr rfl⟩
  · cases found

theorem Wide.covers_of_nearestWhole?_eq_none
    (wide : interval.Wide) (noneFound : interval.nearestWhole? = none) (whole : Nat) :
    interval.covers whole = false := by
  rw [← Bool.not_eq_true]
  intro covered
  have neighbour := wide.covers_neighbour covered
  unfold nearestWhole? at noneFound
  dsimp only at noneFound
  split at noneFound
  · cases noneFound
  · cases noneFound
  · cases noneFound
  · next first second =>
      rw [first, second] at neighbour
      simp at neighbour

/-- Between two neighbours that lie outside there is room for the whole interval. -/
theorem Wide.centre_lt_of_nearestWhole?_eq_none
    (wide : interval.Wide) (noneFound : interval.nearestWhole? = none) :
    interval.centre < 10 ^ 16 * interval.denominator := by
  obtain ⟨below, above⟩ := centre_bounds wide.denominator_pos
  have first := wide.covers_of_nearestWhole?_eq_none noneFound
    (interval.centre / interval.denominator)
  have second := wide.covers_of_nearestWhole?_eq_none noneFound
    (interval.centre / interval.denominator + 1)
  rw [← Bool.not_eq_true, covers_eq_true_iff] at first second
  generalize interval.centre / interval.denominator = neighbour at *
  rw [Nat.add_mul, Nat.one_mul] at second above
  have lower := wide.lower_lt
  have upper := wide.lt_upper
  have enough := wide.wide
  split at first
  · next closed =>
      rw [if_pos closed] at second
      omega
  · next opened =>
      rw [if_neg opened] at second
      omega

/-! ## Grids of decimals -/

/-- The rational number in the middle of the interval. -/
def middle (interval : ReadBack) : ℚ :=
  interval.centre / interval.denominator

theorem covers_rescale_iff {power : Int} {coefficient : Nat} :
    (interval.rescale power).covers coefficient = true ↔
      interval.Contains (Decimal.value ⟨coefficient, power⟩) := by
  rw [covers_eq_true_iff, contains_value_iff]
  have point : coefficient * (interval.denominator * Nat.pow 10 power.toNat) =
      coefficient * Nat.pow 10 power.toNat * interval.denominator := by
    rw [Nat.mul_comm interval.denominator, Nat.mul_assoc]
  unfold rescale Holds
  dsimp only
  rw [point]

theorem middle_rescale (power : Int) :
    (interval.rescale power).middle = interval.middle / 10 ^ power := by
  rw [ten_zpow]
  unfold middle rescale
  simp only [Nat.pow_eq, Nat.cast_mul, Nat.cast_pow, Nat.cast_ofNat]
  rw [div_div_div_eq]

theorem middle_bounds (positive : 0 < interval.denominator) :
    ((interval.centre / interval.denominator : Nat) : ℚ) ≤ interval.middle ∧
      interval.middle < ((interval.centre / interval.denominator + 1 : Nat) : ℚ) := by
  have isPositive : (0 : ℚ) < interval.denominator := Nat.cast_pos.mpr positive
  obtain ⟨below, above⟩ := centre_bounds positive
  unfold middle
  rw [le_div_iff₀ isPositive, div_lt_iff₀ isPositive]
  exact ⟨by exact_mod_cast below, by exact_mod_cast above⟩

/-- The reciprocal of a middle below one lies between the same powers of ten as its whole part. -/
theorem Wide.reciprocal_bounds
    (wide : interval.Wide) (positive : 0 < interval.centre)
    (belowOne : interval.centre / interval.denominator = 0) :
    (interval.denominator - 1) / interval.centre ≠ 0 ∧
      (interval.denominator - 1) / interval.centre * interval.centre < interval.denominator ∧
      interval.denominator ≤
        ((interval.denominator - 1) / interval.centre + 1) * interval.centre := by
  have smaller := (Nat.div_eq_zero_iff_lt wide.denominator_pos).mp belowOne
  have parts := Nat.div_add_mod (interval.denominator - 1) interval.centre
  have rest := Nat.mod_lt (interval.denominator - 1) positive
  have atLeast : 0 < (interval.denominator - 1) / interval.centre :=
    Nat.div_pos (Nat.le_sub_one_of_lt smaller) positive
  rw [Nat.add_mul, Nat.one_mul, Nat.mul_comm _ interval.centre]
  omega

/-- The exponent of the first digit of the middle. -/
theorem Wide.leadingPower_spec (wide : interval.Wide) :
    (10 : ℚ) ^ interval.leadingPower ≤ interval.middle ∧
      interval.middle < (10 : ℚ) ^ (interval.leadingPower + 1) := by
  have denominator : (0 : ℚ) < interval.denominator := Nat.cast_pos.mpr wide.denominator_pos
  have power : ∀ places : Nat, (0 : ℚ) < 10 ^ places := pow_pos (by decide)
  unfold leadingPower
  dsimp only
  split
  · next belowOne =>
      have positive : 0 < interval.centre := Nat.zero_lt_of_lt wide.lower_lt
      obtain ⟨nonzero, below, above⟩ := wide.reciprocal_bounds positive belowOne
      unfold middle
      generalize (interval.denominator - 1) / interval.centre = reciprocal at *
      have few := lt_pow_digitCount reciprocal
      have many := pow_digitCount_le nonzero
      have digits := digitCount_pos reciprocal
      constructor
      · rw [zpow_neg, zpow_natCast, le_div_iff₀ denominator, inv_mul_le_iff₀ (power _)]
        have product := Nat.mul_le_mul_right interval.centre few
        exact_mod_cast above.trans product
      · rw [show -(digitCount reciprocal : Int) + 1 = -((digitCount reciprocal - 1 : Nat) : Int) by
          omega, zpow_neg, zpow_natCast, div_lt_iff₀ denominator, lt_inv_mul_iff₀ (power _)]
        have product := Nat.mul_le_mul_right interval.centre many
        exact_mod_cast product.trans_lt below
  · next whole =>
      obtain ⟨below, above⟩ := middle_bounds wide.denominator_pos
      generalize interval.centre / interval.denominator = floor at *
      have few := lt_pow_digitCount floor
      have many := pow_digitCount_le whole
      have digits := digitCount_pos floor
      constructor
      · rw [show (digitCount floor : Int) - 1 = ((digitCount floor - 1 : Nat) : Int) by omega,
          zpow_natCast]
        refine le_trans ?_ below
        exact_mod_cast many
      · rw [Int.sub_add_cancel, zpow_natCast]
        refine lt_of_lt_of_le above ?_
        exact_mod_cast few

/-! ## The search -/

/-- The decimal is the nearest one on its grid, and no coarser grid from the given one on has a decimal in
the interval. -/
structure Finds (interval : ReadBack) (start : Int) (decimal : Decimal) : Prop where
  nearest : (interval.rescale decimal.power).nearestWhole? = some decimal.coefficient
  fromStart : decimal.power ≤ start
  first : ∀ power, decimal.power < power → power ≤ start →
    (interval.rescale power).nearestWhole? = none
  soon : interval.leadingPower - 16 ≤ decimal.power

/-- Seventeen digits are enough. -/
theorem Wide.nearestWhole?_ne_none
    (wide : interval.Wide) {power : Int} (fine : power ≤ interval.leadingPower - 16) :
    (interval.rescale power).nearestWhole? ≠ none := by
  intro noneFound
  have small : (interval.rescale power).middle < 10 ^ 16 := by
    have denominator := (wide.rescale power).denominator_pos
    unfold middle
    rw [div_lt_iff₀ (Nat.cast_pos.mpr denominator)]
    exact_mod_cast (wide.rescale power).centre_lt_of_nearestWhole?_eq_none noneFound
  rw [middle_rescale, div_lt_iff₀ (zpow_pos (by decide) _)] at small
  refine absurd small (not_lt.mpr (le_trans ?_ wide.leadingPower_spec.1))
  calc (10 : ℚ) ^ 16 * 10 ^ power
      = 10 ^ (16 + power) := by
        rw [zpow_add₀ (by decide)]
        norm_cast
    _ ≤ 10 ^ interval.leadingPower := by
        rw [zpow_le_zpow_iff_right₀ (by decide)]
        omega

theorem Wide.finds_search
    (wide : interval.Wide) (tries : Nat) {start : Int}
    (enough : start = interval.leadingPower - 16 + tries) :
    interval.Finds start (interval.search (tries + 1) start) := by
  induction tries generalizing start with
  | zero =>
      rw [search]
      split
      · next coefficient found =>
          exact ⟨found, Int.le_refl _, fun _ after before => absurd before (Int.not_le.mpr after),
            by dsimp only; omega⟩
      · next noneFound => exact absurd noneFound (wide.nearestWhole?_ne_none (by omega))
  | succ tries inductionHypothesis =>
      rw [search]
      split
      · next coefficient found =>
          exact ⟨found, Int.le_refl _, fun _ after before => absurd before (Int.not_le.mpr after),
            by dsimp only; omega⟩
      · next noneFound =>
          have next : start - 1 = interval.leadingPower - 16 + tries := by omega
          obtain ⟨nearest, fromStart, first, soon⟩ := inductionHypothesis next
          refine ⟨nearest, by omega, fun power after before => ?_, soon⟩
          rcases Int.lt_or_eq_of_le before with later | rfl
          · exact first power after (by omega)
          · exact noneFound

theorem Finds.contains
    {start : Int} {decimal : Decimal} (finds : interval.Finds start decimal) :
    interval.Contains decimal.value :=
  covers_rescale_iff.mp (nearestWhole?_eq_some finds.nearest).1

/-! ## The fewest digits -/

section Fewest

variable {decimal : Decimal}

/-- The coefficient has the digits between the grid and the first digit of the middle, and one more only
if it is a power of ten. -/
theorem Finds.coefficient_bounds
    {start : Int} (finds : interval.Finds start decimal) (wide : interval.Wide) {places : Nat}
    (placesAre : (places : Int) = interval.leadingPower - decimal.power) :
    10 ^ places ≤ decimal.coefficient ∧ decimal.coefficient ≤ 10 ^ (places + 1) := by
  obtain ⟨atLeast, less⟩ := wide.leadingPower_spec
  have unit : (0 : ℚ) < 10 ^ decimal.power := zpow_pos (by decide) _
  have scaled : (interval.rescale decimal.power).middle = interval.middle / 10 ^ decimal.power :=
    middle_rescale decimal.power
  obtain ⟨below, above⟩ := middle_bounds (wide.rescale decimal.power).denominator_pos
  have many : (10 : ℚ) ^ places ≤ (interval.rescale decimal.power).middle := by
    rw [scaled, le_div_iff₀ unit, ← zpow_natCast, ← zpow_add₀ (by decide), placesAre,
      Int.sub_add_cancel]
    exact atLeast
  have few : (interval.rescale decimal.power).middle < (10 : ℚ) ^ (places + 1) := by
    rw [scaled, div_lt_iff₀ unit, ← zpow_natCast, ← zpow_add₀ (by decide), Nat.cast_succ,
      placesAre, Int.add_right_comm, Int.sub_add_cancel]
    exact less
  have many := many.trans_lt above
  have few := below.trans_lt few
  have neighbour := (nearestWhole?_eq_some finds.nearest).2
  norm_cast at many few
  omega

theorem Contains.between
    {low value high : ℚ} (containsLow : interval.Contains low) (containsHigh : interval.Contains high)
    (above : low ≤ value) (below : value ≤ high) : interval.Contains value := by
  have unit : (0 : ℚ) ≤ interval.denominator := Nat.cast_nonneg _
  have above := mul_le_mul_of_nonneg_right above unit
  have below := mul_le_mul_of_nonneg_right below unit
  unfold Contains at *
  split at containsLow
  · next closed =>
      rw [if_pos closed] at containsHigh ⊢
      exact ⟨containsLow.1.trans above, below.trans containsHigh.2⟩
  · next opened =>
      rw [if_neg opened] at containsHigh ⊢
      exact ⟨containsLow.1.trans_le above, below.trans_lt containsHigh.2⟩

/-- If the interval has a decimal that is as coarse as the first digit of the middle, then one digit is
enough. -/
theorem Finds.single
    (finds : interval.Finds interval.leadingPower decimal) (wide : interval.Wide)
    {coefficient : Nat} {power : Int} (coarse : interval.leadingPower ≤ power)
    (contains : interval.Contains (Decimal.value ⟨coefficient, power⟩)) :
    decimal.digits.length ≤ 1 := by
  have onGrid : Decimal.value ⟨coefficient, power⟩ =
      Decimal.value
        ⟨coefficient * 10 ^ (power - interval.leadingPower).toNat, interval.leadingPower⟩ := by
    have split : power = (power - interval.leadingPower).toNat + interval.leadingPower := by omega
    unfold Decimal.value
    dsimp only
    conv_lhs => rw [split, zpow_add₀ (by decide), zpow_natCast, ← mul_assoc]
    rw [Nat.cast_mul, Nat.cast_pow, Nat.cast_ofNat]
  rw [onGrid, ← covers_rescale_iff] at contains
  have found : (interval.rescale interval.leadingPower).nearestWhole? ≠ none := by
    intro noneFound
    have missed := (wide.rescale _).covers_of_nearestWhole?_eq_none noneFound
      (coefficient * 10 ^ (power - interval.leadingPower).toNat)
    rw [contains] at missed
    cases missed
  have atStart : ¬decimal.power < interval.leadingPower := fun after =>
    found (finds.first _ after (Int.le_refl _))
  have fromStart := finds.fromStart
  have sameGrid : ((0 : Nat) : Int) = interval.leadingPower - decimal.power := by omega
  exact Decimal.length_digits_le (by decide) (finds.coefficient_bounds wide sameGrid).2

/-- No decimal in the interval has fewer digits than the one that the search finds. -/
theorem Finds.length_digits_le
    (finds : interval.Finds interval.leadingPower decimal) (wide : interval.Wide)
    {other : Decimal} (positive : other.coefficient ≠ 0)
    (contains : interval.Contains other.value) :
    decimal.digits.length ≤ other.digits.length := by
  have someDigits := List.length_pos_iff.mpr (Decimal.digits_ne_nil positive)
  obtain ⟨zeros, _, count⟩ := decimal.exists_zeros
  have onGrid : interval.Contains (Decimal.value
      ⟨digitsValue other.digits, other.leadingPower - other.digits.length + 1⟩) := by
    rw [other.value_eq_digits] at contains
    exact contains
  rcases le_or_gt interval.leadingPower (other.leadingPower - other.digits.length + 1) with
    coarse | fine
  · exact (finds.single wide coarse onGrid).trans someDigits
  have notCoarser : ¬decimal.power < other.leadingPower - other.digits.length + 1 := by
    intro after
    have missed := (wide.rescale _).covers_of_nearestWhole?_eq_none
      (finds.first _ after (Int.le_of_lt fine)) (digitsValue other.digits)
    rw [covers_rescale_iff.mpr onGrid] at missed
    cases missed
  have leadingIs : decimal.leadingPower =
      decimal.power + digitCount decimal.coefficient - 1 := rfl
  rcases le_or_gt decimal.leadingPower other.leadingPower with asLarge | smaller
  · omega
  -- the power of ten of the first digit lies between the two decimals, and it has one digit
  have places := Int.toNat_of_nonneg (Int.sub_nonneg_of_le finds.fromStart)
  have many := (finds.coefficient_bounds wide places).1
  have nonzero : decimal.coefficient ≠ 0 :=
    Nat.ne_of_gt ((Nat.pow_pos (by decide)).trans_le many)
  have power : interval.leadingPower ≤ decimal.leadingPower := by
    have digits := (Nat.pow_lt_pow_iff_right (by decide)).mp
      (many.trans_lt (lt_pow_digitCount decimal.coefficient))
    omega
  have between : interval.Contains (Decimal.value ⟨1, decimal.leadingPower⟩) := by
    rw [Decimal.value, Nat.cast_one, one_mul]
    refine contains.between finds.contains ?_ (decimal.pow_leadingPower_le nonzero)
    exact other.value_lt.le.trans (zpow_le_zpow_right₀ (by decide) smaller)
  exact (finds.single wide power between).trans someDigits

end Fewest

end ReadBack

/-! ## The shortest decimal of a number -/

variable {magnitude : Nat}

theorem wide_readBack (positive : 0 < magnitude) : (readBack magnitude).Wide := by
  have unit : 0 < 2 ^ scale magnitude := Nat.two_pow_pos _
  have atLeast := le_steps positive
  have atMost := steps_le magnitude
  have centre : (readBack magnitude).centre = 4 * steps magnitude := rfl
  have upper := readBack_upper magnitude
  rcases readBack_lower magnitude with ⟨begins, lower⟩ | ⟨_, lower⟩
  · have least : steps magnitude = 2 ^ 52 * 2 ^ scale magnitude := by rw [steps_eq, begins.2]
    exact ⟨by omega, by omega, denominator_pos magnitude, by omega⟩
  · exact ⟨by omega, by omega, denominator_pos magnitude, by omega⟩

theorem finds_shortest (positive : 0 < magnitude) :
    (readBack magnitude).Finds (readBack magnitude).leadingPower (shortest magnitude) :=
  (wide_readBack positive).finds_search 16 (by omega)

/-- The shortest decimal has at most seventeen digits. -/
theorem length_digits_shortest (positive : 0 < magnitude) :
    (shortest magnitude).digits.length ≤ 17 := by
  have finds := finds_shortest positive
  have places := Int.toNat_of_nonneg (Int.sub_nonneg_of_le finds.fromStart)
  have soon := finds.soon
  have few := (finds.coefficient_bounds (wide_readBack positive) places).2
  exact (Decimal.length_digits_le (by omega) few).trans (by omega)

end Number

/-- A decimal that is read as a number and has as few digits as such a decimal can have. -/
structure Decimal.IsShortestOf (decimal : Decimal) (number : Number) : Prop where
  readsBack : Number.ofDecimal number.negative decimal.coefficient decimal.power = number
  fewest : ∀ other : Decimal,
    Number.ofDecimal number.negative other.coefficient other.power = number →
      decimal.digits.length ≤ other.digits.length
  significant : AreSignificant decimal.digits

namespace Number

variable {number : Number}

theorem magnitude_pos (nonzero : number.isZero = false) : 0 < number.magnitude :=
  Nat.pos_of_ne_zero (beq_eq_false_iff_ne.mp nonzero)

theorem contains_shortest (nonzero : number.isZero = false) :
    (readBack number.magnitude).Contains (shortest number.magnitude).value :=
  (finds_shortest (magnitude_pos nonzero)).contains

theorem isShortestOf_shortest
    (finite : number.isFinite = true) (nonzero : number.isZero = false) :
    (shortest number.magnitude).IsShortestOf number := by
  have positive := magnitude_pos nonzero
  have isFinite : number.magnitude < infiniteMagnitude := of_decide_eq_true finite
  have contains := contains_shortest nonzero
  refine ⟨(ofDecimal_eq_iff finite nonzero _).mpr contains, fun other readsBack => ?_,
    Decimal.areSignificant_digits (contains.leadingPower_bounds positive isFinite).1⟩
  have contains := (ofDecimal_eq_iff finite nonzero other).mp readsBack
  have someDigits := (contains.leadingPower_bounds positive isFinite).1
  exact (finds_shortest positive).length_digits_le (wide_readBack positive) someDigits contains

end Number

end Zoop
