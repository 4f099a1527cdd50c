import Zoop.Evaluation.Cast
import Zoop.Proofs.Number.Fit
import Zoop.Proofs.Number.Shortest

/-!
# Printed numbers

A printed number is the text of its shortest decimal: the text stands for the same rational number, however
it is laid out, and typing it gives the number back for every data type that the number fits.
-/

namespace Zoop

/-! ## Laying out digits -/

namespace Layout

/-- The exponent of a printed number. -/
def exponentMark (power : Int) : List Char :=
  'e' :: (if power < 0 then '-' else '+') :: Nat.toDigits 10 power.natAbs

/-- The ways in which a number is printed whose first digit has a given power of ten. -/
inductive IsPrinted (digits : List Char) (power : Int) : List Char → Prop
  | whole (zeros : Nat) (ends : digits.length + zeros = power + 1) (few : power ≤ 20) :
      IsPrinted digits power (digits ++ List.replicate zeros '0')
  | pointed (front back : List Char) (parts : digits = front ++ back)
      (someFront : front ≠ []) (someBack : back ≠ []) (place : front.length = power + 1)
      (few : power ≤ 20) :
      IsPrinted digits power (front ++ '.' :: back)
  | small (zeros : Nat) (place : power = -1 - zeros) (few : -6 ≤ power) :
      IsPrinted digits power ('0' :: '.' :: (List.replicate zeros '0' ++ digits))
  | scaled (first : Char) (single : digits = [first]) (far : ¬(-6 ≤ power ∧ power ≤ 20)) :
      IsPrinted digits power (first :: exponentMark power)
  | scaledPointed (first : Char) (rest : List Char) (parts : digits = first :: rest)
      (several : rest ≠ []) (far : ¬(-6 ≤ power ∧ power ≤ 20)) :
      IsPrinted digits power (first :: '.' :: (rest ++ exponentMark power))

theorem isPrinted_positionalText
    {digits : List Char} {power : Int} (near : -6 ≤ power ∧ power ≤ 20) :
    IsPrinted digits power (positionalText [] digits power) := by
  obtain ⟨atLeast, atMost⟩ := near
  unfold positionalText
  split
  · exact .small (-power - 1).toNat (by omega) atLeast
  · dsimp only
    split
    · rw [List.append_nil]
      exact .whole _ (by omega) atMost
    · next longer =>
        have front : (digits.take (power.toNat + 1)).length = power.toNat + 1 := by
          rw [List.length_take]
          omega
        have back : (digits.drop (power.toNat + 1)).length ≠ 0 := by
          rw [List.length_drop]
          omega
        rw [List.append_assoc]
        refine .pointed _ _ (List.take_append_drop _ _).symm ?_ ?_ ?_ atMost
        · exact List.length_pos_iff.mp (by omega)
        · exact List.length_pos_iff.mp (Nat.pos_of_ne_zero back)
        · omega

theorem isPrinted_exponentText
    {digits : List Char} {power : Int} (nonempty : digits ≠ [])
    (far : ¬(-6 ≤ power ∧ power ≤ 20)) :
    IsPrinted digits power (exponentText ['+'] digits power) := by
  have mark : ['e'] ++ (if power < 0 then ['-'] else ['+']) ++ Nat.toDigits 10 power.natAbs =
      exponentMark power := by
    unfold exponentMark
    split <;> rfl
  unfold exponentText
  dsimp only
  rw [List.append_assoc, List.append_assoc, ← List.append_assoc ['e'], mark]
  match digits with
  | [] => exact absurd rfl nonempty
  | [first] => exact .scaled first rfl far
  | first :: second :: rest => exact .scaledPointed first (second :: rest) rfl nofun far

/-- A decimal is printed in one of these ways. -/
theorem isPrinted_decimalText {decimal : Decimal} (nonempty : decimal.digits ≠ []) :
    IsPrinted decimal.digits decimal.leadingPower (printed.decimalText decimal) := by
  have positional : printed.positional decimal.leadingPower = true ↔
      -6 ≤ decimal.leadingPower ∧ decimal.leadingPower ≤ 20 := by
    simp [printed]
  unfold decimalText
  dsimp only
  split
  · next near => exact isPrinted_positionalText (positional.mp near)
  · next far => exact isPrinted_exponentText nonempty (mt positional.mpr far)

/-! ## Cuts and counts in range -/

/-- Zeros, as many as there are to be.  There is no text with less than none of them. -/
def zeros? (count : Int) : Option (List Char) :=
  if 0 ≤ count then some (List.replicate count.toNat '0') else none

/-- Digits that are cut at a place, which has to lie among them or at one of their ends. -/
def cut? (digits : List Char) (place : Int) : Option (List Char × List Char) :=
  if 0 ≤ place ∧ place ≤ digits.length then
    some (digits.take place.toNat, digits.drop place.toNat)
  else
    none

/-- The printed text of digits by the place of the point among them, with every cut and every count
checked. -/
def checkedText? (digits : List Char) (power : Int) : Option (List Char) :=
  let length : Int := digits.length
  let point := power + 1
  if length ≤ point ∧ point ≤ 21 then
    (zeros? (point - length)).map fun zeros => digits ++ zeros
  else if 0 < point ∧ point ≤ 21 then
    (cut? digits point).map fun (whole, fraction) => whole ++ '.' :: fraction
  else if -6 < point ∧ point ≤ 0 then
    (zeros? (-point)).map fun zeros => '0' :: '.' :: (zeros ++ digits)
  else
    (cut? digits 1).map fun (first, rest) =>
      if rest.isEmpty then
        first ++ exponentMark power
      else
        first ++ '.' :: (rest ++ exponentMark power)

theorem zeros?_natCast (count : Nat) : zeros? count = some (List.replicate count '0') :=
  if_pos (Int.natCast_nonneg count)

theorem cut?_length (front back : List Char) :
    cut? (front ++ back) front.length = some (front, back) := by
  have within : 0 ≤ (front.length : Int) ∧ (front.length : Int) ≤ (front ++ back).length := by
    rw [List.length_append]
    omega
  rw [cut?, if_pos within, Int.toNat_natCast, List.take_left, List.drop_left]

/-- Each way of printing is reached by its branch, and there all cuts and counts are in range. -/
theorem checkedText?_of_isPrinted
    {digits text : List Char} {power : Int} (nonempty : digits ≠ [])
    (isPrinted : IsPrinted digits power text) : checkedText? digits power = some text := by
  have someDigits := List.length_pos_iff.mpr nonempty
  unfold checkedText?
  dsimp only
  cases isPrinted with
  | whole zeros ends few =>
      have count : power + 1 - digits.length = zeros := by omega
      rw [if_pos (by omega), count, zeros?_natCast]
      rfl
  | pointed front back parts someFront someBack place few =>
      have frontLength := List.length_pos_iff.mpr someFront
      have backLength := List.length_pos_iff.mpr someBack
      have length : digits.length = front.length + back.length := by
        rw [parts, List.length_append]
      rw [if_neg (by omega), if_pos (by omega), ← place, parts, cut?_length]
      rfl
  | small zeros place few =>
      have count : -(power + 1) = zeros := by omega
      rw [if_neg (by omega), if_neg (by omega), if_pos (by omega), count, zeros?_natCast]
      rfl
  | scaled first single far =>
      have cut : cut? digits 1 = some ([first], []) := by
        rw [single]
        exact cut?_length [first] []
      rw [if_neg (by omega), if_neg (by omega), if_neg (by omega), cut]
      rfl
  | scaledPointed first rest parts several far =>
      have cut : cut? digits 1 = some ([first], rest) := by
        rw [parts]
        exact cut?_length [first] rest
      have notEmpty : rest.isEmpty = false := List.isEmpty_eq_false_iff.mpr several
      rw [if_neg (by omega), if_neg (by omega), if_neg (by omega), cut, Option.map_some, notEmpty]
      rfl

/-! ## Reading printed digits -/

theorem readExponent?_exponentMark (power : Int) :
    Number.readExponent? (exponentMark power) = some power := by
  have nonempty : (Nat.toDigits 10 power.natAbs).isEmpty = false :=
    List.isEmpty_eq_false_iff.mpr Nat.toDigits_ne_nil
  have areDigits : (Nat.toDigits 10 power.natAbs).all Char.isDigit = true :=
    List.all_eq_true.mpr fun _ => Nat.isDigit_of_mem_toDigits (by decide) (by decide)
  have value := Number.digitsValue_toDigits power.natAbs
  unfold exponentMark
  by_cases negative : power < 0
  · rw [if_pos negative, Number.readExponent?, if_pos (.inl rfl)]
    simp [Number.readSign, nonempty, areDigits, value, abs_of_neg negative]
  · rw [if_neg negative, Number.readExponent?, if_pos (.inl rfl)]
    simp [Number.readSign, nonempty, areDigits, value, abs_of_nonneg (Int.not_lt.mp negative)]

theorem startsOutside_exponentMark {accepts : Char → Bool} (refused : accepts 'e' = false)
    (power : Int) : Number.StartsOutside accepts (exponentMark power) :=
  Number.startsOutside_cons refused _

/-- What is printed stands for the digits with the power of ten of the last of them. -/
theorem unsignedDecimal?_of_isPrinted
    {digits text : List Char} {power : Int} (nonempty : digits ≠ [])
    (areDigits : ∀ character ∈ digits, character.isDigit = true)
    (isPrinted : IsPrinted digits power text) :
    ∃ written, Number.unsignedDecimal? text = some written ∧
      written.value = Number.digitsValue digits * 10 ^ (power - digits.length + 1) := by
  have zerosAreDigits := Number.isDigit_of_mem_zeros
  cases isPrinted with
  | whole zeros ends few =>
      refine ⟨⟨Number.digitsValue (digits ++ List.replicate zeros '0'), 0⟩, ?_, ?_⟩
      · have read := Number.unsignedDecimal?_whole (List.append_ne_nil_of_left_ne_nil nonempty _)
          (List.forall_mem_append.mpr ⟨areDigits, zerosAreDigits zeros⟩)
          (Number.startsOutside_nil _)
        rw [List.append_nil] at read
        exact read
      · have places : power - digits.length + 1 = zeros := by omega
        rw [places, zpow_natCast, Decimal.value, Number.digitsValue_append,
          Number.digitsValue_zeros, List.length_replicate]
        push_cast
        ring
  | pointed front back parts someFront someBack place few =>
      obtain ⟨frontDigits, backDigits⟩ := List.forall_mem_append.mp (parts ▸ areDigits)
      refine ⟨⟨Number.digitsValue (front ++ back), 0 - back.length⟩, ?_, ?_⟩
      · have read := Number.unsignedDecimal?_pointed someFront frontDigits backDigits
          (Number.startsOutside_nil _)
        rw [List.append_nil] at read
        exact read
      · have places : power - digits.length + 1 = 0 - back.length := by
          rw [parts, List.length_append]
          omega
        rw [places, ← parts]
        rfl
  | small zeros place few =>
      have fractionDigits := List.forall_mem_append.mpr ⟨zerosAreDigits zeros, areDigits⟩
      refine ⟨⟨Number.digitsValue (List.replicate (zeros + 1) '0' ++ digits),
        0 - (List.replicate zeros '0' ++ digits).length⟩, ?_, ?_⟩
      · have read := Number.unsignedDecimal?_pointed (List.cons_ne_nil '0' []) (zerosAreDigits 1)
          fractionDigits (Number.startsOutside_nil _)
        rw [List.append_nil] at read
        exact read
      · have places : power - digits.length + 1 =
            0 - (List.replicate zeros '0' ++ digits).length := by
          rw [List.length_append, List.length_replicate]
          omega
        rw [places, Decimal.value, Number.digitsValue_append, Number.digitsValue_zeros,
          Nat.mul_zero, Nat.zero_add]
  | scaled first single far =>
      refine ⟨⟨Number.digitsValue digits, power⟩, ?_, ?_⟩
      · have read := Number.unsignedDecimal?_whole nonempty areDigits
          (startsOutside_exponentMark rfl power)
        rw [readExponent?_exponentMark] at read
        rw [single] at read ⊢
        exact read
      · have places : power - digits.length + 1 = power := by
          rw [single, List.length_singleton]
          omega
        rw [places]
        rfl
  | scaledPointed first rest parts several far =>
      rw [parts] at areDigits
      obtain ⟨firstDigit, restDigits⟩ := List.forall_mem_cons.mp areDigits
      refine ⟨⟨Number.digitsValue digits, power - rest.length⟩, ?_, ?_⟩
      · have read := Number.unsignedDecimal?_pointed (List.cons_ne_nil first [])
          (List.forall_mem_singleton.mpr firstDigit) restDigits
          (startsOutside_exponentMark rfl power)
        rw [readExponent?_exponentMark] at read
        rw [parts]
        exact read
      · have places : power - digits.length + 1 = power - rest.length := by
          rw [parts, List.length_cons]
          omega
        rw [places]
        rfl

/-! ## The characters of printed digits -/

section Characters

variable {digits text : List Char} {power : Int}

/-- A printed number has an exponent exactly if its first digit is far from the point. -/
theorem e_mem_iff_of_isPrinted
    (nonempty : digits ≠ []) (areDigits : ∀ character ∈ digits, character.isDigit = true)
    (isPrinted : IsPrinted digits power text) :
    'e' ∈ text ↔ ¬(-6 ≤ power ∧ power ≤ 20) := by
  have someDigits := List.length_pos_iff.mpr nonempty
  have noMark : 'e' ∉ digits := fun member => absurd (areDigits 'e' member) (by decide)
  cases isPrinted with
  | whole zeros ends few =>
      refine iff_of_false ?_ (by omega)
      simp [noMark]
  | pointed front back parts someFront someBack place few =>
      rw [parts, List.mem_append, not_or] at noMark
      refine iff_of_false ?_ (by omega)
      simp [noMark]
  | small zeros place few =>
      refine iff_of_false ?_ (by omega)
      simp [noMark]
  | scaled first single far => exact iff_of_true (by simp [exponentMark]) far
  | scaledPointed first rest parts several far => exact iff_of_true (by simp [exponentMark]) far

theorem head?_of_isPrinted
    (nonempty : digits ≠ []) (areDigits : ∀ character ∈ digits, character.isDigit = true)
    (isPrinted : IsPrinted digits power text) : text.head?.any Char.isDigit = true := by
  cases isPrinted with
  | whole zeros ends few => exact Number.head?_isDigit nonempty areDigits _
  | pointed front back parts someFront someBack place few =>
      rw [parts] at areDigits
      exact Number.head?_isDigit someFront (List.forall_mem_append.mp areDigits).1 _
  | small zeros place few => rfl
  | scaled first single far =>
      rw [single] at areDigits
      exact areDigits first List.mem_cons_self
  | scaledPointed first rest parts several far =>
      rw [parts] at areDigits
      exact areDigits first List.mem_cons_self

/-- The characters of printed numbers. -/
def IsNumberCharacter (character : Char) : Prop :=
  character.isDigit = true ∨ character ∈ ['.', 'e', '-', '+']

theorem characters_of_digits {part : List Char}
    (partDigits : ∀ character ∈ part, character.isDigit = true) :
    ∀ character ∈ part, IsNumberCharacter character :=
  fun character member => .inl (partDigits character member)

theorem characters_of_zeros (zeros : Nat) :
    ∀ character ∈ List.replicate zeros '0', IsNumberCharacter character :=
  characters_of_digits (Number.isDigit_of_mem_zeros zeros)

theorem characters_of_exponentMark (power : Int) :
    ∀ character ∈ exponentMark power, IsNumberCharacter character := by
  have sign : IsNumberCharacter (if power < 0 then '-' else '+') := by
    split <;> exact .inr (by decide)
  have exponentDigits := characters_of_digits fun _ member =>
    Nat.isDigit_of_mem_toDigits (b := 10) (n := power.natAbs) (by decide) (by decide) member
  exact List.forall_mem_cons.mpr ⟨.inr (by decide), List.forall_mem_cons.mpr ⟨sign, exponentDigits⟩⟩

theorem characters_of_isPrinted
    (areDigits : ∀ character ∈ digits, character.isDigit = true)
    (isPrinted : IsPrinted digits power text) : ∀ character ∈ text, IsNumberCharacter character := by
  have point : IsNumberCharacter '.' := .inr (by decide)
  have mark := characters_of_exponentMark power
  have areDigits := characters_of_digits areDigits
  cases isPrinted with
  | whole zeros ends few => exact List.forall_mem_append.mpr ⟨areDigits, characters_of_zeros zeros⟩
  | pointed front back parts someFront someBack place few =>
      rw [parts] at areDigits
      obtain ⟨frontDigits, backDigits⟩ := List.forall_mem_append.mp areDigits
      exact List.forall_mem_append.mpr ⟨frontDigits, List.forall_mem_cons.mpr ⟨point, backDigits⟩⟩
  | small zeros place few =>
      have fraction := List.forall_mem_append.mpr ⟨characters_of_zeros zeros, areDigits⟩
      exact List.forall_mem_cons.mpr ⟨.inl rfl, List.forall_mem_cons.mpr ⟨point, fraction⟩⟩
  | scaled first single far =>
      rw [single] at areDigits
      exact List.forall_mem_cons.mpr ⟨areDigits first List.mem_cons_self, mark⟩
  | scaledPointed first rest parts several far =>
      rw [parts] at areDigits
      obtain ⟨firstDigit, restDigits⟩ := List.forall_mem_cons.mp areDigits
      exact List.forall_mem_cons.mpr ⟨firstDigit, List.forall_mem_cons.mpr
        ⟨point, List.forall_mem_append.mpr ⟨restDigits, mark⟩⟩⟩

/-- No character of a printed number is white space. -/
theorem IsNumberCharacter.not_whiteSpace
    {character : Char} (isCharacter : IsNumberCharacter character) :
    Text.isWhiteSpace character = false := by
  rcases isCharacter with isDigit | isMark
  · obtain ⟨lower, upper⟩ := Char.isDigit_iff_toNat.mp isDigit
    have lower : 48 ≤ character.toNat := lower
    have upper : character.toNat ≤ 57 := upper
    unfold Text.isWhiteSpace
    simp only [Bool.or_eq_false_iff, Bool.and_eq_false_iff, decide_eq_false_iff_not,
      beq_eq_false_iff_ne]
    omega
  · simp only [List.mem_cons, List.not_mem_nil, or_false] at isMark
    rcases isMark with rfl | rfl | rfl | rfl <;> rfl

end Characters

end Layout

/-- A text without white space is trimmed to itself. -/
theorem Text.trim_of_none
    {text : List Char} (noneIsWhite : ∀ character ∈ text, isWhiteSpace character = false) :
    trim text = text := by
  have kept : ∀ {part : List Char}, (∀ character ∈ part, isWhiteSpace character = false) →
      part.dropWhile isWhiteSpace = part := by
    intro part partNone
    refine List.dropWhile_eq_self_iff.mpr fun someCharacter => ?_
    simp [partNone _ (List.getElem_mem someCharacter)]
  rw [trim, trimRight, kept noneIsWhite,
    kept fun character member => noneIsWhite character (List.mem_reverse.mp member),
    List.reverse_reverse]

/-! ## Numbers that a typed line may stand for -/

namespace Number

variable {number : Number}

theorem isNaN_of_isFinite (finite : number.isFinite = true) : number.isNaN = false := by
  simp only [isFinite, decide_eq_true_eq] at finite
  simp only [isNaN, decide_eq_false_iff_not]
  omega

theorem not_lt_of_zero_le (atLeast : zero.le number = true) : number.lt zero = false := by
  simp only [le, Bool.and_eq_true, decide_eq_true_eq] at atLeast
  have notBelow : ¬number.rank < zero.rank := Int.not_lt.mpr atLeast.2
  simp only [lt, decide_eq_false notBelow, Bool.and_false]

end Number

/-- What is read is accepted if the data type is for it. -/
theorem Literal.readNumber?_of_fits
    {type : DataType} {line : String} {number : Number}
    (read : Number.read? (Text.trim line.toList) = some number) (finite : number.isFinite = true)
    (fits : type.Fits number) : readNumber? type line = some number := by
  have whole : type.isIntegral = true → number.isWhole = true := by
    intro isIntegral
    have isWhole := (fits.whole isIntegral).resolve_right
      (Bool.not_eq_true _ ▸ Number.isNaN_of_isFinite finite)
    rw [Number.isWhole, finite, isWhole, beq_self_eq_true]
    rfl
  have unsigned : type.isUnsigned = true → number.lt .zero = false := fun isUnsigned =>
    Number.not_lt_of_zero_le (fits.unsigned isUnsigned).1
  refine Option.filter_eq_some_iff.mpr ⟨read, ?_⟩
  simp only [finite, Bool.true_and, Bool.and_eq_true, Bool.or_eq_true, Bool.not_eq_true']
  constructor
  · cases isIntegral : type.isIntegral with
    | false => exact .inl rfl
    | true => exact .inr (whole isIntegral)
  · cases isUnsigned : type.isUnsigned with
    | false => exact .inl rfl
    | true => exact .inr (unsigned isUnsigned)

/-! ## Printed numbers -/

namespace Layout

variable {number : Number}

theorem toList_printed
    (finite : number.isFinite = true) (nonzero : number.isZero = false) :
    (printed.text number).toList =
      (if number.negative then ['-'] else []) ++
        printed.decimalText (Number.shortest number.magnitude) := by
  unfold text
  rw [Number.isNaN_of_isFinite finite, nonzero, finite]
  simp only [Bool.false_eq_true, if_false, if_true]
  rw [String.toList_append, String.toList_ofList]
  cases number.negative <;> rfl

/-- A printed number stands for its shortest decimal, with the sign of the number. -/
theorem decimal?_printed
    (finite : number.isFinite = true) (nonzero : number.isZero = false) :
    ∃ written, Number.decimal? (printed.text number).toList = some (number.negative, written) ∧
      written.value = (Number.shortest number.magnitude).value := by
  obtain ⟨nonempty, areDigits, _, _⟩ := (Number.isShortestOf_shortest finite nonzero).significant
  have isPrinted := isPrinted_decimalText nonempty
  obtain ⟨written, read, value⟩ := unsignedDecimal?_of_isPrinted nonempty areDigits isPrinted
  refine ⟨written, ?_, value.trans (Decimal.value_eq_digits _).symm⟩
  rw [toList_printed finite nonzero, Number.decimal?]
  cases number.negative with
  | false =>
      rw [if_neg Bool.false_ne_true, List.nil_append,
        Number.readSign_of_digit (head?_of_isPrinted nonempty areDigits isPrinted), read]
      rfl
  | true =>
      change (Number.unsignedDecimal? (printed.decimalText _)).map _ = _
      rw [read]
      rfl

/-- A printed number is read as the number. -/
theorem read?_printed
    (finite : number.isFinite = true) (nonzero : number.isZero = false) :
    Number.read? (printed.text number).toList = some number := by
  obtain ⟨written, stands, value⟩ := decimal?_printed finite nonzero
  have contains := Number.contains_shortest nonzero
  rw [← value, ← Number.ofDecimal_eq_iff finite nonzero] at contains
  rw [Number.read?_of_decimal? stands, contains]

theorem trim_printed
    (finite : number.isFinite = true) (nonzero : number.isZero = false) :
    Text.trim (printed.text number).toList = (printed.text number).toList := by
  obtain ⟨nonempty, areDigits, _, _⟩ := (Number.isShortestOf_shortest finite nonzero).significant
  have characters := characters_of_isPrinted areDigits (isPrinted_decimalText nonempty)
  have sign : ∀ character ∈ (if number.negative then ['-'] else []),
      IsNumberCharacter character := by
    cases number.negative with
    | false => exact List.forall_mem_nil _
    | true => exact List.forall_mem_singleton.mpr (.inr (by decide))
  apply Text.trim_of_none
  rw [toList_printed finite nonzero]
  intro character member
  exact (List.forall_mem_append.mpr ⟨sign, characters⟩ character member).not_whiteSpace

/-- A printed number that is typed gives the number for every data type that it fits. -/
theorem ofLine_printed
    (finite : number.isFinite = true) (nonzero : number.isZero = false) {type : DataType}
    (numeric : type.isNumeric = true) (fits : type.Fits number) :
    Literal.ofLine type (printed.text number) = .ok ⟨type, .number number⟩ := by
  have read : Literal.readNumber? type (printed.text number) = some number := by
    apply Literal.readNumber?_of_fits ?_ finite fits
    rw [trim_printed finite nonzero, read?_printed finite nonzero]
  cases type with
  | int | uint | dec | udec => simp only [Literal.ofLine, read]
  | string | bool | label | void => cases numeric

end Layout

/-- A finite number that is not zero is printed with the digits of its shortest decimal: these have no zero
at either end, at most seventeen of them are enough, and no decimal with fewer digits is read as the number.
The text stands for the decimal, with the sign of the number.  It has no exponent exactly if the first digit
has a power of ten from -6 to 20; no cut and no count on the way to it is out of range.  Typed again, the
text gives the number for every data type that the number fits. -/
theorem printed_number_stands_for_its_decimal
    {number : Number} (finite : number.isFinite = true) (nonzero : number.isZero = false) :
    let decimal := Number.shortest number.magnitude
    let digits := decimal.digits
    let power := decimal.leadingPower
    let line := Layout.printed.text number
    decimal.IsShortestOf number ∧
    (digits.length ≤ 17 ∧ -324 ≤ power ∧ power ≤ 308) ∧
    (∃ written, Number.decimal? line.toList = some (number.negative, written) ∧
      written.value = Number.digitsValue digits * 10 ^ (power - digits.length + 1)) ∧
    ('e' ∈ line.toList ↔ ¬(-6 ≤ power ∧ power ≤ 20)) ∧
    (Layout.checkedText? digits power).map
        (fun text => (if number.negative then ['-'] else []) ++ text) =
      some line.toList ∧
    ∀ type : DataType, type.isNumeric = true → type.Fits number →
      Literal.ofLine type line = .ok ⟨type, .number number⟩ := by
  intro decimal digits power line
  have positive := Number.magnitude_pos nonzero
  have isShortest := Number.isShortestOf_shortest finite nonzero
  obtain ⟨nonempty, areDigits, _, _⟩ := isShortest.significant
  have isPrinted := Layout.isPrinted_decimalText nonempty
  have laidOut := Layout.toList_printed finite nonzero
  refine ⟨isShortest, ⟨Number.length_digits_shortest positive, ?_⟩, ?_, ?_, ?_, ?_⟩
  · exact ((Number.contains_shortest nonzero).leadingPower_bounds positive
      (of_decide_eq_true finite)).2
  · obtain ⟨written, stands, value⟩ := Layout.decimal?_printed finite nonzero
    exact ⟨written, stands, value.trans decimal.value_eq_digits⟩
  · have noMark : 'e' ∉ (if number.negative then ['-'] else []) := by
      cases number.negative <;> decide
    rw [← Layout.e_mem_iff_of_isPrinted nonempty areDigits isPrinted, laidOut, List.mem_append]
    exact or_iff_right noMark
  · rw [laidOut, Layout.checkedText?_of_isPrinted nonempty isPrinted]
    rfl
  · exact fun _ => Layout.ofLine_printed finite nonzero

theorem twenty_five_billionths_below_zero_stands_for_its_decimal :
    (Number.ofBits 0xBE5AD7F29ABCAF48).isFinite = true ∧
    (Number.ofBits 0xBE5AD7F29ABCAF48).isZero = false ∧
    Layout.printed.text (.ofBits 0xBE5AD7F29ABCAF48) = "-2.5e-8" ∧
    Literal.ofLine .dec "-2.5e-8" = .ok ⟨.dec, .number (.ofBits 0xBE5AD7F29ABCAF48)⟩ := by
  have finite : (Number.ofBits 0xBE5AD7F29ABCAF48).isFinite = true := by decide
  have nonzero : (Number.ofBits 0xBE5AD7F29ABCAF48).isZero = false := by decide
  have line : Layout.printed.text (.ofBits 0xBE5AD7F29ABCAF48) = "-2.5e-8" := by decide +kernel
  have fits : DataType.dec.Fits (.ofBits 0xBE5AD7F29ABCAF48) := ⟨nofun, nofun⟩
  obtain ⟨_, _, _, _, _, typed⟩ := printed_number_stands_for_its_decimal finite nonzero
  have typed := typed .dec rfl fits
  rw [line] at typed
  exact ⟨finite, nonzero, line, typed⟩

end Zoop
