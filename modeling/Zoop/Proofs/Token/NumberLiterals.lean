import Mathlib.Data.List.TakeWhile
import Zoop.Interpretation
import Zoop.Proofs.Number.Decimals
import Zoop.Proofs.Grammar.Precedence
import Zoop.Proofs.Token.Pieces
import Zoop.Proofs.Token.Words

/-!
# Number literals

A number is written with digits, and maybe a point and more digits.  The recogniser of numbers takes
exactly these texts, the reader of typed numbers gives them the value that literals have, and a source
that is such a text, with or without a closing `u`, is one literal of the data type that the point and the
`u` ask for.  Every other source of digits and points that starts with a digit is refused.
-/

namespace Zoop

/-! ## Texts of numbers -/

/-- Digits, and maybe a point and more digits. -/
inductive Word.IsNumberText : List Char → Prop
  | whole {digits : List Char} (nonempty : digits ≠ [])
      (areDigits : ∀ character ∈ digits, character.isDigit = true) : IsNumberText digits
  | pointed {digits fraction : List Char} (nonempty : digits ≠ [])
      (areDigits : ∀ character ∈ digits, character.isDigit = true)
      (fractionDigits : ∀ character ∈ fraction, character.isDigit = true) :
      IsNumberText (digits ++ '.' :: fraction)

namespace Word

theorem number?_eq_some
    {text taken rest : List Char} (found : number? text = some (taken, rest)) :
    taken ++ rest = text ∧ IsNumberText taken := by
  have parts := List.takeWhile_append_dropWhile (p := Char.isDigit) (l := text)
  have areDigits : ∀ character ∈ text.takeWhile Char.isDigit, character.isDigit = true :=
    fun _ => List.mem_takeWhile_imp
  unfold number? at found
  dsimp only at found
  split at found
  · cases found
  · next nonempty =>
      have nonempty : text.takeWhile Char.isDigit ≠ [] := by simpa using nonempty
      split at found
      · next behind pointed =>
          cases found
          refine ⟨?_, .pointed nonempty areDigits fun _ => List.mem_takeWhile_imp⟩
          rw [List.append_assoc, List.cons_append, List.takeWhile_append_dropWhile, ← pointed, parts]
      · cases found
        exact ⟨parts, .whole nonempty areDigits⟩

/-- From a number with anything behind it, at least the number is taken: its digits, and then either
more digits or its point and all digits behind that. -/
theorem takes_number? : Takes number? IsNumberText where
  parts found := (number?_eq_some found).1
  belongs found := (number?_eq_some found).2
  extends_word := by
    intro word numberText behind
    cases numberText with
    | whole nonempty areDigits =>
        have taken : (word ++ behind).takeWhile Char.isDigit = word ++ behind.takeWhile Char.isDigit :=
          List.takeWhile_append_of_pos areDigits
        have dropped : (word ++ behind).dropWhile Char.isDigit = behind.dropWhile Char.isDigit :=
          List.dropWhile_append_of_pos areDigits
        unfold number?
        dsimp only
        rw [taken, dropped, if_neg (by simp [nonempty])]
        split
        · rw [List.append_assoc]
          exact ⟨_, _, rfl⟩
        · exact ⟨_, _, rfl⟩
    | @pointed digits fraction nonempty areDigits fractionDigits =>
        obtain ⟨taken, dropped⟩ := Number.takeWhile_append_of_startsOutside areDigits
          (Number.startsOutside_cons (rfl : '.'.isDigit = false) (fraction ++ behind))
        refine ⟨behind.takeWhile Char.isDigit, behind.dropWhile Char.isDigit, ?_⟩
        simp [number?, taken, dropped, nonempty, List.takeWhile_append_of_pos fractionDigits,
          List.dropWhile_append_of_pos fractionDigits]

theorem isSome_number? (text : List Char) :
    (number? text).isSome = text.head?.any Char.isDigit := by
  cases text with
  | nil => rfl
  | cons first rest =>
      rw [List.head?_cons, Option.any_some]
      unfold number?
      dsimp only
      by_cases isDigit : first.isDigit = true
      · rw [List.takeWhile_cons_of_pos isDigit, if_neg (by simp), isDigit]
        split <;> rfl
      · rw [List.takeWhile_cons_of_neg isDigit, if_pos List.isEmpty_nil]
        exact (Bool.eq_false_iff.mpr isDigit).symm

/-- The recogniser of numbers takes exactly the texts of numbers. -/
theorem isNumber_iff {text : List Char} : isNumber text = true ↔ IsNumberText text :=
  takes_number?.takesAll_iff

end Word

/-! ## Values of numbers -/

namespace Number

/-- The decimal of a text of a number gives the value of the literal. -/
theorem ofDigits_of_unsignedDecimal?
    {text : List Char} (numberText : Word.IsNumberText text) :
    ∃ decimal, unsignedDecimal? text = some decimal ∧
      ofDigits text = ofDecimal false decimal.coefficient decimal.power := by
  have beforePoint : ∀ {digits : List Char},
      (∀ character ∈ digits, character.isDigit = true) →
        ∀ character ∈ digits, decide (character ≠ '.') = true :=
    fun areDigits character member => decide_eq_true (ne_of_isDigit (areDigits character member) rfl)
  cases numberText with
  | whole nonempty areDigits =>
      refine ⟨⟨digitsValue text, 0⟩, ?_, ?_⟩
      · have found := unsignedDecimal?_whole nonempty areDigits (startsOutside_nil _)
        rw [List.append_nil] at found
        rw [found]
        rfl
      · unfold ofDigits
        rw [List.takeWhile_eq_self_iff.mpr (beforePoint areDigits),
          List.dropWhile_eq_nil_iff.mpr (beforePoint areDigits)]
        dsimp only
        rw [List.drop_nil, List.append_nil]
        rfl
  | @pointed digits fraction nonempty areDigits fractionDigits =>
      refine ⟨⟨digitsValue (digits ++ fraction), 0 - fraction.length⟩, ?_, ?_⟩
      · have found := unsignedDecimal?_pointed nonempty areDigits fractionDigits
          (startsOutside_nil _)
        rw [List.append_nil] at found
        rw [found]
        rfl
      · obtain ⟨taken, dropped⟩ := takeWhile_append_of_startsOutside (beforePoint areDigits)
          (startsOutside_cons (rfl : decide ('.' ≠ '.') = false) fraction)
        unfold ofDigits
        rw [taken, dropped]
        dsimp only
        rw [List.drop_one, List.tail_cons, Int.zero_sub]

/-- A text of a number is read as the value that the literal has. -/
theorem read?_of_isNumberText {text : List Char} (numberText : Word.IsNumberText text) :
    read? text = some (ofDigits text) := by
  have starts : text.head?.any Char.isDigit = true := by
    cases numberText with
    | whole nonempty areDigits =>
        have starts := head?_isDigit nonempty areDigits []
        rwa [List.append_nil] at starts
    | pointed nonempty areDigits => exact head?_isDigit nonempty areDigits _
  obtain ⟨decimal, found, value⟩ := ofDigits_of_unsignedDecimal? numberText
  rw [value]
  apply read?_of_decimal?
  unfold decimal?
  rw [readSign_of_digit starts, found]
  rfl

end Number

/-! ## Sources that are one piece -/

namespace Token

theorem recognize_of_digit
    {reading : Reading} {first : Char} {rest : List Char} (noColon : reading.afterColon = false)
    (isDigit : first.isDigit = true) :
    recognize reading first rest =
      (recognizeNumber reading.position (first :: rest)).map some := by
  have other : ∀ {character : Char}, character.isDigit = false → first ≠ character :=
    Number.ne_of_isDigit isDigit
  have notBlank : isBlank first = false := by
    simp [isBlank, (other rfl : first ≠ ' '), (other rfl : first ≠ '\t'), (other rfl : first ≠ '\r')]
  have notSigil : ¬(first = '@' ∨ first = '$') := not_or.mpr ⟨other rfl, other rfl⟩
  have notQuote : ¬(first = '"' ∨ first = '\x60') := not_or.mpr ⟨other rfl, other rfl⟩
  unfold recognize
  dsimp only
  rw [noColon, notBlank, if_neg Bool.false_ne_true, if_neg Bool.false_ne_true, if_neg (other rfl),
    if_neg notSigil, if_neg (other rfl), if_neg (other rfl), if_neg (other rfl), if_neg notQuote,
    if_pos isDigit]

/-- A source that is one piece is read as the token of the piece. -/
theorem tokenize_of_piece
    {first : Char} {rest : List Char} {piece : Recognition}
    (recognized : recognize .start first rest = .ok (some piece))
    (whole : piece.lexeme = first :: rest) (noColon : piece.kind ≠ .colon) :
    tokenize (String.ofList (first :: rest)) = .ok [Reading.start.token piece] := by
  have within : piece.Within (first :: rest) := by
    rw [← whole]
    exact ⟨by simp [whole], List.prefix_rfl⟩
  have ended : ((Reading.start.emit piece).passAll piece.lexeme).afterColon = false := by
    rw [Reading.afterColon, Reading.before_passAll, Reading.before_emit]
    exact beq_eq_false_iff_ne.mpr noColon
  rw [tokenize, String.toList_ofList, scan, recognized]
  dsimp only
  rw [scan_emit .start within, Recognition.length, ← whole, List.drop_length, scan, ended,
    Reading.before_passAll]
  rfl

end Token

/-! ## Runs of digits and points -/

/-- A run of digits and points that starts with a digit. -/
structure Word.IsNumberRun (run : List Char) : Prop where
  startsWithDigit : run.head?.any Char.isDigit = true
  digitsAndPoints : ∀ character ∈ run, (character.isDigit || character == '.') = true

/-- The source of a run, which a `u` may close. -/
def Word.numberSource (run : List Char) (unsigned : Bool) : List Char :=
  run ++ if unsigned then ['u'] else []

/-- The data type that a point and a `u` ask for. -/
def DataType.ofMarks (pointed unsigned : Bool) : DataType :=
  if pointed then
    if unsigned then .udec else .dec
  else
    if unsigned then .uint else .int

/-- The token of a number literal that is a whole source. -/
def Token.ofNumberSource (run : List Char) (unsigned : Bool) (value : Number) : Token where
  kind := .literal
  lexeme := String.ofList (Word.numberSource run unsigned)
  position := .start
  span := ⟨0, (Word.numberSource run unsigned).length⟩
  value := some (.number value)

namespace Token

variable {run : List Char}

theorem recognizeNumber_of_run
    (belong : ∀ character ∈ run, (character.isDigit || character == '.') = true)
    (unsigned : Bool) (position : Position) :
    recognizeNumber position (Word.numberSource run unsigned) =
      if Word.isNumber run then
        .ok ⟨.literal, Word.numberSource run unsigned, some (.number (Number.ofDigits run))⟩
      else
        .error ⟨.invalidNumberLiteral, position⟩ := by
  have outside : Number.StartsOutside (fun character => character.isDigit || character == '.')
      (if unsigned then ['u'] else []) := by
    cases unsigned with
    | false => exact Number.startsOutside_nil _
    | true => exact Number.startsOutside_cons rfl []
  obtain ⟨taken, dropped⟩ := Number.takeWhile_append_of_startsOutside belong outside
  unfold recognizeNumber Word.numberSource
  dsimp only
  rw [taken, dropped]
  cases unsigned <;> rfl

theorem tokenize_of_run
    (isRun : Word.IsNumberRun run) (unsigned : Bool) :
    tokenize (String.ofList (Word.numberSource run unsigned)) =
      if Word.isNumber run then
        .ok [.ofNumberSource run unsigned (Number.ofDigits run)]
      else
        .error ⟨.invalidNumberLiteral, .start⟩ := by
  have read := recognizeNumber_of_run isRun.digitsAndPoints unsigned .start
  cases run with
  | nil => cases isRun.startsWithDigit
  | cons first others =>
      have recognized :
          recognize .start first (others ++ if unsigned then ['u'] else []) =
            (recognizeNumber .start (Word.numberSource (first :: others) unsigned)).map some :=
        recognize_of_digit rfl isRun.startsWithDigit
      rw [read] at recognized
      by_cases number : Word.isNumber (first :: others) = true
      · rw [if_pos number] at recognized ⊢
        exact tokenize_of_piece recognized rfl nofun
      · rw [if_neg number] at recognized ⊢
        rw [tokenize, String.toList_ofList, Word.numberSource, List.cons_append, scan, recognized]
        rfl

end Token

/-! ## Sources that are one literal -/

namespace Grammar

variable {operand : Parser Expression} {finish : Position} {token : Token} {value : Literal}

theorem tier_of_alone
    {tokens : List Token} {tree : Expression} (read : operand tokens = .ok (tree, []))
    (tiers : Nat) : tier operand tiers tokens = .ok (tree, []) := by
  induction tiers with
  | zero => exact read
  | succ tiers inductionHypothesis =>
      rw [tier, chain, inductionHypothesis, Outcome.ok_bind]
      rfl

theorem expression_of_literal (stands : Literal.ofToken? token = some value) :
    expression finish [token] = .ok (.literal token.position value, []) := by
  have isLiteral := Token.kind_of_ofToken? stands
  have ends : EndsPrimary [] := fun _ => nofun
  apply tier_of_alone
  rw [unary, isLiteral]
  exact castable_of_primary (primary_of_literal stands ends)

theorem lineStatement_of_literal (stands : Literal.ofToken? token = some value) :
    lineStatement finish [token] =
      .ok (.expression token.position (.literal token.position value), []) := by
  have isLiteral := Token.kind_of_ofToken? stands
  have noArrow : lineArrow ([token].takeWhile fun token => !endsLine token) = .ok none := by
    simp [lineArrow, endsLine, Token.isKeyword, isLiteral]
  rw [lineStatement, noArrow, Outcome.ok_bind, expression_of_literal stands, Outcome.ok_bind]
  rfl

theorem statement_of_literal (place : Place) (stands : Literal.ofToken? token = some value) :
    statement finish place [token] =
      .ok (.expression token.position (.literal token.position value), []) := by
  have isLiteral := Token.kind_of_ofToken? stands
  have noKeyword : ∀ word, token.isKeyword word = false := by simp [Token.isKeyword, isLiteral]
  rw [statement, List.length_singleton, nestedStatement, statementWith]
  simp [isLiteral, noKeyword, lineStatement_of_literal stands]

/-- A token that stands for a literal is a whole program. -/
theorem parse_of_literal (stands : Literal.ofToken? token = some value) :
    Program.parse [token] =
      .ok ⟨[.expression token.position (.literal token.position value)]⟩ := by
  have isLiteral := Token.kind_of_ofToken? stands
  have kept : significant [token] = [token] := by
    simp [significant, Token.isComment, isLiteral]
  have noNewLine : skipNewLines [token] = [token] := by
    simp [skipNewLines, isLiteral]
  have read : program [token] =
      .ok ⟨[.expression token.position (.literal token.position value)]⟩ := by
    rw [program, kept, List.length_singleton, topStatements, noNewLine]
    dsimp only
    rw [statement_of_literal .top stands]
    rfl
  rw [Program.parse, read]

end Grammar

/-! ## Number literals -/

/-- The text of a number literal tells both marks: no run has a `u`, and a `u` is no point. -/
theorem Literal.numberType_numberSource
    {run : List Char} (isRun : Word.IsNumberRun run) (unsigned : Bool) :
    numberType (Word.numberSource run unsigned) = .ofMarks (run.contains '.') unsigned := by
  have noMark : 'u' ∉ run := fun member => absurd (isRun.digitsAndPoints 'u' member) (by decide)
  have point : (Word.numberSource run unsigned).contains '.' = run.contains '.' := by
    cases unsigned <;> simp [Word.numberSource]
  have closing : ((Word.numberSource run unsigned).getLast? == some 'u') = unsigned := by
    cases unsigned with
    | false =>
        apply beq_eq_false_iff_ne.mpr
        intro isLast
        rw [Word.numberSource, if_neg Bool.false_ne_true, List.append_nil] at isLast
        exact noMark (List.mem_of_getLast? isLast)
    | true => simp [Word.numberSource]
  unfold numberType DataType.ofMarks
  rw [point, closing]
  cases run.contains '.' <;> cases unsigned <;> rfl

/-- The literal that a run and its mark stand for. -/
def Literal.ofRun (run : List Char) (unsigned : Bool) (value : Number) : Literal :=
  ⟨.ofMarks (run.contains '.') unsigned, .number value⟩

theorem Literal.ofToken?_ofNumberSource
    {run : List Char} (isRun : Word.IsNumberRun run) (unsigned : Bool) (value : Number) :
    ofToken? (.ofNumberSource run unsigned value) = some (ofRun run unsigned value) := by
  unfold ofToken? Token.ofNumberSource ofRun
  rw [if_pos rfl, Option.map_some, String.toList_ofList, numberType_numberSource isRun]

/-- A run of digits and points, with or without a closing `u`, is a number literal exactly if it is
digits, and maybe a point and more digits.  Then the source is the one token of the literal, which has
the value that reading the run as a typed number gives, and the data type that the point and the `u` ask
for; the source is the program of this one literal, and evaluating it gives the literal.  Every other
run is refused at its start. -/
theorem number_literals_are_runs_of_grammar
    {run : List Char} (isRun : Word.IsNumberRun run) (unsigned : Bool) :
    (Word.IsNumberText run →
      ∃ value, Number.read? run = some value ∧
        Token.tokenize (String.ofList (Word.numberSource run unsigned)) =
          .ok [.ofNumberSource run unsigned value] ∧
        Literal.ofToken? (.ofNumberSource run unsigned value) =
          some (.ofRun run unsigned value) ∧
        Program.parse [.ofNumberSource run unsigned value] =
          .ok ⟨[.expression .start (.literal .start (.ofRun run unsigned value))]⟩ ∧
        ∀ {κ : Type} [Console κ] (runBody : Evaluation.BodyRunner κ) (machine : Machine κ),
          Evaluation.evaluate runBody (.literal .start (.ofRun run unsigned value)) machine =
            (.ok (.ofRun run unsigned value), machine)) ∧
    (¬Word.IsNumberText run →
      Token.tokenize (String.ofList (Word.numberSource run unsigned)) =
        .error ⟨.invalidNumberLiteral, ⟨1, 0⟩⟩) := by
  have tokenized := Token.tokenize_of_run isRun unsigned
  constructor
  · intro numberText
    have stands := Literal.ofToken?_ofNumberSource isRun unsigned (Number.ofDigits run)
    rw [if_pos (Word.isNumber_iff.mpr numberText)] at tokenized
    exact ⟨Number.ofDigits run, Number.read?_of_isNumberText numberText, tokenized, stands,
      Grammar.parse_of_literal stands, fun _ _ => rfl⟩
  · intro otherText
    rw [if_neg fun number => otherText (Word.isNumber_iff.mp number)] at tokenized
    exact tokenized

theorem literal_of_twelve_and_a_half :
    Word.IsNumberRun "12.5".toList ∧
    Token.tokenize "12.5u" =
      .ok [.ofNumberSource "12.5".toList true (.ofBits 0x4029000000000000)] ∧
    Literal.ofRun "12.5".toList true (.ofBits 0x4029000000000000) =
      ⟨.udec, .number (.ofBits 0x4029000000000000)⟩ := by
  have isRun : Word.IsNumberRun "12.5".toList := ⟨rfl, List.all_eq_true.mp rfl⟩
  have numberText : Word.IsNumberText "12.5".toList := Word.isNumber_iff.mp (by decide)
  obtain ⟨value, read, tokenized, -⟩ :=
    (number_literals_are_runs_of_grammar isRun true).1 numberText
  have valueIs : Number.read? "12.5".toList = some (.ofBits 0x4029000000000000) := by
    decide +kernel
  cases Option.some.inj (valueIs.symm.trans read)
  exact ⟨isRun, tokenized, rfl⟩

end Zoop
