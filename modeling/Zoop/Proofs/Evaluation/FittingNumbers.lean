import Zoop.Proofs.Evaluation.Tags
import Zoop.Proofs.Grammar.SourceYield
import Zoop.Proofs.Number.Fit

/-!
# Numbers fit their data types

In the programs of sources, a number is always one that its data type is for: wherever a value is
computed or stored, a whole type has a whole number and an unsigned type has none below zero.  The
literals of a source fit, and so does all that is made of values that fit.
-/

namespace Zoop

open Evaluation

/-! ## Literals that fit -/

instance (type : DataType) (number : Number) : Decidable (type.Fits number) :=
  decidable_of_iff
    ((type.isIntegral = true → number.truncate = number ∨ number.isNaN = true) ∧
      (type.isUnsigned = true → Number.zero.le number = true ∧ number.isNaN = false))
    ⟨fun both => ⟨both.1, both.2⟩, fun fits => ⟨fits.whole, fits.unsigned⟩⟩

/-- A value is one of those that its data type is for, also as a number. -/
structure Literal.Fits (literal : Literal) : Prop where
  agrees : literal.agrees = true
  number : ∀ number, literal.value = .number number → literal.type.Fits number

namespace Literal

instance (literal : Literal) : Decidable literal.Fits :=
  decidable_of_iff
    (literal.agrees = true ∧ ∀ number ∈ literal.value.number?, literal.type.Fits number) <| by
    constructor
    · rintro ⟨agrees, fits⟩
      refine ⟨agrees, ?_⟩
      intro number isNumber
      exact fits number (by rw [isNumber]; rfl)
    · intro fits
      refine ⟨fits.agrees, ?_⟩
      intro number found
      refine fits.number number ?_
      cases valueIs : literal.value with
      | number value =>
          rw [valueIs] at found
          cases found
          rfl
      | string | boolean | void =>
          rw [valueIs] at found
          cases found

theorem Fits.of_not_number
    {literal : Literal} (agrees : literal.agrees = true)
    (noNumber : ∀ number, literal.value ≠ .number number) : literal.Fits :=
  ⟨agrees, fun number isNumber => absurd isNumber (noNumber number)⟩

theorem fits_of_number
    {type : DataType} {number : Number} (numeric : type.isNumeric = true)
    (fits : type.Fits number) : Literal.Fits ⟨type, .number number⟩ := by
  refine ⟨agrees_number numeric number, ?_⟩
  rintro _ ⟨⟩
  exact fits

theorem fits_ofNumber {type : DataType} (numeric : type.isNumeric = true) (number : Number) :
    (ofNumber type number).Fits :=
  fits_of_number numeric (type.fits_fit number)

theorem fits_string (text : String) : (string text).Fits :=
  .of_not_number rfl nofun

theorem fits_label (text : String) : (label text).Fits :=
  .of_not_number rfl nofun

theorem fits_boolean (truth : Bool) : (boolean truth).Fits :=
  .of_not_number rfl nofun

theorem fits_void : void.Fits :=
  .of_not_number rfl nofun

/-- A cast to the data type that a value has leaves it as it is, and every other cast to a number makes
it fit. -/
theorem fits_cast
    {literal value : Literal} {target : DataType} (fits : literal.Fits)
    (casted : literal.cast target = .ok value) : value.Fits := by
  unfold cast at casted
  split at casted
  · cases casted
    exact fits
  · split at casted
    · cases casted
    · cases target <;> simp only at casted
      case int | uint | dec | udec =>
        split at casted
        · cases casted
          exact fits_ofNumber rfl _
        · cases casted
      case string =>
        cases casted
        exact fits_string _
      case bool =>
        cases casted
        exact fits_boolean _
      case label =>
        split at casted
        · cases casted
          exact fits_label _
        · cases casted
      case void => cases casted

theorem fits_ofLine
    {type : DataType} {line : String} {value : Literal} (read : ofLine type line = .ok value) :
    value.Fits := by
  unfold ofLine at read
  cases type <;> simp only at read
  case int | uint | dec | udec =>
    split at read
    · next number found =>
        cases read
        exact fits_of_number rfl (DataType.fits_of_readNumber? found)
    · cases read
  case string =>
    cases read
    exact fits_string line
  case label =>
    cases read
    exact fits_label line
  case bool =>
    split at read
    · cases read
      exact fits_boolean true
    · split at read
      · cases read
        exact fits_boolean false
      · cases read
  case void => cases read

end Literal

/-! ## Operations -/

namespace Operation

theorem fits_unary
    {operator : UnaryOperator} {operand value : Literal} (fits : operand.Fits)
    (computed : unary operator operand = .ok value) : value.Fits := by
  unfold unary at computed
  split at computed
  · cases computed
    exact Literal.fits_boolean _
  · cases computed
  · next isNumber =>
      cases computed
      exact Literal.fits_ofNumber (Literal.isNumeric_of_agrees fits.agrees isNumber) _
  · cases computed

/-- A quotient is a `dec`, which all numbers fit, and every other result is made to fit. -/
theorem fits_arithmetic
    {operator : BinaryOperator} {compute : Number → Number → Number} {left right : Operand}
    {place : Position} {value : Literal} (fits : left.literal.Fits)
    (computed : arithmetic operator compute left right place = .ok value) : value.Fits := by
  unfold arithmetic at computed
  cases found : numbers operator left right with
  | error error =>
      rw [found] at computed
      cases computed
  | ok pair =>
      rw [found] at computed
      have numeric := Literal.isNumeric_of_agrees fits.agrees (numbers_eq_ok found)
      simp only [Bind.bind, Except.bind] at computed
      split at computed
      · cases computed
      · split at computed
        · split at computed
          · cases computed
          · cases computed
            exact Literal.fits_ofNumber rfl _
        · cases computed
          exact Literal.fits_ofNumber numeric _

theorem boolean_of_comparison
    {operator : BinaryOperator} {test : Number → Number → Bool} {left right : Operand}
    {value : Literal} (computed : comparison operator test left right = .ok value) :
    ∃ truth, value = .boolean truth := by
  unfold comparison at computed
  cases found : numbers operator left right with
  | error error =>
      rw [found] at computed
      cases computed
  | ok pair =>
      rw [found] at computed
      cases computed
      exact ⟨_, rfl⟩

theorem boolean_of_logic
    {operator : BinaryOperator} {connect : Bool → Bool → Bool} {left right : Operand}
    {value : Literal} (computed : logic operator connect left right = .ok value) :
    ∃ truth, value = .boolean truth := by
  unfold logic at computed
  cases found : truths operator left right with
  | error error =>
      rw [found] at computed
      cases computed
  | ok pair =>
      rw [found] at computed
      cases computed
      exact ⟨_, rfl⟩

theorem boolean_of_equality
    {expected : Bool} {left right : Operand} {place : Position} {value : Literal}
    (computed : equality expected left right place = .ok value) :
    ∃ truth, value = .boolean truth := by
  unfold equality at computed
  split at computed
  · cases computed
  · cases computed
    exact ⟨_, rfl⟩

theorem string_of_concat
    {left right : Operand} {value : Literal} (computed : concat left right = .ok value) :
    ∃ text, value = .string text := by
  unfold concat at computed
  split at computed
  · cases computed
  · split at computed
    · cases computed
    · cases computed
      exact ⟨_, rfl⟩

theorem fits_binary
    {operator : BinaryOperator} {left right : Operand} {place : Position} {value : Literal}
    (fits : left.literal.Fits) (computed : binary operator left right place = .ok value) :
    value.Fits := by
  unfold binary at computed
  cases operator with
  | add | sub | mul | div => exact fits_arithmetic fits computed
  | less | lessOrEqual | greater | greaterOrEqual =>
      obtain ⟨truth, rfl⟩ := boolean_of_comparison computed
      exact Literal.fits_boolean truth
  | and | or =>
      obtain ⟨truth, rfl⟩ := boolean_of_logic computed
      exact Literal.fits_boolean truth
  | equal | notEqual =>
      obtain ⟨truth, rfl⟩ := boolean_of_equality computed
      exact Literal.fits_boolean truth
  | concat =>
      obtain ⟨text, rfl⟩ := string_of_concat computed
      exact Literal.fits_string text

end Operation

/-! ## The literals of a source -/

/-- The numbers that digits stand for fit, if a point keeps them from being whole. -/
theorem Literal.fits_numberType
    {lexeme digits : List Char} (same : '.' ∈ digits → '.' ∈ lexeme) :
    (numberType lexeme).Fits (Number.ofDigits digits) := by
  have atLeast := Number.zero_le_ofDigits digits
  refine ⟨?_, fun _ => ⟨atLeast, Number.isNaN_of_zero_le atLeast⟩⟩
  intro isIntegral
  refine .inl (Number.truncate_ofDigits ?_)
  intro member
  have hasPoint : lexeme.contains '.' = true := by simpa using same member
  unfold numberType at isIntegral
  rw [hasPoint] at isIntegral
  split at isIntegral
  · next none _ => cases none
  · next none _ => cases none
  · cases isIntegral
  · cases isIntegral

namespace Token

/-- A token that is a number stands for one that fits. -/
def NumberFits (token : Token) : Prop :=
  ∀ number, token.value = some (.number number) →
    (Literal.numberType token.lexeme.toList).Fits number

theorem numberFits_of_recognizeNumber
    {reading : Reading} {text : List Char} {piece : Recognition}
    (recognized : recognizeNumber reading.position text = .ok piece) :
    (reading.token piece).NumberFits := by
  obtain ⟨run, rfl, -, rfl⟩ := recognizeNumber_eq_ok_iff.mp recognized
  rintro _ ⟨⟩
  apply Literal.fits_numberType
  intro member
  simp only [Reading.token, String.toList_ofList]
  exact List.mem_append_left _ member

theorem Recognized.numberFits
    {reading : Reading} {character : Char} {rest : List Char} {piece : Recognition}
    (recognized : Recognized reading character rest piece) :
    (reading.token piece).NumberFits := by
  cases recognized with
  | type recognized =>
      obtain ⟨word, -, rfl⟩ := recognizeType_eq_ok_iff.mp recognized
      exact nofun
  | newLine | colon | parenOpen | parenClose | truth | comment => exact nofun
  | named _ recognized =>
      obtain ⟨name, -, -, rfl⟩ := recognizeVariable_eq_ok_iff.mp recognized
      exact nofun
  | quoted recognized =>
      obtain ⟨-, inner, -, rfl⟩ := recognizeQuoted_eq_ok_iff.mp recognized
      exact nofun
  | number recognized => exact numberFits_of_recognizeNumber recognized
  | blockComment _ recognized =>
      obtain ⟨inner, -, rfl⟩ := recognizeBlockComment_eq_ok_iff.mp recognized
      exact nofun
  | fixed recognized =>
      obtain ⟨word, kind, -, -, rfl⟩ := recognizeFixed_eq_ok_iff.mp recognized
      exact nofun

theorem Reads.numbersFit
    {reading : Reading} {text : List Char} {tokens : List Token}
    (reads : Reads reading text tokens) : ∀ token ∈ tokens, token.NumberFits := by
  induction reads with
  | done reading => exact List.forall_mem_nil _
  | blank _ _ inductionHypothesis => exact inductionHypothesis
  | token recognized _ inductionHypothesis =>
      exact List.forall_mem_cons.mpr ⟨recognized.numberFits, inductionHypothesis⟩

end Token

theorem Literal.fits_of_ofToken?
    {token : Token} {literal : Literal} (fits : token.NumberFits)
    (stands : ofToken? token = some literal) : literal.Fits := by
  have agrees := (wellFormed_of_ofToken? stands).1
  unfold ofToken? at stands
  split at stands
  · obtain ⟨value, hasValue, rfl⟩ := Option.map_eq_some_iff.mp stands
    cases value with
    | number number => exact fits_of_number (isNumeric_numberType _) (fits number hasValue)
    | string text =>
        dsimp only
        split
        · exact fits_label text
        · exact fits_string text
    | boolean truth => exact fits_boolean truth
  · cases stands

/-! ## Programs -/

/-- The literal of an expression that is one fits. -/
def Expression.literalFits : Expression → Bool
  | .literal _ value => value.Fits
  | _ => true

/-- All literals in a program fit. -/
def Condition.literalsFit : Condition :=
  ⟨Expression.literalFits, fun _ => true⟩

@[simp]
theorem Condition.literalsFit_statement (statement : Statement) :
    literalsFit.statement statement = true :=
  rfl

open Condition

mutual

theorem Expression.Yields.literalsFit
    {value : Expression} {tokens : List Token} (yields : value.Yields tokens)
    (fit : ∀ token ∈ tokens, token.NumberFits) :
    Condition.literalsFit.inExpression value = true := by
  match yields with
  | .literal stands =>
      exact decide_eq_true (Literal.fits_of_ofToken? (fit _ List.mem_cons_self) stands)
  | .reference _ | .input _ _ _ => rfl
  | .declare _ _ _ _ valueYields =>
      simp only [List.forall_mem_cons] at fit
      exact valueYields.literalsFit fit.2.2.2.2
  | .reassign _ _ _ valueYields =>
      simp only [List.forall_mem_cons] at fit
      exact valueYields.literalsFit fit.2.2
  | .grouping _ innerYields _ =>
      simp only [List.forall_mem_cons, List.forall_mem_append] at fit
      exact innerYields.literalsFit fit.2.1
  | .unary _ operandYields =>
      simp only [List.forall_mem_cons] at fit
      exact operandYields.literalsFit fit.2
  | .binary leftYields _ rightYields =>
      simp only [List.forall_mem_cons, List.forall_mem_append] at fit
      rw [inExpression, leftYields.literalsFit fit.1, rightYields.literalsFit fit.2.2]
      rfl
  | .cast innerYields _ _ =>
      simp only [List.forall_mem_append] at fit
      exact innerYields.literalsFit fit.1
  | .call _ _ argumentsYield =>
      simp only [List.forall_mem_cons] at fit
      exact argumentsYield.literalsFit fit.2.2

theorem Expression.AllYield.literalsFit
    {values : List Expression} {tokens : List Token} (yield : Expression.AllYield values tokens)
    (fit : ∀ token ∈ tokens, token.NumberFits) :
    Condition.literalsFit.inArguments values = true := by
  match yield with
  | .nil => rfl
  | .cons firstYields othersYield =>
      rw [List.forall_mem_append] at fit
      rw [inArguments, firstYields.literalsFit fit.1, othersYield.literalsFit fit.2, Bool.and_self]

end

mutual

theorem Statement.Yields.literalsFit
    {statement : Statement} {tokens : List Token} (yields : statement.Yields tokens)
    (fit : ∀ token ∈ tokens, token.NumberFits) :
    Condition.literalsFit.inStatement statement = true := by
  match yields with
  | .expression valueYields => exact valueYields.literalsFit fit
  | .print valueYields _ | .giveBack valueYields _ =>
      rw [List.forall_mem_append] at fit
      exact valueYields.literalsFit fit.1
  | .giveNothingBack _ | .leave _ => rfl
  | .block _ bodyYields _ =>
      simp only [List.forall_mem_cons, List.forall_mem_append] at fit
      exact bodyYields.literalsFit fit.2.1
  | .condition _ guardYields bodyYields othersYield otherwiseYields =>
      simp only [List.forall_mem_cons, List.forall_mem_append] at fit
      obtain ⟨_, guardFits, bodyFits, othersFit, otherwiseFits⟩ := fit
      simp [inStatement, inBranch, guardYields.literalsFit guardFits,
        bodyYields.literalsFit bodyFits, othersYield.literalsFit othersFit,
        otherwiseYields.literalsFit otherwiseFits]
  | .routine _ _ _ _ _ _ bodyYields =>
      simp only [List.forall_mem_cons, List.forall_mem_append] at fit
      exact bodyYields.literalsFit fit.2.2.2.2.2
  | .loop _ bodyYields =>
      rw [List.forall_mem_cons] at fit
      exact bodyYields.literalsFit fit.2

theorem Statement.AllYield.literalsFit
    {statements : List Statement} {tokens : List Token}
    (yield : Statement.AllYield statements tokens) (fit : ∀ token ∈ tokens, token.NumberFits) :
    Condition.literalsFit.inStatements statements = true := by
  match yield with
  | .nil => rfl
  | .cons firstYields othersYield =>
      rw [List.forall_mem_append] at fit
      rw [inStatements, firstYields.literalsFit fit.1, othersYield.literalsFit fit.2, Bool.and_self]

theorem Statement.BodyYields.literalsFit
    {construct : Construct} {body : List Statement} {tokens : List Token}
    (yields : Statement.BodyYields construct body tokens)
    (fit : ∀ token ∈ tokens, token.NumberFits) :
    Condition.literalsFit.inStatements body = true := by
  match yields with
  | .direct _ singleYields =>
      rw [List.forall_mem_cons] at fit
      rw [inStatements, singleYields.literalsFit fit.2, inStatements, Bool.and_self]
  | .closed bodyYields _ =>
      rw [List.forall_mem_append] at fit
      exact bodyYields.literalsFit fit.1

theorem Branch.AllYield.literalsFit
    {branches : List Branch} {tokens : List Token} (yield : Branch.AllYield branches tokens)
    (fit : ∀ token ∈ tokens, token.NumberFits) :
    Condition.literalsFit.inBranches branches = true := by
  match yield with
  | .nil => rfl
  | .cons _ guardYields bodyYields othersYield =>
      simp only [List.forall_mem_cons, List.forall_mem_append] at fit
      obtain ⟨_, guardFits, bodyFits, othersFit⟩ := fit
      simp [inBranches, inBranch, guardYields.literalsFit guardFits,
        bodyYields.literalsFit bodyFits, othersYield.literalsFit othersFit]

theorem Statement.OtherwiseYields.literalsFit
    {otherwise : Option (List Statement)} {tokens : List Token}
    (yields : Statement.OtherwiseYields otherwise tokens)
    (fit : ∀ token ∈ tokens, token.NumberFits) :
    Condition.literalsFit.inOtherwise otherwise = true := by
  match yields with
  | .none => rfl
  | .body _ bodyYields =>
      rw [List.forall_mem_cons] at fit
      exact bodyYields.literalsFit fit.2

end

/-- The program of a source: what its tokens are parsed to. -/
def Program.Written (program : Program) : Prop :=
  ∃ source tokens, Token.tokenize source = .ok tokens ∧ parse tokens = .ok program

theorem Program.Written.literalsFit {program : Program} (written : program.Written) :
    Condition.literalsFit.inProgram program = true := by
  obtain ⟨source, tokens, tokenized, parsed⟩ := written
  obtain ⟨kept, spaced, yields⟩ := yields_of_parse parsed
  refine Statement.AllYield.literalsFit yields ?_
  intro token keeps
  have stands : token ∈ tokens := (List.mem_filter.mp (spaced.subset token keeps)).1
  exact (Token.reads_of_tokenize tokenized).numbersFit token stands

/-! ## Points -/

theorem Condition.literalsFit_values :
    ValueContract Condition.literalsFit Literal.Fits (fun _ => True) where
  named _ _ := ⟨⟩
  parameters _ _ _ := ⟨⟩
  literal holds := of_decide_eq_true holds
  void := Literal.fits_void
  unary := Operation.fits_unary
  binary fits _ := Operation.fits_binary fits
  cast fits _ := Literal.fits_cast fits
  line _ := Literal.fits_ofLine

/-- What a part of a program gives fits: its value, its arguments, or the value for its zoop. -/
def Task.GivesFitting : (task : Task) → task.Result → Prop
  | .expression _ => Literal.Fits
  | .arguments _ _ _ => Bindings.Every Literal.Fits
  | .statement _ | .statements _ | .otherwise _ | .rounds _ _ _ | .zoop _ => fun flow =>
      ∀ literal, flow = .value literal → literal.Fits
  | .branch _ | .branches _ => fun chosen =>
      ∀ literal, chosen = some (.value literal) → literal.Fits
  | .program _ => fun _ => True

variable {κ : Type} [Console κ]

/-- All values fit at a point: those that scopes and argument contexts hold, before and after it is
run, and those that it gives. -/
structure Point.Fitting (point : Point κ) : Prop where
  before : point.machine.environment.Every Literal.Fits
  after : point.ending.2.environment.Every Literal.Fits
  result : ∀ result, point.ending.1 = .ok result → point.task.GivesFitting result

theorem Bindings.Every.imp
    {First Second : Literal → Prop} {bindings : Bindings} (every : bindings.Every First)
    (implies : ∀ literal, First literal → Second literal) : bindings.Every Second :=
  fun entry member => implies entry.2 (every entry member)

theorem Environment.Every.imp
    {First Second : Literal → Prop} {environment : Environment} (every : environment.Every First)
    (implies : ∀ literal, First literal → Second literal) : environment.Every Second := by
  constructor
  · intro scope isOpen
    have inScope := every.scopes scope isOpen
    exact ⟨inScope.mutables.imp implies, inScope.immutables.imp implies⟩
  · intro context isActive
    exact (every.contexts context isActive).imp implies

/-- At every point of the runs of programs that have a source, one after the other on one machine and
whether they fail or not, every value fits its data type. -/
theorem numbers_fit_at_every_point
    (fuel : Nat) (programs : List Program) (console : κ)
    (written : ∀ program ∈ programs, program.Written)
    (point : Point κ) (visited : Program.Visited fuel programs console point) :
    point.Fitting := by
  have literalsFit : ∀ program ∈ programs, Condition.literalsFit.inProgram program = true :=
    fun program member => (written program member).literalsFit
  have contract := Condition.literalsFit_values.contract
  obtain ⟨ready, ends⟩ := contract.of_visited literalsFit Environment.every_initial visited
  have storedFits : ∀ literal, Stored Literal.Fits (fun _ => True) literal → literal.Fits :=
    fun _ stored => stored.1
  refine ⟨ready.sound.kept.imp storedFits, ends.kept.kept.imp storedFits, ?_⟩
  intro result given
  have delivers := ends.good result given
  obtain ⟨pointFuel, task, machine⟩ := point
  cases task with
  | expression => exact delivers
  | arguments => exact Bindings.Every.imp delivers storedFits
  | statement | statements | otherwise | rounds | zoop =>
      exact fun literal isValue => (delivers literal isValue).1
  | branch | branches =>
      exact fun literal chosen => (delivers (.value literal) chosen literal rfl).1
  | program => exact ⟨⟩

/-- An unsigned number below zero, which becomes zero. -/
def clampedSource : String :=
  "@x:uint <- -3u"

def clampedTokens : List Token := [
  ⟨.variable, "@x", ⟨1, 0⟩, ⟨0, 2⟩, some (.string "x")⟩,
  ⟨.colon, ":", ⟨1, 2⟩, ⟨2, 1⟩, none⟩,
  ⟨.keyword, "uint", ⟨1, 3⟩, ⟨3, 4⟩, none⟩,
  ⟨.flowIn, "<-", ⟨1, 8⟩, ⟨8, 2⟩, none⟩,
  ⟨.unaryOperator, "-", ⟨1, 11⟩, ⟨11, 1⟩, none⟩,
  ⟨.literal, "3u", ⟨1, 12⟩, ⟨12, 2⟩, some (.number (.ofBits 0x4008000000000000))⟩]

def clampedValue : Expression :=
  .unary ⟨1, 11⟩ .negate (.literal ⟨1, 12⟩ ⟨.uint, .number (.ofBits 0x4008000000000000)⟩)

def clampedProgram : Program :=
  ⟨[.expression ⟨1, 0⟩ (.declare ⟨1, 0⟩ ⟨true, "x"⟩ .uint clampedValue)]⟩

theorem numbers_fit_in_clampedProgram :
    Token.tokenize clampedSource = .ok clampedTokens ∧
      Program.parse clampedTokens = .ok clampedProgram ∧
      let point : Point BufferedConsole :=
        ⟨1, .expression clampedValue, Machine.start (BufferedConsole.ofInput [])⟩
      Program.Visited 1 [clampedProgram] (BufferedConsole.ofInput []) point ∧
        point.ending.1 = .ok ⟨.uint, .number .zero⟩ ∧ point.Fitting := by
  have tokenized : Token.tokenize clampedSource = .ok clampedTokens :=
    Token.tokenize_eq_ok (by decide +kernel)
  have parsed : Program.parse clampedTokens = .ok clampedProgram := by rfl
  have written : ∀ program ∈ [clampedProgram], program.Written := by
    intro program member
    rw [List.mem_singleton.mp member]
    exact ⟨clampedSource, clampedTokens, tokenized, parsed⟩
  let start : Point BufferedConsole :=
    ⟨1, .program clampedProgram.statements, Machine.start (BufferedConsole.ofInput [])⟩
  have declared : Visits start _ := (Visits.next .here .top).next .effect
  have visited : Program.Visited 1 [clampedProgram] (BufferedConsole.ofInput [])
      ⟨1, .expression clampedValue, Machine.start (BufferedConsole.ofInput [])⟩ :=
    ⟨[], clampedProgram, [], rfl, declared.next .declared⟩
  exact ⟨tokenized, parsed, visited, rfl, numbers_fit_at_every_point 1 _ _ written _ visited⟩

end Zoop
