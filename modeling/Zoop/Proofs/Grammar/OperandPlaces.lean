import Zoop.Interpretation
import Zoop.Proofs.Evaluation.ErrorCauses
import Zoop.Proofs.Grammar.InsertedComment
import Zoop.Proofs.Grammar.PrefixOperators

/-!
# The places of operands

An error about an operand points at the operand.  The operand stands in the source as consecutive tokens,
and the place that it points at is that of the first of them, unless the operand starts with a cast: a
cast points at the keyword of its data type, which stands behind the expression that is cast.  A chain of
operators points where its first operand does.
-/

namespace Zoop

open Grammar

/-! ## First operands -/

namespace Expression

/-- Whether the expression, or the first operand of the chain of operators that it is, is a cast. -/
def leadsWithCast : Expression → Bool
  | .binary _ _ _ left _ => left.leadsWithCast
  | .cast _ _ _ => true
  | _ => false

/-- An expression without a leading cast points at its first token. -/
theorem Yields.position_of_first
    {tree : Expression} {first : Token} {others : List Token}
    (yields : tree.Yields (first :: others)) (noCast : tree.leadsWithCast = false) :
    tree.position = first.position := by
  generalize takenIs : first :: others = taken at yields
  cases yields with
  | binary leftYields _ _ =>
      obtain ⟨head, tail, rfl, _⟩ := leftYields.head
      obtain ⟨rfl, _⟩ := List.cons.inj takenIs
      exact leftYields.position_of_first noCast
  | cast _ _ _ => cases noCast
  | literal _ | reference _ | declare _ _ _ _ _ | reassign _ _ _ _ | grouping _ _ _ | unary _ _
  | input _ _ _ | call _ _ _ =>
      obtain ⟨rfl, _⟩ := List.cons.inj takenIs
      rfl
termination_by sizeOf tree

/-- An expression with a leading cast points at the keyword of a data type, which stands behind the mark
of the cast and the expression before that. -/
theorem Yields.position_of_cast
    {tree : Expression} {first : Token} {others : List Token}
    (yields : tree.Yields (first :: others)) (casts : tree.leadsWithCast = true) :
    ∃ inner mark word later, others = inner ++ mark :: word :: later ∧
      mark.lexeme = "~" ∧ word.isTypeKeyword = true ∧ tree.position = word.position := by
  generalize takenIs : first :: others = taken at yields
  cases yields with
  | binary leftYields _ _ =>
      obtain ⟨head, tail, rfl, _⟩ := leftYields.head
      obtain ⟨rfl, rfl⟩ := List.cons.inj takenIs
      obtain ⟨inner, mark, word, later, rfl, isMark, isType, points⟩ :=
        leftYields.position_of_cast casts
      exact ⟨inner, mark, word, later ++ _ :: _, List.append_assoc inner _ _, isMark, isType, points⟩
  | cast innerYields isMark isType =>
      obtain ⟨head, tail, rfl, _⟩ := innerYields.head
      obtain ⟨rfl, rfl⟩ := List.cons.inj takenIs
      exact ⟨tail, _, _, [], rfl, isMark, by rw [Token.isTypeKeyword, isType]; rfl, rfl⟩
  | literal _ | reference _ | declare _ _ _ _ _ | reassign _ _ _ _ | grouping _ _ _ | unary _ _
  | input _ _ _ | call _ _ _ => cases casts
termination_by sizeOf tree

end Expression

/-! ## Different tokens, different places -/

namespace Token

theorem TilesFrom.precedes
    {source : List Char} {offset : Nat} {tokens : List Token} (tiles : TilesFrom source offset tokens)
    {first second : Token} (isFirst : first ∈ tokens) (isSecond : second ∈ tokens)
    (ordered : first.span.stop ≤ second.span.offset) : first.position.Precedes second.position := by
  have nonempty := tiles.nonempty first isFirst
  have inside := (tiles.lexemes second isSecond).1
  unfold Span.stop at ordered inside
  have split :
      source.take second.span.offset =
        source.take first.span.offset ++
          (source.take second.span.offset).drop first.span.offset := by
    have parts := List.take_append_drop first.span.offset (source.take second.span.offset)
    rw [List.take_take, Nat.min_eq_left (by omega)] at parts
    exact parts.symm
  rw [tiles.positions first isFirst, tiles.positions second isSecond, split, Position.afterAll_append]
  apply Position.precedes_afterAll
  intro empty
  have noLength := congrArg List.length empty
  simp only [List.length_drop, List.length_take, List.length_nil] at noLength
  omega

/-- The tokens of a source stand at places that follow each other. -/
theorem precedes_of_tokenize
    {source : String} {tokens : List Token} (tokenized : tokenize source = .ok tokens) :
    tokens.Pairwise fun first second => first.position.Precedes second.position := by
  have tiles := tilesFrom_of_tokenize tokenized
  exact tiles.ordered.imp_of_mem tiles.precedes

/-- Later tokens among consecutive ones stand elsewhere than the first. -/
theorem position_ne_of_tokenize
    {source : String} {tokens others : List Token} {first later : Token}
    (tokenized : tokenize source = .ok tokens) (inside : first :: others <:+: significant tokens)
    (member : later ∈ others) : later.position ≠ first.position := by
  have ordered := (precedes_of_tokenize tokenized).sublist
    (inside.sublist.trans (List.filter_sublist (l := tokens)))
  have precedes := (List.pairwise_cons.mp ordered).1 later member
  intro same
  rw [same] at precedes
  rcases precedes with above | ⟨_, left⟩
  · exact Nat.lt_irrefl _ above
  · exact Nat.lt_irrefl _ left

end Token

/-! ## Operands of a program -/

/-- The tokens of an operand, and whether it points at the first of them.  Where it does not, it points at
the data type of a cast further on. -/
structure OperandAt (operand : Expression) (first : Token) (others : List Token) : Prop where
  yields : operand.Yields (first :: others)
  pointsAtFirst : operand.position = first.position ↔ operand.leadsWithCast = false
  pointsAtType : operand.leadsWithCast = true →
    ∃ inner mark word later, others = inner ++ mark :: word :: later ∧
      mark.lexeme = "~" ∧ word.isTypeKeyword = true ∧ operand.position = word.position

/-- The tokens of an operator and of its two operands follow each other. -/
structure OperandsAt
    (tokens : List Token) (operator : BinaryOperator) (place : Position) (left right : Expression)
    (first : Token) (leftOthers : List Token) (second : Token) (rightOthers : List Token) : Prop where
  consecutive : ∃ mark, mark.IsBinary operator ∧ mark.position = place ∧
    first :: (leftOthers ++ mark :: second :: rightOthers) <:+: significant tokens
  leftYields : left.Yields (first :: leftOthers)
  rightYields : right.Yields (second :: rightOthers)

theorem exists_operandsAt
    {tokens : List Token} {program : Program} {position place : Position}
    {operator : BinaryOperator} {left right : Expression}
    (parsed : Program.parse tokens = .ok program)
    (has : program.HasExpression (.binary position operator place left right)) :
    ∃ first leftOthers second rightOthers,
      OperandsAt tokens operator place left right first leftOthers second rightOthers := by
  obtain ⟨taken, inside, yields⟩ := Program.standsIn_of_parse parsed has
  cases yields with
  | @binary mark _ _ _ _ _ leftYields isOperator rightYields =>
      obtain ⟨first, leftOthers, rfl, _⟩ := leftYields.head
      obtain ⟨second, rightOthers, rfl, _⟩ := rightYields.head
      exact ⟨first, leftOthers, second, rightOthers, ⟨mark, isOperator, rfl, inside⟩, leftYields,
        rightYields⟩

/-- Among the tokens of a source the keyword of a data type never stands where an operand starts. -/
theorem operandAt_of_yields
    {source : String} {tokens others : List Token} {operand : Expression} {first : Token}
    (tokenized : Token.tokenize source = .ok tokens) (yields : operand.Yields (first :: others))
    (inside : first :: others <:+: significant tokens) : OperandAt operand first others := by
  refine ⟨yields, ⟨fun same => ?_, yields.position_of_first⟩, yields.position_of_cast⟩
  cases casts : operand.leadsWithCast with
  | false => rfl
  | true =>
      obtain ⟨inner, mark, word, later, rfl, _, _, points⟩ := yields.position_of_cast casts
      have member : word ∈ inner ++ mark :: word :: later := by simp
      exact absurd (points.symm.trans same)
        (Token.position_ne_of_tokenize tokenized inside member)

theorem OperandsAt.left
    {source : String} {tokens : List Token} {operator : BinaryOperator} {place : Position}
    {left right : Expression} {first second : Token} {leftOthers rightOthers : List Token}
    (tokenized : Token.tokenize source = .ok tokens)
    (operandsAt : OperandsAt tokens operator place left right first leftOthers second rightOthers) :
    OperandAt left first leftOthers := by
  obtain ⟨mark, _, _, inside⟩ := operandsAt.consecutive
  have part : first :: leftOthers <:+: significant tokens :=
    (List.prefix_append (first :: leftOthers) _).isInfix.trans inside
  exact operandAt_of_yields tokenized operandsAt.leftYields part

theorem OperandsAt.right
    {source : String} {tokens : List Token} {operator : BinaryOperator} {place : Position}
    {left right : Expression} {first second : Token} {leftOthers rightOthers : List Token}
    (tokenized : Token.tokenize source = .ok tokens)
    (operandsAt : OperandsAt tokens operator place left right first leftOthers second rightOthers) :
    OperandAt right second rightOthers := by
  obtain ⟨mark, _, _, inside⟩ := operandsAt.consecutive
  have behind : mark :: second :: rightOthers <:+: significant tokens :=
    (List.suffix_append (first :: leftOthers) _).isInfix.trans inside
  exact operandAt_of_yields tokenized operandsAt.rightYields
    ((List.suffix_cons mark _).isInfix.trans behind)

/-! ## Errors about operands -/

/-- Whether the cause of an error lies in one operand of an operator. -/
def RuntimeCause.blamesOperand : RuntimeCause → Bool
  | .numericOperands _ _ | .logicOperands _ _ | .divisionByZero | .concatVoid => true
  | _ => false

/-- An error about an operand points where one of the two operands does. -/
theorem Operation.Refuses.position_of_operand
    {operator : BinaryOperator} {left right : Operand} {place : Position} {error : RuntimeError}
    (refuses : Refuses operator left right place error) (blames : error.cause.blamesOperand = true) :
    error.position = left.position ∨ error.position = right.position := by
  cases refuses with
  | leftNumber | leftTruth | leftVoid => exact .inl rfl
  | rightNumber | rightTruth | rightVoid | zero => exact .inr rfl
  | mixed | differentTypes => cases blames

/-- Every operator of a source that is accepted stands between its operands.  An operand points at the
first of its tokens exactly if it does not start with a cast, and otherwise at the data type of that cast.
Errors about operands point where the operands do, whatever values these have. -/
theorem operand_points_at_first_token_iff
    {source : String} {tokens : List Token} {program : Program}
    (tokenized : Token.tokenize source = .ok tokens) (parsed : Program.parse tokens = .ok program)
    {position place : Position} {operator : BinaryOperator} {left right : Expression}
    (has : program.HasExpression (.binary position operator place left right)) :
    (∃ first leftOthers second rightOthers,
      OperandsAt tokens operator place left right first leftOthers second rightOthers) ∧
    (∀ first leftOthers second rightOthers,
      OperandsAt tokens operator place left right first leftOthers second rightOthers →
        OperandAt left first leftOthers ∧ OperandAt right second rightOthers) ∧
    ∀ leftValue rightValue error,
      Operation.binary operator ⟨leftValue, left.position⟩ ⟨rightValue, right.position⟩ place =
        .error error →
      error.cause.blamesOperand = true →
      error.position = left.position ∨ error.position = right.position :=
  ⟨exists_operandsAt parsed has,
    fun _ _ _ _ operandsAt => ⟨operandsAt.left tokenized, operandsAt.right tokenized⟩,
    fun _ _ _ refused blames => (Operation.binary_eq_error refused).position_of_operand blames⟩

/-- A source with a chain of operators as an operand, which starts with a bracket. -/
def dividingSource : String :=
  "8 - (2 ~int) / 0 ->|"

def dividingTokens : List Token := [
  ⟨.literal, "8", ⟨1, 0⟩, ⟨0, 1⟩, some (.number (.ofBits 0x4020000000000000))⟩,
  ⟨.binaryOperator, "-", ⟨1, 2⟩, ⟨2, 1⟩, none⟩,
  ⟨.parenOpen, "(", ⟨1, 4⟩, ⟨4, 1⟩, none⟩,
  ⟨.literal, "2", ⟨1, 5⟩, ⟨5, 1⟩, some (.number (.ofBits 0x4000000000000000))⟩,
  ⟨.unaryOperator, "~", ⟨1, 7⟩, ⟨7, 1⟩, none⟩,
  ⟨.keyword, "int", ⟨1, 8⟩, ⟨8, 3⟩, none⟩,
  ⟨.parenClose, ")", ⟨1, 11⟩, ⟨11, 1⟩, none⟩,
  ⟨.binaryOperator, "/", ⟨1, 13⟩, ⟨13, 1⟩, none⟩,
  ⟨.literal, "0", ⟨1, 15⟩, ⟨15, 1⟩, some (.number .zero)⟩,
  ⟨.output, "->|", ⟨1, 17⟩, ⟨17, 3⟩, none⟩]

def dividingEight : Expression :=
  .literal ⟨1, 0⟩ ⟨.int, .number (.ofBits 0x4020000000000000)⟩

def dividingQuotient : Expression :=
  .binary ⟨1, 4⟩ .div ⟨1, 13⟩
    (.grouping ⟨1, 4⟩
      (.cast ⟨1, 8⟩ .int (.literal ⟨1, 5⟩ ⟨.int, .number (.ofBits 0x4000000000000000)⟩)))
    (.literal ⟨1, 15⟩ ⟨.int, .number .zero⟩)

def dividingProgram : Program :=
  ⟨[.print ⟨1, 17⟩ (.binary ⟨1, 0⟩ .sub ⟨1, 2⟩ dividingEight dividingQuotient)]⟩

theorem operands_of_dividingSource_point_at_first_tokens :
    Token.tokenize dividingSource = .ok dividingTokens ∧
    Program.parse dividingTokens = .ok dividingProgram ∧
    ∃ first leftOthers second rightOthers,
      OperandsAt dividingTokens .sub ⟨1, 2⟩ dividingEight dividingQuotient first leftOthers second
        rightOthers ∧
      dividingEight.position = first.position ∧ dividingQuotient.position = second.position := by
  have tokenized : Token.tokenize dividingSource = .ok dividingTokens :=
    Token.tokenize_eq_ok (by decide +kernel)
  have parsed : Program.parse dividingTokens = .ok dividingProgram := by rfl
  have has : dividingProgram.HasExpression
      (.binary ⟨1, 0⟩ .sub ⟨1, 2⟩ dividingEight dividingQuotient) :=
    .direct (.top (.head _)) (.head _)
  obtain ⟨⟨first, leftOthers, second, rightOthers, operandsAt⟩, points, _⟩ :=
    operand_points_at_first_token_iff tokenized parsed has
  obtain ⟨left, right⟩ := points _ _ _ _ operandsAt
  exact ⟨tokenized, parsed, first, leftOthers, second, rightOthers, operandsAt,
    left.pointsAtFirst.mpr rfl, right.pointsAtFirst.mpr rfl⟩

/-! ## Operands that are cast -/

/-- Every operand of a program points at its first token. -/
def OperandsPointAtFirst (tokens : List Token) (program : Program) : Prop :=
  ∀ position operator place left right,
    program.HasExpression (.binary position operator place left right) →
    ∀ first leftOthers second rightOthers,
      OperandsAt tokens operator place left right first leftOthers second rightOthers →
      left.position = first.position ∧ right.position = second.position

/-- A source with an operand that is cast. -/
def castingSource : String :=
  "5 ~string + 1 ->|"

def castingTokens : List Token := [
  ⟨.literal, "5", ⟨1, 0⟩, ⟨0, 1⟩, some (.number (.ofBits 0x4014000000000000))⟩,
  ⟨.unaryOperator, "~", ⟨1, 2⟩, ⟨2, 1⟩, none⟩,
  ⟨.keyword, "string", ⟨1, 3⟩, ⟨3, 6⟩, none⟩,
  ⟨.binaryOperator, "+", ⟨1, 10⟩, ⟨10, 1⟩, none⟩,
  ⟨.literal, "1", ⟨1, 12⟩, ⟨12, 1⟩, some (.number (.ofBits 0x3FF0000000000000))⟩,
  ⟨.output, "->|", ⟨1, 14⟩, ⟨14, 3⟩, none⟩]

def castingSum : Expression :=
  .binary ⟨1, 3⟩ .add ⟨1, 10⟩
    (.cast ⟨1, 3⟩ .string (.literal ⟨1, 0⟩ ⟨.int, .number (.ofBits 0x4014000000000000)⟩))
    (.literal ⟨1, 12⟩ ⟨.int, .number (.ofBits 0x3FF0000000000000)⟩)

/-- An operand that is cast does not point at its first token, and neither does the error about it. -/
theorem error_about_cast_operand_points_behind_its_start :
    Token.tokenize castingSource = .ok castingTokens ∧
    Program.parse castingTokens = .ok ⟨[.print ⟨1, 14⟩ castingSum]⟩ ∧
    (Program.run ⟨[.print ⟨1, 14⟩ castingSum]⟩ (Machine.start (BufferedConsole.ofInput []))).1 =
      .error ⟨.numericOperands .add .string, ⟨1, 3⟩⟩ ∧
    ¬OperandsPointAtFirst castingTokens ⟨[.print ⟨1, 14⟩ castingSum]⟩ := by
  have tokenized : Token.tokenize castingSource = .ok castingTokens :=
    Token.tokenize_eq_ok (by decide +kernel)
  have parsed : Program.parse castingTokens = .ok ⟨[.print ⟨1, 14⟩ castingSum]⟩ := by rfl
  have has : Program.HasExpression ⟨[.print ⟨1, 14⟩ castingSum]⟩ castingSum :=
    .direct (.top (.head _)) (.head _)
  refine ⟨tokenized, parsed, by rfl, ?_⟩
  intro pointAtFirst
  obtain ⟨first, leftOthers, second, rightOthers, operandsAt⟩ := exists_operandsAt parsed has
  have points := (pointAtFirst _ _ _ _ _ has _ _ _ _ operandsAt).1
  have noCast := (operandsAt.left tokenized).pointsAtFirst.mp points
  cases noCast

end Zoop
