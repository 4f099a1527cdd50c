import Zoop.Proofs.Grammar.TokensTaken
import Zoop.Proofs.Program.Condition

/-!
# Programs that are parsed are well formed

No token stands for the absence of a value, no keyword names its data type, and no variable has an
empty name, so none of these occurs in a program.
-/

namespace Zoop

/-! ## Literals -/

/-- The value is one of those that the data type is for. -/
def Literal.agrees (literal : Literal) : Bool :=
  match literal.type, literal.value with
  | .int, .number _ | .uint, .number _ | .dec, .number _ | .udec, .number _ => true
  | .string, .string _ | .label, .string _ => true
  | .bool, .boolean _ => true
  | .void, .void => true
  | _, _ => false

theorem Literal.agrees_number {type : DataType} (numeric : type.isNumeric = true) (value : Number) :
    Literal.agrees ⟨type, .number value⟩ = true := by
  cases type with
  | int | uint | dec | udec => rfl
  | string | bool | label | void => cases numeric

theorem Literal.isNumeric_numberType (lexeme : List Char) :
    (Literal.numberType lexeme).isNumeric = true := by
  unfold numberType
  split <;> rfl

theorem DataType.ne_void_of_isNumeric {type : DataType} (numeric : type.isNumeric = true) :
    type ≠ .void := by
  rintro rfl
  cases numeric

/-! ## The condition -/

/-- A literal is what its data type says and not void, a data type that is named is that of values, and
a name is there. -/
def Expression.isWellFormed : Expression → Bool
  | .literal _ value => value.agrees && value.type != .void
  | .variable _ subject => subject.name != ""
  | .declare _ subject type _ => subject.name != "" && type != .void
  | .reassign _ name _ => name != ""
  | .cast _ type _ => type != .void
  | .input _ type _ => type != .void
  | .grouping _ _ | .unary _ _ _ | .binary _ _ _ _ _ | .call _ _ _ => true

/-- The same for the head of a zoop. -/
def Statement.isWellFormed : Statement → Bool
  | .routine _ _ parameters returnType _ =>
      (parameters.all fun parameter => parameter.name != "" && parameter.type != .void) &&
        returnType != some .void
  | _ => true

/-- Everything in a program is well formed. -/
def Condition.wellFormed : Condition :=
  ⟨Expression.isWellFormed, Statement.isWellFormed⟩

@[simp]
theorem Condition.wellFormed_expression (expression : Expression) :
    wellFormed.expression expression = expression.isWellFormed :=
  rfl

@[simp]
theorem Condition.wellFormed_statement (statement : Statement) :
    wellFormed.statement statement = statement.isWellFormed :=
  rfl

/-! ## Tokens -/

theorem Token.type_ne_void
    {token : Token} {type : DataType} (isType : token.typeKeyword? = some type) :
    type ≠ .void := by
  have named : ∀ type ∈ DataType.named, type ≠ .void := by decide
  unfold typeKeyword? at isType
  split at isType
  · exact named type (List.mem_of_find?_eq_some isType)
  · cases isType

theorem Literal.wellFormed_of_ofToken?
    {token : Token} {literal : Literal} (stands : ofToken? token = some literal) :
    literal.agrees = true ∧ literal.type ≠ .void := by
  unfold ofToken? at stands
  split at stands
  · obtain ⟨value, _, rfl⟩ := Option.map_eq_some_iff.mp stands
    cases value with
    | number value =>
        have numeric := isNumeric_numberType token.lexeme.toList
        exact ⟨agrees_number numeric value, DataType.ne_void_of_isNumeric numeric⟩
    | string value =>
        dsimp only
        split <;> exact ⟨rfl, nofun⟩
    | boolean value => exact ⟨rfl, nofun⟩
  · cases stands

theorem InputTypeYields.ne_void
    {type : DataType} {tokens : List Token} (yields : InputTypeYields type tokens) :
    type ≠ .void := by
  cases yields with
  | text => decide
  | named _ isType => exact Token.type_ne_void isType

theorem ReturnTypeYields.ne_void
    {type : Option DataType} {tokens : List Token} (yields : ReturnTypeYields type tokens) :
    type ≠ some .void := by
  cases yields with
  | none => decide
  | named _ isType =>
      intro isVoid
      exact Token.type_ne_void isType (Option.some.inj isVoid)

theorem ParametersYield.wellFormed
    {parameters : List Parameter} {tokens : List Token}
    (yield : ParametersYield parameters tokens) :
    (parameters.all fun parameter => parameter.name != "" && parameter.type != .void) = true := by
  induction yield with
  | nil => rfl
  | cons names _ _ isType _ inductionHypothesis =>
      simp [names.nonempty, Token.type_ne_void isType, inductionHypothesis]

/-! ## Expressions and statements -/

open Condition

mutual

theorem Expression.Yields.wellFormed
    {value : Expression} {tokens : List Token} (yields : value.Yields tokens) :
    Condition.wellFormed.inExpression value = true := by
  match yields with
  | .literal stands =>
      obtain ⟨agrees, nonvoid⟩ := Literal.wellFormed_of_ofToken? stands
      simp [inExpression, Expression.isWellFormed, agrees, nonvoid]
  | .reference names => simp [inExpression, Expression.isWellFormed, names.nonempty]
  | .declare names _ isType _ valueYields =>
      simp [inExpression, Expression.isWellFormed, names.nonempty, Token.type_ne_void isType,
        valueYields.wellFormed]
  | .reassign names _ _ valueYields =>
      simp [inExpression, Expression.isWellFormed, names.nonempty, valueYields.wellFormed]
  | .grouping _ innerYields _ =>
      simp [inExpression, Expression.isWellFormed, innerYields.wellFormed]
  | .unary _ operandYields =>
      simp [inExpression, Expression.isWellFormed, operandYields.wellFormed]
  | .binary leftYields _ rightYields =>
      simp [inExpression, Expression.isWellFormed, leftYields.wellFormed, rightYields.wellFormed]
  | .cast innerYields _ isType =>
      simp [inExpression, Expression.isWellFormed, Token.type_ne_void isType, innerYields.wellFormed]
  | .input _ typeYields _ => simp [inExpression, Expression.isWellFormed, typeYields.ne_void]
  | .call _ _ argumentsYield =>
      simp [inExpression, Expression.isWellFormed, argumentsYield.wellFormed]

theorem Expression.AllYield.wellFormed
    {values : List Expression} {tokens : List Token} (yield : Expression.AllYield values tokens) :
    Condition.wellFormed.inArguments values = true := by
  match yield with
  | .nil => rfl
  | .cons firstYields othersYield =>
      rw [inArguments, firstYields.wellFormed, othersYield.wellFormed, Bool.and_self]

end

mutual

theorem Statement.Yields.wellFormed
    {statement : Statement} {tokens : List Token} (yields : statement.Yields tokens) :
    Condition.wellFormed.inStatement statement = true := by
  match yields with
  | .expression valueYields =>
      simp [inStatement, Statement.isWellFormed, valueYields.wellFormed]
  | .print valueYields _ => simp [inStatement, Statement.isWellFormed, valueYields.wellFormed]
  | .giveNothingBack _ => rfl
  | .giveBack valueYields _ => simp [inStatement, Statement.isWellFormed, valueYields.wellFormed]
  | .block _ bodyYields _ => simp [inStatement, Statement.isWellFormed, bodyYields.wellFormed]
  | .condition _ guardYields bodyYields othersYield otherwiseYields =>
      simp [inStatement, inBranch, Statement.isWellFormed, guardYields.wellFormed,
        bodyYields.wellFormed, othersYield.wellFormed, otherwiseYields.wellFormed]
  | .routine _ typeYields _ _ _ parametersYield bodyYields =>
      rw [inStatement, Bool.and_eq_true]
      refine ⟨?_, bodyYields.wellFormed⟩
      simp [Statement.isWellFormed, typeYields.ne_void, parametersYield.wellFormed]
  | .loop _ bodyYields => simp [inStatement, Statement.isWellFormed, bodyYields.wellFormed]
  | .leave _ => rfl

theorem Statement.AllYield.wellFormed
    {statements : List Statement} {tokens : List Token}
    (yield : Statement.AllYield statements tokens) :
    Condition.wellFormed.inStatements statements = true := by
  match yield with
  | .nil => rfl
  | .cons firstYields othersYield =>
      rw [inStatements, firstYields.wellFormed, othersYield.wellFormed, Bool.and_self]

theorem Statement.BodyYields.wellFormed
    {construct : Construct} {body : List Statement} {tokens : List Token}
    (yields : Statement.BodyYields construct body tokens) :
    Condition.wellFormed.inStatements body = true := by
  match yields with
  | .direct _ singleYields => rw [inStatements, singleYields.wellFormed, inStatements, Bool.and_self]
  | .closed bodyYields _ => exact bodyYields.wellFormed

theorem Branch.AllYield.wellFormed
    {branches : List Branch} {tokens : List Token} (yield : Branch.AllYield branches tokens) :
    Condition.wellFormed.inBranches branches = true := by
  match yield with
  | .nil => rfl
  | .cons _ guardYields bodyYields othersYield =>
      simp [inBranches, inBranch, guardYields.wellFormed, bodyYields.wellFormed,
        othersYield.wellFormed]

theorem Statement.OtherwiseYields.wellFormed
    {otherwise : Option (List Statement)} {tokens : List Token}
    (yields : Statement.OtherwiseYields otherwise tokens) :
    Condition.wellFormed.inOtherwise otherwise = true := by
  match yields with
  | .none => rfl
  | .body _ bodyYields => exact bodyYields.wellFormed

end

/-- Every program that the grammar accepts is well formed, whatever the tokens. -/
theorem Program.wellFormed_of_parse
    {tokens : List Token} {program : Program} (parsed : parse tokens = .ok program) :
    Condition.wellFormed.inProgram program = true := by
  obtain ⟨_, _, yields⟩ := yields_of_parse parsed
  exact Statement.AllYield.wellFormed yields

end Zoop
