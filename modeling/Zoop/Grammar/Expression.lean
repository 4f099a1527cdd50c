import Zoop.Grammar.Cursor
import Zoop.Program.Expression

/-!
# The grammar of expressions

Operators between operands bind by six levels of precedence and to the left.  Below them stand the
prefix operators, then the casts, then the primary expressions.  Expressions inside a primary
expression are parsed by a given parser, which is the parser of expressions itself one level of
nesting further down; each nesting takes at least one token.
-/

namespace Zoop.Grammar

/-! ## Operators between operands -/

/-- The operator of a given level of precedence that a token stands for.  The text decides, so a `-`
that touches the operand after it still subtracts when it follows an operand. -/
def operatorAt? (level : Nat) (token : Token) : Option BinaryOperator :=
  if token.kind = .binaryOperator ∨ token.kind = .unaryOperator then
    (BinaryOperator.ofLexeme? token.lexeme).filter fun operator => operator.level == level
  else
    none

/-- Go on with a chain of operands of one level, after its first operands. -/
def chainRest (level : Nat) (operand : Parser Expression) :
    Nat → Expression → Parser Expression
  | _, left, [] => .ok (left, [])
  | bound, left, token :: rest =>
      match operatorAt? level token with
      | none => .ok (left, token :: rest)
      | some operator =>
          match bound with
          | 0 => .outOfFuel
          | bound + 1 => do
              let (right, rest) ← operand rest
              let chained := .binary left.position operator token.position left right
              chainRest level operand bound chained rest

/-- A chain of operands with operators of one level between them, which bind to the left. -/
def chain (level : Nat) (operand : Parser Expression) : Parser Expression := fun tokens => do
  let (left, rest) ← operand tokens
  chainRest level operand rest.length left rest

/-- The operands of the first six levels: below all operators stands a given parser, and each tier
above it adds the operators of the next level of lower precedence. -/
def tier (operand : Parser Expression) : Nat → Parser Expression
  | 0 => operand
  | tiers + 1 => chain (6 - tiers) (tier operand tiers)

/-! ## Casts and prefix operators -/

/-- Whether a cast stands next: the operator `~` before the keyword of a data type. -/
def startsCast : List Token → Bool
  | mark :: word :: _ => mark.lexeme == "~" && word.isTypeKeyword
  | _ => false

/-- All casts that follow an expression. -/
def casts : Expression → List Token → Expression × List Token
  | inner, mark :: word :: rest =>
      match mark.lexeme == "~", word.typeKeyword? with
      | true, some type => casts (.cast word.position type inner) rest
      | _, _ => (inner, mark :: word :: rest)
  | inner, tokens => (inner, tokens)

/-- Prefix operators before an operand.  A cast mark is none of them. -/
def unary (operand : Parser Expression) : Parser Expression
  | [] => operand []
  | token :: rest =>
      if token.kind = .unaryOperator && !startsCast (token :: rest) then
        match UnaryOperator.ofLexeme? token.lexeme with
        | none => .error ⟨.invalidExpression, token.position⟩
        | some operator => do
            let (inner, rest) ← unary operand rest
            return (.unary token.position operator inner, rest)
      else
        operand (token :: rest)

/-! ## Primary expressions -/

section Primary

variable (finish : Position) (nested : Parser Expression)

/-- Whether a token may start an argument of a call. -/
def startsArgument (token : Token) : Bool :=
  token.kind == .literal || token.kind == .variable || token.kind == .input ||
    token.kind == .parenOpen || token.kind == .unaryOperator

/-- The arguments of a call: expressions as long as one may start. -/
def arguments : Nat → Parser (List Expression)
  | 0, _ => .outOfFuel
  | bound + 1, tokens =>
      if tokens.head?.any startsArgument then do
        let (first, rest) ← nested tokens
        let (others, rest) ← arguments bound rest
        return (first :: others, rest)
      else
        .ok ([], tokens)

/-- A call, after its label and the keyword `de`. -/
def call (label : Token) : Parser Expression := fun tokens => do
  let (values, rest) ← arguments nested (tokens.length + 1) tokens
  return (.call label.position ((label.value.map TokenValue.text).getD "") values, rest)

/-- The label after an input arrow, which becomes part of the prompt. -/
def promptLabel? : List Token → Option (String × List Token)
  | [] => none
  | token :: rest =>
      if token.isLabel then
        token.value.map fun value => (value.text, rest)
      else
        none

/-- An input, after its arrow: an optional data type, which is text when left out, and an optional
label. -/
def input (position : Position) : Parser Expression := fun tokens => do
  let (type, rest) ←
    if nextIs .colon tokens then
      expectType finish .invalidDataType tokens.tail
    else
      .ok (.string, tokens)
  match promptLabel? rest with
  | some (prompt, rest) => return (.input position type (some prompt), rest)
  | none => return (.input position type none, rest)

/-- Whether the tokens after a variable give it a value. -/
def startsAssignment : List Token → Bool
  | first :: rest =>
      first.kind == .flowIn ||
        (first.kind == .colon &&
          match rest with
          | second :: third :: _ => second.kind == .keyword && third.kind == .flowIn
          | _ => false)
  | [] => false

/-- A declaration or a new value, after its variable. -/
def assignment (token : Token) : Parser Expression := fun tokens => do
  let subject ← variableOf token .invalidIdentifier
  if nextIs .flowIn tokens then
    if subject.mutable then
      let (value, rest) ← nested tokens.tail
      return (.reassign token.position subject.name value, rest)
    else
      .error ⟨.immutableReassigned, token.position⟩
  else
    let (type, rest) ← expectType finish .invalidDataType (skipKind .colon tokens)
    let (_, rest) ← expectKind finish .flowIn .invalidExpression rest
    let (value, rest) ← nested rest
    return (.declare token.position subject type value, rest)

/-- An expression that no operator takes apart. -/
def primary : Parser Expression
  | [] => .error ⟨.invalidExpression, finish⟩
  | token :: rest =>
      match token.kind with
      | .literal =>
          if token.isLabel && nextIsKeyword "de" rest then
            call nested token rest.tail
          else
            match Literal.ofToken? token with
            | some value => .ok (.literal token.position value, rest)
            | none => .error ⟨.invalidExpression, token.position⟩
      | .input => input finish token.position rest
      | .variable =>
          if startsAssignment rest then
            assignment finish nested token rest
          else do
            let subject ← variableOf token .invalidIdentifier
            return (.variable token.position subject, rest)
      | .parenOpen => do
          let (inner, rest) ← nested rest
          let (_, rest) ← expectKind finish .parenClose .unclosedGrouping rest
          return (.grouping token.position inner, rest)
      | _ => .error ⟨.invalidExpression, token.position⟩

/-- A primary expression and the casts after it. -/
def castable : Parser Expression := fun tokens => do
  let (inner, rest) ← primary finish nested tokens
  return casts inner rest

end Primary

/-! ## Whole expressions -/

/-- An expression with a given bound on its nesting. -/
def nestedExpression (finish : Position) : Nat → Parser Expression
  | 0 => fun _ => .outOfFuel
  | depth + 1 => tier (unary (castable finish (nestedExpression finish depth))) 6

/-- An expression.  It cannot nest deeper than there are tokens. -/
def expression (finish : Position) : Parser Expression := fun tokens =>
  nestedExpression finish (tokens.length + 1) tokens

end Zoop.Grammar
