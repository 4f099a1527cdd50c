import Zoop.Grammar.Statement

/-!
# The tokens of programs

Which tokens an expression, a statement or a program is written with, from left to right.  Some
tokens may be left out or stand in more than one form, so this is a relation: an input may name its
data type or not, and a body is one statement behind an arrow or ends with a keyword.  Line feeds and
comments are none of these tokens.
-/

namespace Zoop

/-! ## Single tokens -/

namespace Token

/-- The token is the name of a variable. -/
structure Names (token : Token) (subject : Variable) : Prop where
  kind : token.kind = .variable
  text : Variable.ofText? token.lexeme = some subject
  nonempty : subject.name ≠ ""

/-- The token is an operator between operands.  An operator that touches its right operand counts as
well. -/
def IsBinary (token : Token) (operator : BinaryOperator) : Prop :=
  (token.kind = .binaryOperator ∨ token.kind = .unaryOperator) ∧
    BinaryOperator.ofLexeme? token.lexeme = some operator

/-- The token is an operator before an operand. -/
def IsUnary (token : Token) (operator : UnaryOperator) : Prop :=
  token.kind = .unaryOperator ∧ UnaryOperator.ofLexeme? token.lexeme = some operator

end Token

/-! ## Expressions -/

/-- The data type of an input, which is text if no tokens name it. -/
inductive InputTypeYields : DataType → List Token → Prop
  | text : InputTypeYields .string []
  | named {colon word : Token} {type : DataType}
      (isColon : colon.kind = .colon) (isType : word.typeKeyword? = some type) :
      InputTypeYields type [colon, word]

/-- The prompt of an input. -/
inductive PromptYields : Option String → List Token → Prop
  | none : PromptYields none []
  | label {token : Token} {value : TokenValue}
      (isLabel : token.isLabel = true) (hasValue : token.value = some value) :
      PromptYields (some value.text) [token]

mutual

/-- The tokens of an expression. -/
inductive Expression.Yields : Expression → List Token → Prop
  | literal {token : Token} {value : Literal} (stands : Literal.ofToken? token = some value) :
      Yields (.literal token.position value) [token]
  | reference {token : Token} {subject : Variable} (names : token.Names subject) :
      Yields (.variable token.position subject) [token]
  | declare {name colon word arrow : Token} {subject : Variable} {type : DataType}
      {value : Expression} {tokens : List Token}
      (names : name.Names subject) (isColon : colon.kind = .colon)
      (isType : word.typeKeyword? = some type) (isArrow : arrow.kind = .flowIn)
      (valueYields : value.Yields tokens) :
      Yields (.declare name.position subject type value) (name :: colon :: word :: arrow :: tokens)
  | reassign {name arrow : Token} {subject : Variable} {value : Expression} {tokens : List Token}
      (names : name.Names subject) (mutable : subject.mutable = true)
      (isArrow : arrow.kind = .flowIn) (valueYields : value.Yields tokens) :
      Yields (.reassign name.position subject.name value) (name :: arrow :: tokens)
  | grouping {opening closing : Token} {inner : Expression} {tokens : List Token}
      (opens : opening.kind = .parenOpen) (innerYields : inner.Yields tokens)
      (closes : closing.kind = .parenClose) :
      Yields (.grouping opening.position inner) (opening :: (tokens ++ [closing]))
  | unary {mark : Token} {operator : UnaryOperator} {operand : Expression} {tokens : List Token}
      (isOperator : mark.IsUnary operator) (operandYields : operand.Yields tokens) :
      Yields (.unary mark.position operator operand) (mark :: tokens)
  | binary {mark : Token} {operator : BinaryOperator} {left right : Expression}
      {leftTokens rightTokens : List Token}
      (leftYields : left.Yields leftTokens) (isOperator : mark.IsBinary operator)
      (rightYields : right.Yields rightTokens) :
      Yields (.binary left.position operator mark.position left right)
        (leftTokens ++ mark :: rightTokens)
  | cast {mark word : Token} {type : DataType} {inner : Expression} {tokens : List Token}
      (innerYields : inner.Yields tokens) (isMark : mark.lexeme = "~")
      (isType : word.typeKeyword? = some type) :
      Yields (.cast word.position type inner) (tokens ++ [mark, word])
  | input {arrow : Token} {type : DataType} {prompt : Option String}
      {typeTokens promptTokens : List Token}
      (isArrow : arrow.kind = .input) (typeYields : InputTypeYields type typeTokens)
      (promptYields : PromptYields prompt promptTokens) :
      Yields (.input arrow.position type prompt) (arrow :: (typeTokens ++ promptTokens))
  | call {label word : Token} {arguments : List Expression} {tokens : List Token}
      (isLabel : label.isLabel = true) (isDe : word.isKeyword "de" = true)
      (argumentsYield : Expression.AllYield arguments tokens) :
      Yields (.call label.position ((label.value.map TokenValue.text).getD "") arguments)
        (label :: word :: tokens)

/-- The tokens of the arguments of a call. -/
inductive Expression.AllYield : List Expression → List Token → Prop
  | nil : AllYield [] []
  | cons {first : Expression} {others : List Expression} {firstTokens othersTokens : List Token}
      (firstYields : first.Yields firstTokens) (othersYield : AllYield others othersTokens) :
      AllYield (first :: others) (firstTokens ++ othersTokens)

end

/-! ## Statements -/

/-- The data type that a zoop hands back, if tokens name one. -/
inductive ReturnTypeYields : Option DataType → List Token → Prop
  | none : ReturnTypeYields none []
  | named {colon word : Token} {type : DataType}
      (isColon : colon.kind = .colon) (isType : word.typeKeyword? = some type) :
      ReturnTypeYields (some type) [colon, word]

/-- The tokens of the parameters of a zoop. -/
inductive ParametersYield : List Parameter → List Token → Prop
  | nil : ParametersYield [] []
  | cons {name colon word : Token} {subject : Variable} {type : DataType}
      {others : List Parameter} {tokens : List Token}
      (names : name.Names subject) (immutable : subject.mutable = false)
      (isColon : colon.kind = .colon) (isType : word.typeKeyword? = some type)
      (othersYield : ParametersYield others tokens) :
      ParametersYield (⟨subject.name, type⟩ :: others) (name :: colon :: word :: tokens)

mutual

/-- The tokens of a statement. -/
inductive Statement.Yields : Statement → List Token → Prop
  | expression {value : Expression} {tokens : List Token} (valueYields : value.Yields tokens) :
      Statement.Yields (.expression value.position value) tokens
  | print {value : Expression} {tokens : List Token} {arrow : Token}
      (valueYields : value.Yields tokens) (isArrow : arrow.kind = .output) :
      Statement.Yields (.print arrow.position value) (tokens ++ [arrow])
  | giveNothingBack {arrow : Token} (isArrow : arrow.kind = .flowOut) :
      Statement.Yields (.giveBack arrow.position none) [arrow]
  | giveBack {value : Expression} {tokens : List Token} {arrow : Token}
      (valueYields : value.Yields tokens) (isArrow : arrow.kind = .flowOut) :
      Statement.Yields (.giveBack arrow.position (some value)) (tokens ++ [arrow])
  | block {opening closing : Token} {body : List Statement} {tokens : List Token}
      (opens : opening.kind = .blockOpen) (bodyYields : Statement.AllYield body tokens)
      (closes : closing.kind = .blockClose) :
      Statement.Yields (.block opening.position body) (opening :: (tokens ++ [closing]))
  | condition {word : Token} {guard : Expression} {body : List Statement} {others : List Branch}
      {otherwise : Option (List Statement)}
      {guardTokens bodyTokens othersTokens otherwiseTokens : List Token}
      (isIf : word.isKeyword "if" = true) (guardYields : guard.Yields guardTokens)
      (bodyYields : Statement.BodyYields .ifBranch body bodyTokens)
      (othersYield : Branch.AllYield others othersTokens)
      (otherwiseYields : Statement.OtherwiseYields otherwise otherwiseTokens) :
      Statement.Yields (.condition word.position (.mk word.position guard body) others otherwise)
        (word :: (guardTokens ++ (bodyTokens ++ (othersTokens ++ otherwiseTokens))))
  | routine {word label arrow : Token} {value : TokenValue} {parameters : List Parameter}
      {returnType : Option DataType} {body : List Statement}
      {typeTokens parameterTokens bodyTokens : List Token}
      (isZoop : word.isKeyword "zoop" = true)
      (typeYields : ReturnTypeYields returnType typeTokens)
      (isLabel : label.isLabel = true) (hasValue : label.value = some value)
      (isArrow : arrow.kind = .flowIn)
      (parametersYield : ParametersYield parameters parameterTokens)
      (bodyYields : Statement.BodyYields .zoop body bodyTokens) :
      Statement.Yields (.routine word.position value.text parameters returnType body)
        (word :: (typeTokens ++ (label :: arrow :: (parameterTokens ++ bodyTokens))))
  | loop {word : Token} {body : List Statement} {tokens : List Token}
      (isLoop : word.isKeyword "loop" = true)
      (bodyYields : Statement.BodyYields .loop body tokens) :
      Statement.Yields (.loop word.position body) (word :: tokens)
  | leave {word : Token} (isEnd : word.isKeyword "end" = true) :
      Statement.Yields (.leave word.position) [word]

/-- The tokens of statements one after the other. -/
inductive Statement.AllYield : List Statement → List Token → Prop
  | nil : Statement.AllYield [] []
  | cons {first : Statement} {others : List Statement} {firstTokens othersTokens : List Token}
      (firstYields : first.Yields firstTokens) (othersYield : Statement.AllYield others othersTokens) :
      Statement.AllYield (first :: others) (firstTokens ++ othersTokens)

/-- The tokens of a body: an arrow and one statement, or statements and the closing keyword. -/
inductive Statement.BodyYields : Construct → List Statement → List Token → Prop
  | direct {construct : Construct} {arrow : Token} {single : Statement} {tokens : List Token}
      (isArrow : arrow.kind = .direct) (singleYields : single.Yields tokens) :
      Statement.BodyYields construct [single] (arrow :: tokens)
  | closed {construct : Construct} {body : List Statement} {tokens : List Token} {word : Token}
      (bodyYields : Statement.AllYield body tokens)
      (closes : word.isKeyword construct.closing = true) :
      Statement.BodyYields construct body (tokens ++ [word])

/-- The tokens of the branches that start with `elif`. -/
inductive Branch.AllYield : List Branch → List Token → Prop
  | nil : Branch.AllYield [] []
  | cons {word : Token} {guard : Expression} {body : List Statement} {others : List Branch}
      {guardTokens bodyTokens othersTokens : List Token}
      (isElif : word.isKeyword "elif" = true) (guardYields : guard.Yields guardTokens)
      (bodyYields : Statement.BodyYields .elifBranch body bodyTokens)
      (othersYield : Branch.AllYield others othersTokens) :
      Branch.AllYield (.mk word.position guard body :: others)
        (word :: (guardTokens ++ (bodyTokens ++ othersTokens)))

/-- The tokens of the body for when no guard passes. -/
inductive Statement.OtherwiseYields : Option (List Statement) → List Token → Prop
  | none : Statement.OtherwiseYields none []
  | body {word : Token} {body : List Statement} {tokens : List Token}
      (isElse : word.isKeyword "else" = true)
      (bodyYields : Statement.BodyYields .elseBranch body tokens) :
      Statement.OtherwiseYields (some body) (word :: tokens)

end

/-- The tokens of a program. -/
def Program.Yields (program : Program) (tokens : List Token) : Prop :=
  Statement.AllYield program.statements tokens

end Zoop
