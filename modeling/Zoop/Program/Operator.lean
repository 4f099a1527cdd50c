/-!
# Operators

The prefix operators and the operators between two operands, with their lexemes and their levels of
precedence.
-/

namespace Zoop

/-- The operators before an operand. -/
inductive UnaryOperator where
  | not
  | negate
deriving DecidableEq, Repr

namespace UnaryOperator

/-- The operator as programs write it. -/
def lexeme : UnaryOperator → String
  | .not => "~"
  | .negate => "-"

/-- The operator as dumps name it. -/
def name : UnaryOperator → String
  | .not => "Not"
  | .negate => "Negate"

/-- The operator with a given lexeme. -/
def ofLexeme? (text : String) : Option UnaryOperator :=
  [not, negate].find? fun operator => operator.lexeme == text

end UnaryOperator

/-- The operators between two operands. -/
inductive BinaryOperator where
  | concat
  | add
  | sub
  | mul
  | div
  | and
  | or
  | equal
  | notEqual
  | less
  | lessOrEqual
  | greater
  | greaterOrEqual
deriving DecidableEq, Repr

namespace BinaryOperator

/-- The operator as programs write it. -/
def lexeme : BinaryOperator → String
  | .concat => "_"
  | .add => "+"
  | .sub => "-"
  | .mul => "*"
  | .div => "/"
  | .and => "&"
  | .or => "|"
  | .equal => "="
  | .notEqual => "~="
  | .less => "<"
  | .lessOrEqual => "<="
  | .greater => ">"
  | .greaterOrEqual => ">="

/-- The operator as dumps name it. -/
def name : BinaryOperator → String
  | .concat => "Concat"
  | .add => "Add"
  | .sub => "Sub"
  | .mul => "Mul"
  | .div => "Div"
  | .and => "And"
  | .or => "Or"
  | .equal => "Eq"
  | .notEqual => "NotEq"
  | .less => "Lt"
  | .lessOrEqual => "LtEq"
  | .greater => "Gt"
  | .greaterOrEqual => "GtEq"

/-- The level of precedence, from the operator that binds least at one to those that bind most at
six. -/
def level : BinaryOperator → Nat
  | .concat => 1
  | .and | .or => 2
  | .equal | .notEqual => 3
  | .less | .lessOrEqual | .greater | .greaterOrEqual => 4
  | .add | .sub => 5
  | .mul | .div => 6

/-- All operators between two operands. -/
def all : List BinaryOperator :=
  [.concat, .add, .sub, .mul, .div, .and, .or, .equal, .notEqual, .less, .lessOrEqual, .greater,
    .greaterOrEqual]

/-- The operator with a given lexeme. -/
def ofLexeme? (text : String) : Option BinaryOperator :=
  all.find? fun operator => operator.lexeme == text

end BinaryOperator

end Zoop
