import Zoop.Literal
import Zoop.Program.Operator
import Zoop.Program.Variable

/-!
# Expressions

Every expression carries the position that its errors point at.
-/

namespace Zoop

/-- The expressions of the language. -/
inductive Expression where
  | literal (position : Position) (value : Literal)
  | variable (position : Position) (subject : Variable)
  /-- A new variable with its data type and its first value. -/
  | declare (position : Position) (subject : Variable) (type : DataType) (value : Expression)
  | reassign (position : Position) (name : String) (value : Expression)
  | grouping (position : Position) (inner : Expression)
  | unary (position : Position) (operator : UnaryOperator) (operand : Expression)
  /-- An operator between two operands; the operator has a position of its own. -/
  | binary
      (position : Position)
      (operator : BinaryOperator)
      (operatorPosition : Position)
      (left right : Expression)
  /-- The value of an expression as another data type. -/
  | cast (position : Position) (type : DataType) (inner : Expression)
  /-- A line of input, read as a data type, after a prompt that may carry a text. -/
  | input (position : Position) (type : DataType) (prompt : Option String)
  | call (position : Position) (label : String) (arguments : List Expression)

namespace Expression

/-- The position that errors of the expression point at. -/
def position : Expression → Position
  | .literal position _ => position
  | .variable position _ => position
  | .declare position _ _ _ => position
  | .reassign position _ _ => position
  | .grouping position _ => position
  | .unary position _ _ => position
  | .binary position _ _ _ _ => position
  | .cast position _ _ => position
  | .input position _ _ => position
  | .call position _ _ => position

end Expression

end Zoop
