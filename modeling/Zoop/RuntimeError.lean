import Zoop.DataType
import Zoop.Program.Operator
import Zoop.Program.Variable
import Zoop.Text.Position

/-!
# Runtime errors

Why a run stops, and where.  Each cause has one message.
-/

namespace Zoop

/-- Why a run stops. -/
inductive RuntimeCause where
  | undefinedVariable (subject : Variable)
  | redefinition (name : String)
  /-- A declaration of a name that an argument has. -/
  | contextRedefinition (name : String)
  | notDefined (name : String)
  | routineRedeclared (label : String)
  | routineNotDeclared (label : String)
  /-- Too many calls inside each other. -/
  | contextOverflow
  | argumentCount (expected got : Nat)
  | argumentType (expected got : DataType)
  | returnType (expected got : DataType)
  | printVoid
  | assignType (value : DataType) (subject : Variable) (type : DataType)
  /-- An operand of `~` that is not a truth value. -/
  | notOperand
  /-- An operand of the prefix `-` that is not a number. -/
  | negateOperand
  | numericOperands (operator : BinaryOperator) (got : DataType)
  | mixedOperation (operator : BinaryOperator) (left right : DataType)
  | divisionByZero
  | logicOperands (operator : BinaryOperator) (got : DataType)
  | equalityTypes (left right : DataType)
  | concatVoid
  | invalidCast (source target : DataType)
  | invalidInput (type : DataType) (line : String)
  | inputCancelled
  /-- A value handed back inside a loop. -/
  | unknownLoopResult
  | console (reason : String)
deriving DecidableEq, Repr

namespace RuntimeCause

/-- The message for a cause. -/
def message : RuntimeCause → String
  | .undefinedVariable subject => "Undefined variable '" ++ subject.text ++ "'"
  | .redefinition name => "Can't redefine variable '" ++ name ++ "' in current scope"
  | .contextRedefinition name =>
      "Can't redefine variable '" ++ name ++ "', already exists in zoop context"
  | .notDefined name => "Variable '" ++ name ++ "' is not defined"
  | .routineRedeclared label => "zoop '" ++ label ++ "' is already declared"
  | .routineNotDeclared label => "zoop '" ++ label ++ "' wasn't declared"
  | .contextOverflow => "Exceeded maximum number of zoop contexts"
  | .argumentCount expected got =>
      "Expected " ++ toString expected ++ " arguments but got " ++ toString got
  | .argumentType expected got =>
      "Expected argument of type <" ++ expected.name ++ "> but got <" ++ got.name ++ ">"
  | .returnType expected got =>
      "Expected return value of type <" ++ expected.name ++ "> but got <" ++ got.name ++ ">."
  | .printVoid => "Cannot print <void>"
  | .assignType value subject type =>
      "Cannot assign <" ++ value.name ++ "> to variable '" ++ subject.text ++ "' of type <" ++
        type.name ++ ">"
  | .notOperand => "Operand of '~' must be of type bool"
  | .negateOperand => "Operand of '-' must be of type number"
  | .numericOperands operator got =>
      "Operands of '" ++ operator.lexeme ++ "' must be numbers, got <" ++ got.name ++ "> instead"
  | .mixedOperation operator left right =>
      "Invalid operation '" ++ operator.lexeme ++ "' between <" ++ left.name ++ "> and <" ++
        right.name ++ ">. Try casting one or the other."
  | .divisionByZero => "Dividing by 0 is an undefined operation, at least in the real world"
  | .logicOperands operator got =>
      "Operands of '" ++ operator.lexeme ++ "' must be of type <bool>, got <" ++ got.name ++
        "> instead"
  | .equalityTypes left right =>
      "Cannot compare equality of <" ++ left.name ++ "> with <" ++ right.name ++ ">"
  | .concatVoid => "Cannot concatenate <void>"
  | .invalidCast source target =>
      "Cannot cast value of type <" ++ source.name ++ "> to <" ++ target.name ++ ">"
  | .invalidInput type line => "Invalid <" ++ type.name ++ "> input '" ++ line ++ "'"
  | .inputCancelled => "Input was cancelled"
  | .unknownLoopResult => "Unknown result in loop statement"
  | .console reason => "Console failure: " ++ reason

end RuntimeCause

/-- A cause and its place. -/
structure RuntimeError where
  cause : RuntimeCause
  position : Position
deriving DecidableEq, Repr

end Zoop
