import Zoop.Evaluation.Cast

/-!
# Operations

What the operators do to values.  Errors point at the operand at fault, or at the operator when the
operands do not go together.
-/

namespace Zoop

/-- A value and the place of its expression. -/
structure Operand where
  literal : Literal
  /-- Where its expression stands. -/
  position : Position

namespace Operation

/-- Both operands as numbers. -/
def numbers (operator : BinaryOperator) (left right : Operand) :
    Except RuntimeError (Number × Number) :=
  match left.literal.value.number?, right.literal.value.number? with
  | some first, some second => .ok (first, second)
  | none, _ => .error ⟨.numericOperands operator left.literal.type, left.position⟩
  | _, none => .error ⟨.numericOperands operator right.literal.type, right.position⟩

/-- Both operands as truth values. -/
def truths (operator : BinaryOperator) (left right : Operand) :
    Except RuntimeError (Bool × Bool) :=
  match left.literal.value.boolean?, right.literal.value.boolean? with
  | some first, some second => .ok (first, second)
  | none, _ => .error ⟨.logicOperands operator left.literal.type, left.position⟩
  | _, none => .error ⟨.logicOperands operator right.literal.type, right.position⟩

/-- Arithmetic on two numbers of one type.  A quotient is a `dec`, all other results keep the type. -/
def arithmetic
    (operator : BinaryOperator)
    (compute : Number → Number → Number)
    (left right : Operand)
    (place : Position) : Except RuntimeError Literal := do
  let (first, second) ← numbers operator left right
  if left.literal.type ≠ right.literal.type then
    .error ⟨.mixedOperation operator left.literal.type right.literal.type, place⟩
  else if operator = .div then
    if second.isZero then
      .error ⟨.divisionByZero, right.position⟩
    else
      .ok (.ofNumber .dec (compute first second))
  else
    .ok (.ofNumber left.literal.type (compute first second))

/-- A comparison of two numbers, of whatever type. -/
def comparison
    (operator : BinaryOperator)
    (test : Number → Number → Bool)
    (left right : Operand) : Except RuntimeError Literal := do
  let (first, second) ← numbers operator left right
  return .boolean (test first second)

/-- A connection of two truth values, both of which are always looked at. -/
def logic
    (operator : BinaryOperator)
    (connect : Bool → Bool → Bool)
    (left right : Operand) : Except RuntimeError Literal := do
  let (first, second) ← truths operator left right
  return .boolean (connect first second)

/-- A test of equality between two values of one type. -/
def equality (expected : Bool) (left right : Operand) (place : Position) :
    Except RuntimeError Literal :=
  if left.literal.type ≠ right.literal.type then
    .error ⟨.equalityTypes left.literal.type right.literal.type, place⟩
  else
    .ok (.boolean (left.literal.value.equals right.literal.value == expected))

/-- The texts of two values joined. -/
def concat (left right : Operand) : Except RuntimeError Literal :=
  if left.literal.isVoid then
    .error ⟨.concatVoid, left.position⟩
  else if right.literal.isVoid then
    .error ⟨.concatVoid, right.position⟩
  else
    .ok (.string (left.literal.value.text ++ right.literal.value.text))

/-- The value of an operator between two operands, where the operator stands at a given place. -/
def binary (operator : BinaryOperator) (left right : Operand) (place : Position) :
    Except RuntimeError Literal :=
  match operator with
  | .concat => concat left right
  | .add => arithmetic .add Number.add left right place
  | .sub => arithmetic .sub Number.sub left right place
  | .mul => arithmetic .mul Number.mul left right place
  | .div => arithmetic .div Number.div left right place
  | .and => logic .and (· && ·) left right
  | .or => logic .or (· || ·) left right
  | .equal => equality true left right place
  | .notEqual => equality false left right place
  | .less => comparison .less Number.lt left right
  | .lessOrEqual => comparison .lessOrEqual Number.le left right
  | .greater => comparison .greater (fun first second => second.lt first) left right
  | .greaterOrEqual => comparison .greaterOrEqual (fun first second => second.le first) left right

/-- The value of a prefix operator before an operand. -/
def unary (operator : UnaryOperator) (operand : Literal) : Except RuntimeCause Literal :=
  match operator, operand.value with
  | .not, .boolean value => .ok (.boolean !value)
  | .not, _ => .error .notOperand
  | .negate, .number value => .ok (.ofNumber operand.type value.negate)
  | .negate, _ => .error .negateOperand

end Operation

end Zoop
