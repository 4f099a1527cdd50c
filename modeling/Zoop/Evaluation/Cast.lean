import Zoop.Literal
import Zoop.Number.Reader
import Zoop.RuntimeError
import Zoop.Text.WhiteSpace

/-!
# Casts and typed lines

How a value becomes a value of another data type, and how a typed line becomes a value.
-/

namespace Zoop

namespace DataType

/-- A number made to fit a data type: whole types drop the fraction, and unsigned types stop at
zero. -/
def fit (type : DataType) (number : Number) : Number :=
  let whole := if type.isIntegral then number.truncate else number
  if type.isUnsigned then whole.atLeastZero else whole

end DataType

namespace Literal

/-- A number made to fit a data type, with that data type. -/
def ofNumber (type : DataType) (number : Number) : Literal :=
  ⟨type, .number (type.fit number)⟩

/-- The number one. -/
def one : Number :=
  Number.ofDecimal false 1 0

/-- The number that a value is cast to: a truth value counts as one or zero. -/
def castNumber? : Value → Option Number
  | .number value => some value
  | .boolean value => some (if value then one else .zero)
  | _ => none

/-- A literal as another data type.  Its own data type changes nothing, and nothing else can be made
of or into the absence of a value.  Numbers come from numbers and truth values, labels from texts,
and texts and truth values from everything. -/
def cast (literal : Literal) (target : DataType) : Except RuntimeCause Literal :=
  let refused := .error (.invalidCast literal.type target)
  if literal.type = target then
    .ok literal
  else if literal.isVoid then
    refused
  else
    match target with
    | .int | .uint | .dec | .udec =>
        match castNumber? literal.value with
        | some number => .ok (ofNumber target number)
        | none => refused
    | .string => .ok (string literal.value.text)
    | .bool => .ok (boolean literal.value.isTruthy)
    | .label =>
        match literal.value with
        | .string text => .ok (label text)
        | _ => refused
    | .void => refused

/-- The number that a typed line stands for as a numeric type.  It has to be finite, whole for a whole
type, and not below zero for an unsigned type. -/
def readNumber? (type : DataType) (line : String) : Option Number :=
  (Number.read? (Text.trim line.toList)).filter fun number =>
    number.isFinite && (!type.isIntegral || number.isWhole) &&
      (!type.isUnsigned || !number.lt .zero)

/-- The value that a typed line stands for as a data type. -/
def ofLine (type : DataType) (line : String) : Except RuntimeCause Literal :=
  let refused := .error (.invalidInput type line)
  match type with
  | .string => .ok (string line)
  | .label => .ok (label line)
  | .bool =>
      if line = "true" then
        .ok (boolean true)
      else if line = "false" then
        .ok (boolean false)
      else
        refused
  | .int | .uint | .dec | .udec =>
      match readNumber? type line with
      | some number => .ok ⟨type, .number number⟩
      | none => refused
  | .void => refused

end Literal

end Zoop
