import Zoop.Token.Basic

/-!
# Values and literals

A value is a number, a text, a truth value, or nothing.  A literal is a value together with its data
type; the two are independent data, and what keeps them in agreement is how literals are made.
-/

namespace Zoop

/-- The values that programs compute with. -/
inductive Value where
  | number (value : Number)
  | string (value : String)
  | boolean (value : Bool)
  | void
deriving DecidableEq

namespace Value

/-- Whether a guard with this value passes. -/
def isTruthy : Value → Bool
  | .number value => !value.isZero && !value.isNaN
  | .string value => !value.isEmpty
  | .boolean value => value
  | .void => false

/-- Whether this is the absence of a value. -/
def isVoid : Value → Bool
  | .void => true
  | _ => false

/-- The number that the value is. -/
def number? : Value → Option Number
  | .number value => some value
  | _ => none

/-- The truth value that the value is. -/
def boolean? : Value → Option Bool
  | .boolean value => some value
  | _ => none

/-- The text that printing the value shows. -/
def text : Value → String
  | .number value => Layout.printed.text value
  | .string value => value
  | .boolean value => if value then "true" else "false"
  | .void => "<void>"

/-- Whether two values are equal: numbers as numbers, all others as they are. -/
def equals : Value → Value → Bool
  | .number first, .number second => first.equals second
  | .string first, .string second => first == second
  | .boolean first, .boolean second => first == second
  | .void, .void => true
  | _, _ => false

end Value

/-- A value and its data type. -/
structure Literal where
  type : DataType
  value : Value
deriving DecidableEq

namespace Literal

/-- The absence of a value. -/
def void : Literal :=
  ⟨.void, .void⟩

/-- A text. -/
def string (text : String) : Literal :=
  ⟨.string, .string text⟩

/-- A label. -/
def label (text : String) : Literal :=
  ⟨.label, .string text⟩

/-- A truth value. -/
def boolean (truth : Bool) : Literal :=
  ⟨.bool, .boolean truth⟩

/-- Whether the data type is that of the absence of a value. -/
def isVoid (literal : Literal) : Bool :=
  literal.type == .void

/-- The data type of a number literal: a point makes it a `dec`, and a closing `u` makes it
unsigned. -/
def numberType (lexeme : List Char) : DataType :=
  match lexeme.contains '.', lexeme.getLast? == some 'u' with
  | false, false => .int
  | false, true => .uint
  | true, false => .dec
  | true, true => .udec

/-- The literal that a token stands for. -/
def ofToken? (token : Token) : Option Literal :=
  if token.kind = .literal then
    token.value.map fun
      | .number value => ⟨numberType token.lexeme.toList, .number value⟩
      | .string value => if token.isLabel then label value else string value
      | .boolean value => boolean value
  else
    none

end Literal

end Zoop
