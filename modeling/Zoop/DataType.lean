/-!
# Data types

Every value of a program carries a data type.  Four of them are numeric; a whole number is `int` or
`uint`, and a number that is never below zero is `uint` or `udec`.  The type `void` belongs to the
absence of a value and has no keyword.
-/

namespace Zoop

/-- The data types of the language. -/
inductive DataType where
  | int
  | uint
  | dec
  | udec
  | string
  | bool
  | label
  | void
deriving DecidableEq, Repr

namespace DataType

/-- The name of a data type, as programs and messages write it. -/
def name : DataType → String
  | int => "int"
  | uint => "uint"
  | dec => "dec"
  | udec => "udec"
  | string => "string"
  | bool => "bool"
  | label => "label"
  | void => "void"

/-- All data types that a program can name. -/
def named : List DataType :=
  [int, uint, dec, udec, string, bool, label]

/-- The keywords for data types, in the order in which they are tried. -/
def keywords : List String :=
  named.map name

/-- The data type with a given name. -/
def ofName? (text : String) : Option DataType :=
  (named ++ [void]).find? fun type => type.name == text

/-- The data type with a given keyword. -/
def ofKeyword? (text : String) : Option DataType :=
  named.find? fun type => type.name == text

/-- Whether the values of the type are numbers. -/
def isNumeric : DataType → Bool
  | int | uint | dec | udec => true
  | _ => false

/-- Whether the values of the type are whole numbers. -/
def isIntegral : DataType → Bool
  | int | uint => true
  | _ => false

/-- Whether the values of the type are numbers that are not below zero. -/
def isUnsigned : DataType → Bool
  | uint | udec => true
  | _ => false

/-- The message for a name that no data type has. -/
def unknownNameMessage : String :=
  "Matching variant not found"

end DataType

end Zoop
