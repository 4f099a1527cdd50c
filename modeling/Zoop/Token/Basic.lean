import Zoop.DataType
import Zoop.Number.Layout
import Zoop.Text.Position
import Zoop.Text.Quoted

/-!
# Tokens

A token is a piece of source text with its kind, its place, and the value it stands for if it is a
literal, a variable or a comment.  Kind, text and value are independent data: the grammar looks at all
three and accepts no combination on trust.
-/

namespace Zoop

/-- The kinds of tokens. -/
inductive TokenKind where
  /-- A sigil and an identifier. -/
  | variable
  /-- An operator that touches the operand after it. -/
  | unaryOperator
  /-- An operator between two operands. -/
  | binaryOperator
  /-- A number, a text, a label or a truth value. -/
  | literal
  | keyword
  | comment
  /-- A comment with an end of its own. -/
  | blockComment
  | newLine
  | colon
  | parenOpen
  | parenClose
  | blockOpen
  | blockClose
  /-- The arrow that stores a value. -/
  | flowIn
  /-- The arrow that hands a value back. -/
  | flowOut
  /-- The arrow that asks for a line of input. -/
  | input
  /-- The arrow that prints a value. -/
  | output
  /-- The arrow that opens a body of one statement. -/
  | direct
deriving DecidableEq, Repr

namespace TokenKind

/-- The name of a kind, as dumps write it. -/
def name : TokenKind → String
  | .variable => "VARIABLE"
  | .unaryOperator => "UNARY_OPERATOR"
  | .binaryOperator => "BINARY_OPERATOR"
  | .literal => "LITERAL"
  | .keyword => "KEYWORD"
  | .comment => "COMMENT"
  | .blockComment => "BLOCK_COMMENT"
  | .newLine => "NEW_LINE"
  | .colon => "COLON"
  | .parenOpen => "PAREN_OPEN"
  | .parenClose => "PAREN_CLOSE"
  | .blockOpen => "BLOCK_OPEN"
  | .blockClose => "BLOCK_CLOSE"
  | .flowIn => "FLOW_IN"
  | .flowOut => "FLOW_OUT"
  | .input => "INPUT"
  | .output => "OUTPUT"
  | .direct => "DIRECT"

/-- All kinds. -/
def all : List TokenKind :=
  [.variable, .unaryOperator, .binaryOperator, .literal, .keyword, .comment, .blockComment, .newLine,
    .colon, .parenOpen, .parenClose, .blockOpen, .blockClose, .flowIn, .flowOut, .input, .output,
    .direct]

/-- The kind with a given name. -/
def ofName? (text : String) : Option TokenKind :=
  all.find? fun kind => kind.name == text

end TokenKind

/-- The value that a token stands for. -/
inductive TokenValue where
  | number (value : Number)
  | string (value : String)
  | boolean (value : Bool)
deriving DecidableEq

namespace TokenValue

/-- The text of a value that is used as a label or a prompt. -/
def text : TokenValue → String
  | .number value => Layout.plain.text value
  | .string value => value
  | .boolean value => if value then "true" else "false"

/-- The form of a value in dumps. -/
def dump : TokenValue → String
  | .number value => "Number(" ++ Layout.dumped.text value ++ ")"
  | .string value => "String(" ++ Text.quoted value ++ ")"
  | .boolean value => if value then "Boolean(true)" else "Boolean(false)"

end TokenValue

/-- A piece of source text. -/
structure Token where
  kind : TokenKind
  /-- The piece as it stands in the source. -/
  lexeme : String
  position : Position
  /-- The characters that the piece covers. -/
  span : Span
  /-- The value that the piece stands for. -/
  value : Option TokenValue
deriving DecidableEq

namespace Token

/-- Whether the token is the given keyword. -/
def isKeyword (token : Token) (word : String) : Bool :=
  token.kind == .keyword && token.lexeme == word

/-- Whether the token is a label: a literal between two backticks with something between them. -/
def isLabel (token : Token) : Bool :=
  token.kind == .literal && 2 < token.lexeme.toList.length &&
    token.lexeme.toList.head? == some '\x60' && token.lexeme.toList.getLast? == some '\x60'

/-- The data type that the token is the keyword of. -/
def typeKeyword? (token : Token) : Option DataType :=
  if token.kind = .keyword then DataType.ofKeyword? token.lexeme else none

/-- Whether the token is the keyword of a data type. -/
def isTypeKeyword (token : Token) : Bool :=
  token.typeKeyword?.isSome

/-- Whether the token is a comment of either kind. -/
def isComment (token : Token) : Bool :=
  token.kind == .comment || token.kind == .blockComment

/-- The form of a token in dumps. -/
def dump (token : Token) : String :=
  let place := token.kind.name ++ "(" ++ Text.quoted token.lexeme ++ ") @ " ++ token.position.text
  match token.value with
  | none => place
  | some value => place ++ " = " ++ value.dump

end Token

end Zoop
