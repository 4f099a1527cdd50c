import Zoop.Text.Position

/-!
# Syntax errors

Why a source is not a program, and where.  Each cause has one message.
-/

namespace Zoop

/-- The constructs that have a body with a closing keyword. -/
inductive Construct where
  | ifBranch
  | elifBranch
  | elseBranch
  | loop
  | zoop
deriving DecidableEq, Repr

namespace Construct

/-- The keyword that opens the construct. -/
def opening : Construct → String
  | .ifBranch => "if"
  | .elifBranch => "elif"
  | .elseBranch => "else"
  | .loop => "loop"
  | .zoop => "zoop"

/-- The keyword that closes the body of the construct. -/
def closing : Construct → String
  | .ifBranch => "end if"
  | .elifBranch => "end elif"
  | .elseBranch => "end else"
  | .loop => "end loop"
  | .zoop => "end zoop"

end Construct

/-- Why a source is not a program. -/
inductive SyntaxCause where
  | invalidSyntax
  | invalidIdentifier
  /-- Nothing follows a colon. -/
  | missingDataType
  | invalidDataType
  | unclosedString
  | unclosedBlockComment
  | invalidNumberLiteral
  /-- A blank after a prefix operator. -/
  | detachedUnaryOperator (operator : String)
  /-- An arrow that stores a value into nothing. -/
  | invalidFlowIn
  | printAndReturn
  | printNotAtLineEnd
  | returnNotAtLineEnd
  | unclosedBlock (construct : Construct)
  /-- Something after a closing keyword. -/
  | missingNewLine (construct : Construct)
  | unclosedScopeBlock
  | invalidRoutineType
  | invalidRoutineLabel
  | missingRoutineFlowIn
  | invalidParameter
  | mutableParameter
  | missingParameterColon
  | immutableReassigned
  | unclosedGrouping
  | invalidExpression
  /-- An expression that stops before the end of its line. -/
  | unexpectedToken (lexeme : String)
  | endOutsideLoop
  /-- A `de` without a label before it. -/
  | detachedDe
  | nestedRoutine
deriving DecidableEq, Repr

namespace SyntaxCause

/-- The message for a cause. -/
def message : SyntaxCause → String
  | .invalidSyntax => "Invalid syntax"
  | .invalidIdentifier => "Invalid identifier"
  | .missingDataType => "Missing data type"
  | .invalidDataType => "Invalid data type"
  | .unclosedString => "Unclosed string"
  | .unclosedBlockComment => "Unclosed block comment"
  | .invalidNumberLiteral => "Invalid number literal"
  | .detachedUnaryOperator operator =>
      "Prefix unary operator '" ++ operator ++ "' must be adjacent to its operands"
  | .invalidFlowIn => "Flow In ('<-') must be to a variable or a zoop declaration only"
  | .printAndReturn => "Cannot print and return at the same time"
  | .printNotAtLineEnd => "Print operator can only be used once at the end of a line"
  | .returnNotAtLineEnd => "Flow Out operator ('->') can only be used once at the end of a line"
  | .unclosedBlock construct =>
      "Expected '" ++ construct.closing ++ "' to close " ++ construct.opening ++ " block"
  | .missingNewLine construct => "Expected a new line after " ++ construct.opening ++ " block"
  | .unclosedScopeBlock => "Expected '\x7d' to close scope block"
  | .invalidRoutineType => "Invalid data type for zoop"
  | .invalidRoutineLabel => "Invalid label for zoop"
  | .missingRoutineFlowIn => "Expected a '<-' after zoop declaration's label"
  | .invalidParameter => "Invalid parameter identifier"
  | .mutableParameter => "Zoop parameters must be immutables"
  | .missingParameterColon => "Expected ':' after parameter name"
  | .immutableReassigned => "Immutable cannot be reassigned"
  | .unclosedGrouping => "Expect ')' after expression."
  | .invalidExpression => "Invalid expression"
  | .unexpectedToken lexeme => "Unexpected token '" ++ lexeme ++ "'"
  | .endOutsideLoop => "End statements can be used only inside loops"
  | .detachedDe => "de operator must follow a label"
  | .nestedRoutine => "Zoops can only be declared in the global scope"

end SyntaxCause

/-- A cause and its place. -/
structure SyntaxError where
  cause : SyntaxCause
  position : Position
deriving DecidableEq, Repr

end Zoop
