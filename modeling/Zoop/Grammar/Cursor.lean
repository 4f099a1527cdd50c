import Zoop.Outcome
import Zoop.Program.Variable
import Zoop.SyntaxError
import Zoop.Token.Basic

/-!
# Taking tokens

A parser takes some tokens from the front of a list and leaves the rest.  An error at the end of the
list points at a fixed place, which is that of the last token of the source.
-/

namespace Zoop.Grammar

/-- A parser takes tokens from the front of a list and leaves the rest. -/
abbrev Parser (α : Type) : Type :=
  List Token → Outcome SyntaxError (α × List Token)

/-- The place of the next token, or the place that stands for the end. -/
def nextPosition (finish : Position) : List Token → Position
  | [] => finish
  | token :: _ => token.position

/-- Take a token that a test accepts, and fail for a given cause otherwise. -/
def expect (finish : Position) (accepts : Token → Bool) (cause : SyntaxCause) : Parser Token
  | [] => .error ⟨cause, finish⟩
  | token :: rest =>
      if accepts token then
        .ok (token, rest)
      else
        .error ⟨cause, token.position⟩

/-- Take a token of a given kind. -/
def expectKind (finish : Position) (kind : TokenKind) (cause : SyntaxCause) : Parser Token :=
  expect finish (fun token => token.kind == kind) cause

/-- Take the keyword of a data type. -/
def expectType (finish : Position) (cause : SyntaxCause) : Parser DataType
  | [] => .error ⟨cause, finish⟩
  | token :: rest =>
      match token.typeKeyword? with
      | some type => .ok (type, rest)
      | none => .error ⟨cause, token.position⟩

/-- Whether the next token has a given kind. -/
def nextIs (kind : TokenKind) (tokens : List Token) : Bool :=
  tokens.head?.any fun token => token.kind == kind

/-- Whether the next token is a given keyword. -/
def nextIsKeyword (word : String) (tokens : List Token) : Bool :=
  tokens.head?.any fun token => token.isKeyword word

/-- Leave out the next token if it has a given kind. -/
def skipKind (kind : TokenKind) (tokens : List Token) : List Token :=
  if nextIs kind tokens then tokens.tail else tokens

/-- Leave out all line feeds at the front. -/
def skipNewLines (tokens : List Token) : List Token :=
  tokens.dropWhile fun token => token.kind == .newLine

/-- The variable that a token names, which may not have an empty name. -/
def variableOf (token : Token) (cause : SyntaxCause) : Outcome SyntaxError Variable :=
  match Variable.ofText? token.lexeme with
  | none => .error ⟨cause, token.position⟩
  | some subject =>
      if subject.name.isEmpty then
        .error ⟨cause, token.position⟩
      else
        .ok subject

end Zoop.Grammar
