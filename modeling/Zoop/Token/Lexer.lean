import Zoop.Number.Reader
import Zoop.SyntaxError
import Zoop.Token.Fixed
import Zoop.Word

/-!
# The tokens of a source

A source is read once from left to right.  At each place where a token may start, the longest piece
that belongs there is recognised; its characters are then passed over one by one, so that positions
and offsets follow the source itself.  Spaces, tabs and carriage returns belong to no token.
-/

namespace Zoop.Token

/-! ## Recognising one piece -/

/-- A piece that starts here: its kind, its text, and its value. -/
structure Recognition where
  kind : TokenKind
  lexeme : List Char
  /-- The value that it stands for. -/
  value : Option TokenValue

/-- The number of characters of a piece. -/
def Recognition.length (piece : Recognition) : Nat :=
  piece.lexeme.length

/-- A piece of fixed text. -/
def Recognition.ofWord (kind : TokenKind) (word : List Char) : Recognition :=
  ⟨kind, word, none⟩

/-- A variable, after its sigil: all letters and digits that follow have to be an identifier. -/
def recognizeVariable (position : Position) (sigil : Char) (text : List Char) :
    Except SyntaxError Recognition :=
  let name := text.takeWhile Char.isAlphanum
  if Word.isIdentifier name then
    .ok ⟨.variable, sigil :: name, some (.string (String.ofList name))⟩
  else
    .error ⟨.invalidIdentifier, position.right⟩

/-- A data type, which has to stand right after a colon. -/
def recognizeType (position : Position) (text : List Char) : Except SyntaxError Recognition :=
  match typeWord? text with
  | some word => .ok (.ofWord .keyword word)
  | none =>
      if text.isEmpty || text.head? == some ' ' || text.head? == some '\n' then
        .error ⟨.missingDataType, position⟩
      else
        .error ⟨.invalidDataType, position⟩

/-- A text or a label, after its opening quote: everything up to the next such quote. -/
def recognizeQuoted (position : Position) (quote : Char) (text : List Char) :
    Except SyntaxError Recognition :=
  if (text.dropWhile (· ≠ quote)).isEmpty then
    .error ⟨.unclosedString, position⟩
  else
    let inner := text.takeWhile (· ≠ quote)
    .ok ⟨.literal, (quote :: text).take (inner.length + 2), some (.string (String.ofList inner))⟩

/-- A number: all digits and points that follow have to be a number, and the letter `u` may close
it. -/
def recognizeNumber (position : Position) (text : List Char) : Except SyntaxError Recognition :=
  let belongs := fun character : Char => character.isDigit || character == '.'
  let run := text.takeWhile belongs
  let ending := if (text.dropWhile belongs).head? == some 'u' then ['u'] else []
  if Word.isNumber run then
    .ok ⟨.literal, run ++ ending, some (.number (Number.ofDigits run))⟩
  else
    .error ⟨.invalidNumberLiteral, position⟩

/-- The part of a text before the first occurrence of a mark. -/
def beforeMark? (mark : List Char) : List Char → Option (List Char)
  | [] => none
  | character :: rest =>
      if mark.isPrefixOf (character :: rest) then
        some []
      else
        (beforeMark? mark rest).map (character :: ·)

/-- A block comment, behind the three characters that open it up to the next three that close it. -/
def recognizeBlockComment (position : Position) (text : List Char) :
    Except SyntaxError Recognition :=
  match beforeMark? ['*', '-', '-'] (text.drop 3) with
  | some inner =>
      .ok ⟨.blockComment, text.take (inner.length + 6), some (.string (String.ofList inner))⟩
  | none => .error ⟨.unclosedBlockComment, position⟩

/-- A comment, behind the two characters that open it: the rest of the line. -/
def recognizeComment (text : List Char) : Recognition :=
  let inner := (text.drop 2).takeWhile (· ≠ '\n')
  ⟨.comment, text.take (inner.length + 2), some (.string (String.ofList inner))⟩

/-! ## Looking back -/

/-- Whether an arrow that stores a value has a target.  The tokens before it, newest first, have to
start with a variable, with a variable that is given a data type, or with the label of a zoop that may
be given a data type. -/
def flowInHasTarget (before : List Token) : Bool :=
  let kindIs := fun (back : Nat) (kind : TokenKind) => before[back]?.any (·.kind == kind)
  let lexemeIs := fun (back : Nat) (lexeme : String) => before[back]?.any (·.lexeme == lexeme)
  kindIs 0 .variable ||
    (kindIs 0 .keyword && kindIs 1 .colon && kindIs 2 .variable) ||
    (before[0]?.any isLabel &&
      (lexemeIs 1 "zoop" || (kindIs 1 .keyword && kindIs 2 .colon && lexemeIs 3 "zoop")))

/-- The kind of `-` or `~`: a prefix operator unless a space follows it or an operator character
stands right before it. -/
def operatorKind (previous : Option Char) (text : List Char) : TokenKind :=
  if text.head? == some ' ' || previous.any operatorChars.contains then
    .binaryOperator
  else
    .unaryOperator

/-- An operator, bracket, arrow or keyword. -/
def recognizeFixed
    (before : List Token)
    (previous : Option Char)
    (position : Position)
    (text : List Char) : Except SyntaxError Recognition :=
  match fixedLexeme? text with
  | none => .error ⟨.invalidSyntax, position⟩
  | some (word, kind) =>
      if kind = .flowIn && !flowInHasTarget before then
        .error ⟨.invalidFlowIn, position⟩
      else if word = ['-'] ∨ word = ['~'] then
        .ok (.ofWord (operatorKind previous (text.drop 1)) word)
      else
        .ok (.ofWord kind word)

/-! ## Reading a whole source -/

/-- How far a source has been read. -/
structure Reading where
  /-- The tokens so far, newest first. -/
  before : List Token
  /-- The character right before this place. -/
  previous : Option Char
  position : Position
  /-- The number of characters before this place. -/
  offset : Nat

namespace Reading

/-- Nothing has been read. -/
def start : Reading :=
  ⟨[], none, Position.start, 0⟩

/-- Pass over one character. -/
def pass (reading : Reading) (character : Char) : Reading :=
  { reading with
    previous := some character
    position := reading.position.after character
    offset := reading.offset + 1 }

/-- The token of a piece that starts here. -/
def token (reading : Reading) (piece : Recognition) : Token :=
  { kind := piece.kind
    lexeme := String.ofList piece.lexeme
    position := reading.position
    span := ⟨reading.offset, piece.length⟩
    value := piece.value }

/-- Add the token of a piece that starts here. -/
def emit (reading : Reading) (piece : Recognition) : Reading :=
  { reading with before := reading.token piece :: reading.before }

/-- Whether the last token is a colon, which a data type has to follow at once. -/
def afterColon (reading : Reading) : Bool :=
  reading.before.head?.any (·.kind == .colon)

end Reading

/-- Whether a character belongs to no token. -/
def isBlank (character : Char) : Bool :=
  character == ' ' || character == '\t' || character == '\r'

/-- The piece that starts at this place, or nothing at a blank.  A blank may not follow the operator
`~`. -/
def recognize (reading : Reading) (character : Char) (rest : List Char) :
    Except SyntaxError (Option Recognition) :=
  let position := reading.position
  let text := character :: rest
  if reading.afterColon then
    (recognizeType position text).map some
  else if isBlank character then
    if reading.before.head?.any (·.lexeme == "~") then
      .error ⟨.detachedUnaryOperator "~", position⟩
    else
      .ok none
  else if character = '\n' then
    .ok (some (.ofWord .newLine ['\n']))
  else if character = '@' ∨ character = '$' then
    (recognizeVariable position character rest).map some
  else if character = ':' then
    .ok (some (.ofWord .colon [':']))
  else if character = '(' then
    .ok (some (.ofWord .parenOpen ['(']))
  else if character = ')' then
    .ok (some (.ofWord .parenClose [')']))
  else if character = '"' ∨ character = '\x60' then
    (recognizeQuoted position character rest).map some
  else if character.isDigit then
    (recognizeNumber position text).map some
  else if ['t', 'r', 'u', 'e'].isPrefixOf text then
    .ok (some ⟨.literal, ['t', 'r', 'u', 'e'], some (.boolean true)⟩)
  else if ['f', 'a', 'l', 's', 'e'].isPrefixOf text then
    .ok (some ⟨.literal, ['f', 'a', 'l', 's', 'e'], some (.boolean false)⟩)
  else if ['-', '-', '*'].isPrefixOf text then
    (recognizeBlockComment position text).map some
  else if ['-', '-'].isPrefixOf text then
    .ok (some (recognizeComment text))
  else
    (recognizeFixed reading.before reading.previous position text).map some

/-- Read the rest of a source.  The number counts the characters that still belong to the last
token. -/
def scan : Reading → Nat → List Char → Except SyntaxError (List Token)
  | reading, _, [] =>
      if reading.afterColon then
        .error ⟨.missingDataType, reading.position⟩
      else
        .ok reading.before.reverse
  | reading, pending + 1, character :: rest => scan (reading.pass character) pending rest
  | reading, 0, character :: rest =>
      match recognize reading character rest with
      | .error error => .error error
      | .ok none => scan (reading.pass character) 0 rest
      | .ok (some piece) =>
          scan ((reading.emit piece).pass character) (piece.length - 1) rest

/-- The tokens of a source, or the first place where none starts. -/
def tokenize (source : String) : Except SyntaxError (List Token) :=
  scan .start 0 source.toList

end Zoop.Token
