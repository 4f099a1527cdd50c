import Zoop.Grammar.Expression
import Zoop.Program.Statement

/-!
# The grammar of statements

A statement starts with a bracket, a keyword or an arrow, or else it is a line: an expression that may
end with an arrow.  Statements inside a statement are parsed by a given parser, which is the parser of
statements itself one level of nesting further down; each nesting takes at least one token.
-/

namespace Zoop.Grammar

/-! ## Places -/

/-- Where a statement stands, as far as it matters for what it may be. -/
inductive Place where
  /-- At the top of the program. -/
  | top
  /-- In a body, and in no loop. -/
  | body
  /-- In the body of a loop, at any depth. -/
  | loop
deriving DecidableEq, Repr

namespace Place

/-- The place of the statements in a body that stands here and is not that of a loop. -/
def inside : Place → Place
  | .top => .body
  | place => place

end Place

/-- A parser of statements, which depends on their place. -/
abbrev StatementParser : Type :=
  Place → Parser Statement

/-! ## Lines -/

/-- Whether a line ends before this token. -/
def endsLine (token : Token) : Bool :=
  token.kind == .newLine || token.kind == .blockClose || token.isKeyword "elif" ||
    token.isKeyword "else"

/-- The arrow at the end of a line.  A line may have one arrow that prints or hands back, and only at
its end. -/
def lineArrow (line : List Token) : Outcome SyntaxError (Option TokenKind) :=
  let fromArrow := fun kind : TokenKind => line.dropWhile fun token => token.kind != kind
  match fromArrow .output, fromArrow .flowOut with
  | [], [] => .ok none
  | _ :: _, arrow :: _ => .error ⟨.printAndReturn, arrow.position⟩
  | [_], [] => .ok (some .output)
  | arrow :: _ :: _, [] => .error ⟨.printNotAtLineEnd, arrow.position⟩
  | [], [_] => .ok (some .flowOut)
  | [], arrow :: _ :: _ => .error ⟨.returnNotAtLineEnd, arrow.position⟩

/-- A line: an expression, and then the arrow of the line if it has one. -/
def lineStatement (finish : Position) : Parser Statement := fun tokens => do
  let arrow ← lineArrow (tokens.takeWhile fun token => !endsLine token)
  let (value, rest) ← expression finish tokens
  match arrow with
  | none => return (.expression value.position value, rest)
  | some kind =>
      let (token, rest) ←
        expectKind finish kind (.unexpectedToken ((rest.head?.map Token.lexeme).getD "")) rest
      if kind = .output then
        return (.print token.position value, rest)
      else
        return (.giveBack token.position (some value), rest)

/-! ## Bodies -/

section Nested

variable (finish : Position) (nested : StatementParser)

/-- The statements of a scope block, after its opening brace, up to its closing brace. -/
def blockStatements (opening : Position) (place : Place) : Nat → Parser (List Statement)
  | 0, _ => .outOfFuel
  | bound + 1, tokens =>
      match skipNewLines tokens with
      | [] => .error ⟨.unclosedScopeBlock, opening⟩
      | token :: rest =>
          if token.kind = .blockClose then
            .ok ([], rest)
          else do
            let (first, rest) ← nested place (token :: rest)
            let (others, rest) ← blockStatements opening place bound rest
            return (first :: others, rest)

/-- The statements of a body up to its closing keyword. -/
def bodyStatements (construct : Construct) (opening : Position) (place : Place) :
    Nat → Parser (List Statement)
  | 0, _ => .outOfFuel
  | bound + 1, tokens =>
      match skipNewLines tokens with
      | [] => .error ⟨.unclosedBlock construct, opening⟩
      | token :: rest =>
          if token.isKeyword construct.closing then
            .ok ([], rest)
          else do
            let (first, rest) ← nested place (token :: rest)
            let (others, rest) ← bodyStatements construct opening place bound rest
            return (first :: others, rest)

/-- A line has to end after a closing keyword. -/
def lineEnd (construct : Construct) : List Token → Outcome SyntaxError (List Token)
  | [] => .ok []
  | token :: rest =>
      if token.kind = .newLine then
        .ok rest
      else
        .error ⟨.missingNewLine construct, token.position⟩

/-- A body: one statement after an arrow, or statements up to a closing keyword. -/
def body (construct : Construct) (opening : Position) (place : Place) :
    Parser (List Statement) := fun tokens =>
  if nextIs .direct tokens then do
    let (single, rest) ← nested place tokens.tail
    return ([single], skipKind .newLine rest)
  else do
    let (statements, rest) ←
      bodyStatements nested construct opening place (tokens.length + 1) tokens
    let rest ← lineEnd construct rest
    return (statements, rest)

/-! ## Conditions -/

/-- A guard and its body, after the keyword. -/
def branch (construct : Construct) (opening : Position) (place : Place) : Parser Branch :=
  fun tokens => do
    let (guard, rest) ← expression finish tokens
    let (statements, rest) ← body nested construct opening place rest
    return (.mk opening guard statements, rest)

/-- All branches that start with `elif`. -/
def elifBranches (place : Place) : Nat → Parser (List Branch)
  | _, [] => .ok ([], [])
  | bound, token :: rest =>
      if token.isKeyword "elif" then
        match bound with
        | 0 => .outOfFuel
        | bound + 1 => do
            let (first, rest) ← branch finish nested .elifBranch token.position place rest
            let (others, rest) ← elifBranches place bound rest
            return (first :: others, rest)
      else
        .ok ([], token :: rest)

/-- The body after `else`, if there is one. -/
def elseBody (place : Place) : Parser (Option (List Statement))
  | [] => .ok (none, [])
  | token :: rest =>
      if token.isKeyword "else" then do
        let (statements, rest) ← body nested .elseBranch token.position place rest
        return (some statements, rest)
      else
        .ok (none, token :: rest)

/-- A condition, after its keyword. -/
def condition (opening : Position) (place : Place) : Parser Statement := fun tokens => do
  let (first, rest) ← branch finish nested .ifBranch opening place tokens
  let (others, rest) ← elifBranches finish nested place rest.length rest
  let (otherwise, rest) ← elseBody nested place rest
  return (.condition opening first others otherwise, rest)

/-! ## Zoops -/

/-- A parameter: an immutable variable with its data type. -/
def parameter : Parser Parameter := fun tokens => do
  let (token, rest) ← expectKind finish .variable .invalidParameter tokens
  let subject ← variableOf token .invalidParameter
  if subject.mutable then
    .error ⟨.mutableParameter, token.position⟩
  else
    let (_, rest) ← expectKind finish .colon .missingParameterColon rest
    let (type, rest) ← expectType finish .invalidRoutineType rest
    return (⟨subject.name, type⟩, rest)

/-- Whether the parameters of a zoop end before this token. -/
def endsParameters (token : Token) : Bool :=
  token.kind == .direct || token.kind == .blockOpen || token.kind == .newLine

/-- The parameters of a zoop. -/
def parameters : Nat → Parser (List Parameter)
  | _, [] => .ok ([], [])
  | bound, token :: rest =>
      if endsParameters token then
        .ok ([], token :: rest)
      else
        match bound with
        | 0 => .outOfFuel
        | bound + 1 => do
            let (first, rest) ← parameter finish (token :: rest)
            let (others, rest) ← parameters bound rest
            return (first :: others, rest)

/-- The label of a zoop: the text of the value of a label. -/
def routineLabel : Parser String := fun tokens => do
  let (token, rest) ← expect finish Token.isLabel .invalidRoutineLabel tokens
  match token.value with
  | some value => return (value.text, rest)
  | none => .error ⟨.invalidRoutineLabel, token.position⟩

/-- The data type that a zoop hands back, if it names one. -/
def returnType : Parser (Option DataType) := fun tokens =>
  if nextIs .colon tokens then do
    let (type, rest) ← expectType finish .invalidRoutineType tokens.tail
    return (some type, rest)
  else
    .ok (none, tokens)

/-- The declaration of a zoop, after its keyword. -/
def routine (opening : Position) : Parser Statement := fun tokens => do
  let (type, rest) ← returnType finish tokens
  let (label, rest) ← routineLabel finish rest
  let (_, rest) ← expectKind finish .flowIn .missingRoutineFlowIn rest
  let (taken, rest) ← parameters finish rest.length rest
  let (statements, rest) ← body nested .zoop opening .body rest
  return (.routine opening label taken type statements, rest)

/-! ## Statements -/

/-- One statement. -/
def statementWith : StatementParser
  | _, [] => .error ⟨.invalidExpression, finish⟩
  | place, token :: rest =>
      if token.kind = .blockOpen then do
        let (statements, rest) ←
          blockStatements nested token.position place.inside (rest.length + 1) rest
        return (.block token.position statements, rest)
      else if token.isKeyword "zoop" then
        if place = .top then
          routine finish nested token.position rest
        else
          .error ⟨.nestedRoutine, token.position⟩
      else if token.isKeyword "if" then
        condition finish nested token.position place.inside rest
      else if token.isKeyword "loop" then do
        let (statements, rest) ← body nested .loop token.position .loop rest
        return (.loop token.position statements, rest)
      else if token.isKeyword "end" then
        if place = .loop then
          .ok (.leave token.position, rest)
        else
          .error ⟨.endOutsideLoop, token.position⟩
      else if token.isKeyword "de" then
        .error ⟨.detachedDe, token.position⟩
      else if token.kind = .flowOut then
        .ok (.giveBack token.position none, rest)
      else
        lineStatement finish (token :: rest)

end Nested

/-- A statement with a given bound on its nesting. -/
def nestedStatement (finish : Position) : Nat → StatementParser
  | 0 => fun _ _ => .outOfFuel
  | depth + 1 => statementWith finish (nestedStatement finish depth)

/-- A statement.  It cannot nest deeper than there are tokens. -/
def statement (finish : Position) : StatementParser := fun place tokens =>
  nestedStatement finish (tokens.length + 1) place tokens

/-! ## Programs -/

/-- All statements up to the end of the tokens. -/
def topStatements (finish : Position) : Nat → List Token → Outcome SyntaxError (List Statement)
  | 0, _ => .outOfFuel
  | bound + 1, tokens =>
      match skipNewLines tokens with
      | [] => .ok []
      | token :: rest => do
          let (first, rest) ← statement finish .top (token :: rest)
          let others ← topStatements finish bound rest
          return first :: others

/-- The tokens that the grammar looks at: all but the comments. -/
def significant (tokens : List Token) : List Token :=
  tokens.filter fun token => !token.isComment

/-- Where errors at the end of the tokens point: at the last token, or at the start of a source
without tokens. -/
def finishOf (tokens : List Token) : Position :=
  (tokens.getLast?.map Token.position).getD Position.start

/-- The program of a list of tokens, by a bounded computation. -/
def program (tokens : List Token) : Outcome SyntaxError Program := do
  let kept := significant tokens
  let statements ← topStatements (finishOf kept) (kept.length + 1) kept
  return ⟨statements⟩

end Zoop.Grammar

namespace Zoop.Program

/-- The program of a list of tokens, or the first error. -/
def parse (tokens : List Token) : Except SyntaxError Program :=
  match Grammar.program tokens with
  | .ok program => .ok program
  | .error error => .error error
  | .fault | .outOfFuel => .error ⟨.invalidExpression, Position.start⟩

theorem program_of_parse
    {tokens : List Token} {program : Program} (parsed : parse tokens = .ok program) :
    Grammar.program tokens = .ok program := by
  unfold parse at parsed
  split at parsed <;> cases parsed
  assumption

end Zoop.Program
