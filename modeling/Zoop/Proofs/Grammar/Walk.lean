import Zoop.Grammar.Statement

/-!
# Parsing by a cursor

The grammar takes tokens from the front of a list.  Here the same language is parsed by a cursor that
moves over all tokens, beside two counters: in how many loops and in how many bodies the cursor stands.
The cursor moves by one token at a time and only forward.

Besides an error of syntax four things may go wrong, and each of them is a fault: the cursor leaves the
tokens, a slice or an index is out of range, a counter falls below zero, or a statement starts in more
loops than bodies.

One number of fuel bounds how often each loop is repeated and how deep the functions call each other.
-/

namespace Zoop.Grammar

/-! ## Walks -/

/-- A cursor, and in how many loops and in how many bodies it stands. -/
structure Walker where
  current : Nat
  loopDepth : Nat
  blockDepth : Nat

/-- A computation that moves a cursor. -/
def Walk (α : Type) : Type :=
  Walker → Outcome SyntaxError α × Walker

namespace Walk

variable {α β : Type}

def bind (walk : Walk α) (next : α → Walk β) : Walk β := fun walker =>
  match walk walker with
  | (.ok value, walker) => next value walker
  | (.error error, walker) => (.error error, walker)
  | (.fault, walker) => (.fault, walker)
  | (.outOfFuel, walker) => (.outOfFuel, walker)

instance : Monad Walk where
  pure value := fun walker => (.ok value, walker)
  bind := bind

def exhausted : Walk α := fun walker =>
  (.outOfFuel, walker)

def fault : Walk α := fun walker =>
  (.fault, walker)

def refuse (cause : SyntaxCause) (position : Position) : Walk α := fun walker =>
  (.error ⟨cause, position⟩, walker)

/-! ## Moving the cursor -/

section Cursor

variable (tokens : List Token)

def cursor : Walk Nat := fun walker =>
  (.ok walker.current, walker)

/-- The token so far behind the cursor. -/
def lookAhead (offset : Nat) : Walk (Option Token) := fun walker =>
  (.ok tokens[walker.current + offset]?, walker)

def isAtEnd : Walk Bool := fun walker =>
  (.ok (decide (tokens.length ≤ walker.current)), walker)

/-- Move by one token, which has to be there. -/
def step : Walk Unit := fun walker =>
  if walker.current < tokens.length then
    (.ok (), { walker with current := walker.current + 1 })
  else
    fault walker

/-- Take the token at the cursor, if there is one. -/
def advance : Walk (Option Token) := do
  match ← lookAhead tokens 0 with
  | some token =>
      step tokens
      return some token
  | none => return none

def matchKind (kind : TokenKind) : Walk Bool := do
  match ← lookAhead tokens 0 with
  | some token =>
      if token.kind = kind then
        step tokens
        return true
      else
        return false
  | none => return false

/-- Where errors at the cursor point: at the token there, or else at the last token. -/
def errorPosition : Walk Position := fun walker =>
  (.ok (((tokens[walker.current]?.or tokens.getLast?).map Token.position).getD Position.start),
    walker)

def expect (accepts : Token → Bool) (cause : SyntaxCause) : Walk Token := do
  let position ← errorPosition tokens
  match ← lookAhead tokens 0 with
  | some token =>
      if accepts token then
        step tokens
        return token
      else
        refuse cause position
  | none => refuse cause position

def expectKind (kind : TokenKind) (cause : SyntaxCause) : Walk Token :=
  expect tokens (fun token => token.kind == kind) cause

def expectType (cause : SyntaxCause) : Walk DataType := do
  let token ← expect tokens Token.isTypeKeyword cause
  match DataType.ofKeyword? token.lexeme with
  | some type => return type
  | none => refuse cause token.position

/-- The tokens from one index up to another, both of which have to be in range and in order. -/
def slice (first last : Nat) : Walk (List Token) := fun walker =>
  if first ≤ last ∧ last ≤ tokens.length then
    (.ok ((tokens.drop first).take (last - first)), walker)
  else
    fault walker

/-- The token at an index of a line, which has to be there. -/
def tokenAt (slice : List Token) (index : Nat) : Walk Token :=
  match slice[index]? with
  | some token => return token
  | none => fault

end Cursor

/-! ## Counting loops and bodies -/

def enterBlock : Walk Unit := fun walker =>
  (.ok (), { walker with blockDepth := walker.blockDepth + 1 })

def leaveBlock : Walk Unit := fun walker =>
  match walker.blockDepth with
  | 0 => fault walker
  | depth + 1 => (.ok (), { walker with blockDepth := depth })

def enterLoop : Walk Unit := fun walker =>
  (.ok (), { walker with loopDepth := walker.loopDepth + 1 })

def leaveLoop : Walk Unit := fun walker =>
  match walker.loopDepth with
  | 0 => fault walker
  | depth + 1 => (.ok (), { walker with loopDepth := depth })

/-- Do something after a walk, however it ends. -/
def thenAlways (walk : Walk α) (after : Walk Unit) : Walk α := fun walker =>
  match walk walker with
  | (outcome, walker) =>
      match after walker with
      | (.ok (), walker) => (outcome, walker)
      | (.error error, walker) => (.error error, walker)
      | (.fault, walker) => (.fault, walker)
      | (.outOfFuel, walker) => (.outOfFuel, walker)

/-! ## Expressions -/

section Expressions

variable (tokens : List Token)

def variableOf (token : Token) (cause : SyntaxCause) : Walk Variable :=
  match (Variable.ofText? token.lexeme).filter fun subject => !subject.name.isEmpty with
  | some subject => return subject
  | none => refuse cause token.position

def chainRest (level : Nat) (operand : Walk Expression) : Nat → Expression → Walk Expression
  | 0, _ => exhausted
  | fuel + 1, left => do
      match ← lookAhead tokens 0 with
      | none => return left
      | some token =>
          match operatorAt? level token with
          | none => return left
          | some operator =>
              let _ ← advance tokens
              let right ← operand
              chainRest level operand fuel
                (.binary left.position operator token.position left right)

def tier (fuel : Nat) (operand : Walk Expression) : Nat → Walk Expression
  | 0 => operand
  | tiers + 1 => do
      let left ← tier fuel operand tiers
      chainRest tokens (6 - tiers) (tier fuel operand tiers) fuel left

def isCast : Walk Bool := do
  let mark ← lookAhead tokens 0
  let word ← lookAhead tokens 1
  return (mark.any fun token => token.lexeme == "~") && word.any Token.isTypeKeyword

def unary (operand : Walk Expression) : Nat → Walk Expression
  | 0 => exhausted
  | fuel + 1 => do
      let casting ← isCast tokens
      match ← lookAhead tokens 0 with
      | none => operand
      | some token =>
          if token.kind = .unaryOperator && !casting then
            match UnaryOperator.ofLexeme? token.lexeme with
            | none => refuse .invalidExpression token.position
            | some operator =>
                let _ ← advance tokens
                let inner ← unary operand fuel
                return .unary token.position operator inner
          else
            operand

def casts : Nat → Expression → Walk Expression
  | 0, _ => exhausted
  | fuel + 1, inner => do
      if ← isCast tokens then
        let _ ← advance tokens
        let position ← errorPosition tokens
        let type ← expectType tokens .invalidDataType
        casts fuel (.cast position type inner)
      else
        return inner

section Primary

variable (nested : Walk Expression)

def arguments : Nat → Walk (List Expression)
  | 0 => exhausted
  | fuel + 1 => do
      if (← lookAhead tokens 0).any startsArgument then
        let first ← nested
        let others ← arguments fuel
        return first :: others
      else
        return []

def call (fuel : Nat) (label : Token) : Walk Expression := do
  let _ ← advance tokens
  let _ ← advance tokens
  let values ← arguments tokens nested fuel
  return .call label.position ((label.value.map TokenValue.text).getD "") values

def inputType : Walk DataType := do
  if ← matchKind tokens .colon then
    expectType tokens .invalidDataType
  else
    return .string

def promptLabel : Walk (Option String) := do
  let next ← lookAhead tokens 0
  match ((next.filter Token.isLabel).bind Token.value).map TokenValue.text with
  | some prompt =>
      let _ ← advance tokens
      return some prompt
  | none => return none

def input : Walk Expression := do
  let position ← errorPosition tokens
  let _ ← advance tokens
  let type ← inputType tokens
  let prompt ← promptLabel tokens
  return .input position type prompt

/-- Whether the tokens behind a variable at the cursor give it a value. -/
def isAssignment : Walk Bool := do
  let first ← lookAhead tokens 1
  let second ← lookAhead tokens 2
  let third ← lookAhead tokens 3
  return (first.any fun token => token.kind == .flowIn) ||
    ((first.any fun token => token.kind == .colon) &&
      (second.any fun token => token.kind == .keyword) &&
      third.any fun token => token.kind == .flowIn)

def assignment : Walk Expression := do
  let position ← errorPosition tokens
  match ← advance tokens with
  | none => refuse .invalidExpression position
  | some token =>
      let subject ← variableOf token .invalidIdentifier
      if ← matchKind tokens .flowIn then
        if subject.mutable then
          let value ← nested
          return .reassign position subject.name value
        else
          refuse .immutableReassigned position
      else
        let _ ← matchKind tokens .colon
        let type ← expectType tokens .invalidDataType
        let _ ← expectKind tokens .flowIn .invalidExpression
        let value ← nested
        return .declare position subject type value

def primary (fuel : Nat) : Walk Expression := do
  let position ← errorPosition tokens
  match ← lookAhead tokens 0 with
  | none => refuse .invalidExpression position
  | some token =>
      match token.kind with
      | .literal =>
          let next ← lookAhead tokens 1
          if token.isLabel && next.any (fun token => token.isKeyword "de") then
            call tokens nested fuel token
          else
            let _ ← advance tokens
            match Literal.ofToken? token with
            | some value => return .literal position value
            | none => refuse .invalidExpression position
      | .input => input tokens
      | .variable =>
          if ← isAssignment tokens then
            assignment tokens nested
          else
            let _ ← advance tokens
            let subject ← variableOf token .invalidIdentifier
            return .variable position subject
      | .parenOpen =>
          let _ ← advance tokens
          let inner ← nested
          let _ ← expectKind tokens .parenClose .unclosedGrouping
          return .grouping position inner
      | _ => refuse .invalidExpression position

def castable (fuel : Nat) : Walk Expression := do
  let inner ← primary tokens nested fuel
  casts tokens fuel inner

end Primary

def expression : Nat → Walk Expression
  | 0 => exhausted
  | fuel + 1 =>
      tier tokens (fuel + 1)
        (unary tokens (castable tokens (expression fuel) (fuel + 1)) (fuel + 1)) 6

end Expressions

/-! ## Statements -/

section Statements

variable (tokens : List Token)

/-- The index behind the last token of the line at the cursor. -/
def lineStop : Walk Nat := do
  let current ← cursor
  let rest ← slice tokens current tokens.length
  match rest.findIdx? endsLine with
  | some index => return current + index
  | none => return tokens.length

/-- The arrow at the end of a line. -/
def lineArrow (line : List Token) : Walk (Option TokenKind) :=
  match
    line.findIdx? fun token => token.kind == .output,
    line.findIdx? fun token => token.kind == .flowOut with
  | some _, some index => do
      let arrow ← tokenAt line index
      refuse .printAndReturn arrow.position
  | some index, none =>
      if index + 1 ≠ line.length then do
        let arrow ← tokenAt line index
        refuse .printNotAtLineEnd arrow.position
      else
        return some .output
  | none, some index =>
      if index + 1 ≠ line.length then do
        let arrow ← tokenAt line index
        refuse .returnNotAtLineEnd arrow.position
      else
        return some .flowOut
  | none, none => return none

def lineStatement (fuel : Nat) : Walk Statement := do
  let last ← lineStop tokens
  let current ← cursor
  let line ← slice tokens current last
  let arrow ← lineArrow line
  let value ← expression tokens fuel
  match arrow with
  | none => return .expression value.position value
  | some kind =>
      let position ← errorPosition tokens
      let next ← lookAhead tokens 0
      let _ ← expectKind tokens kind (.unexpectedToken ((next.map Token.lexeme).getD ""))
      if kind = .output then
        return .print position value
      else
        return .giveBack position (some value)

section Nested

variable (nested : Walk Statement)

def blockStatements (opening : Position) : Nat → Walk (List Statement)
  | 0 => exhausted
  | fuel + 1 => do
      if ← matchKind tokens .newLine then
        blockStatements opening fuel
      else if ← matchKind tokens .blockClose then
        return []
      else if ← isAtEnd tokens then
        refuse .unclosedScopeBlock opening
      else
        let first ← nested
        let others ← blockStatements opening fuel
        return first :: others

/-- A scope block.  An error leaves the counter as it is. -/
def scopeBlock (fuel : Nat) : Walk Statement := do
  let position ← errorPosition tokens
  let _ ← advance tokens
  enterBlock
  let statements ← blockStatements tokens nested position fuel
  leaveBlock
  return .block position statements

def closedStatements (construct : Construct) (opening : Position) : Nat → Walk (List Statement)
  | 0 => exhausted
  | fuel + 1 => do
      if ← matchKind tokens .newLine then
        closedStatements construct opening fuel
      else if ← isAtEnd tokens then
        refuse (.unclosedBlock construct) opening
      else if (← lookAhead tokens 0).any fun token => token.isKeyword construct.closing then
        let _ ← advance tokens
        return []
      else
        let first ← nested
        let others ← closedStatements construct opening fuel
        return first :: others

/-- A line has to end after a closing keyword. -/
def lineEnd (construct : Construct) : Walk Unit := do
  if ← isAtEnd tokens then
    return ()
  else if ← matchKind tokens .newLine then
    return ()
  else
    let position ← errorPosition tokens
    refuse (.missingNewLine construct) position

def bodyStatements (fuel : Nat) (construct : Construct) (opening : Position) :
    Walk (List Statement) := do
  if ← matchKind tokens .direct then
    let single ← nested
    let _ ← matchKind tokens .newLine
    return [single]
  else
    let statements ← closedStatements tokens nested construct opening fuel
    lineEnd tokens construct
    return statements

/-- A body.  The counter goes back also after an error. -/
def body (fuel : Nat) (construct : Construct) (opening : Position) : Walk (List Statement) := do
  enterBlock
  (bodyStatements tokens nested fuel construct opening).thenAlways leaveBlock

def branch (fuel : Nat) (construct : Construct) : Walk Branch := do
  let position ← errorPosition tokens
  let _ ← advance tokens
  let guard ← expression tokens fuel
  let statements ← body tokens nested fuel construct position
  return .mk position guard statements

def elifBranches (fuel : Nat) : Nat → Walk (List Branch)
  | 0 => exhausted
  | rounds + 1 => do
      if (← lookAhead tokens 0).any fun token => token.isKeyword "elif" then
        let first ← branch tokens nested fuel .elifBranch
        let others ← elifBranches fuel rounds
        return first :: others
      else
        return []

def elseBody (fuel : Nat) : Walk (Option (List Statement)) := do
  if (← lookAhead tokens 0).any fun token => token.isKeyword "else" then
    let position ← errorPosition tokens
    let _ ← advance tokens
    let statements ← body tokens nested fuel .elseBranch position
    return some statements
  else
    return none

def condition (fuel : Nat) : Walk Statement := do
  let position ← errorPosition tokens
  let first ← branch tokens nested fuel .ifBranch
  let others ← elifBranches tokens nested fuel fuel
  let otherwise ← elseBody tokens nested fuel
  return .condition position first others otherwise

/-- A loop.  The counter goes back also after an error. -/
def loop (fuel : Nat) : Walk Statement := do
  let position ← errorPosition tokens
  let _ ← advance tokens
  enterLoop
  let statements ← (body tokens nested fuel .loop position).thenAlways leaveLoop
  return .loop position statements

def parameter : Walk Parameter := do
  let token ← expectKind tokens .variable .invalidParameter
  let subject ← variableOf token .invalidParameter
  if subject.mutable then
    refuse .mutableParameter token.position
  else
    let _ ← expectKind tokens .colon .missingParameterColon
    let type ← expectType tokens .invalidRoutineType
    return ⟨subject.name, type⟩

def parameters : Nat → Walk (List Parameter)
  | 0 => exhausted
  | fuel + 1 => do
      match ← lookAhead tokens 0 with
      | none => return []
      | some token =>
          if endsParameters token then
            return []
          else
            let first ← parameter tokens
            let others ← parameters fuel
            return first :: others

def returnType : Walk (Option DataType) := do
  if ← matchKind tokens .colon then
    let type ← expectType tokens .invalidRoutineType
    return some type
  else
    return none

def routineLabel : Walk String := do
  let token ← expect tokens Token.isLabel .invalidRoutineLabel
  match token.value with
  | some value => return value.text
  | none => refuse .invalidRoutineLabel token.position

def routine (fuel : Nat) : Walk Statement := do
  let position ← errorPosition tokens
  let _ ← advance tokens
  let type ← returnType tokens
  let label ← routineLabel tokens
  let _ ← expectKind tokens .flowIn .missingRoutineFlowIn
  let taken ← parameters tokens fuel
  let statements ← body tokens nested fuel .zoop position
  return .routine position label taken type statements

/-- A statement.  What may stand here is decided by the counters, and there may be no more loops than
bodies. -/
def statementWith (fuel : Nat) : Walk Statement := fun walker =>
  if walker.blockDepth < walker.loopDepth then
    fault walker
  else
    match tokens[walker.current]? with
    | none => (do refuse .invalidExpression (← errorPosition tokens) : Walk Statement) walker
    | some token =>
        if token.kind = .blockOpen then
          scopeBlock tokens nested fuel walker
        else if token.isKeyword "zoop" then
          if 0 < walker.blockDepth then
            refuse .nestedRoutine token.position walker
          else
            routine tokens nested fuel walker
        else if token.isKeyword "if" then
          condition tokens nested fuel walker
        else if token.isKeyword "loop" then
          loop tokens nested fuel walker
        else if token.isKeyword "end" then
          if walker.loopDepth = 0 then
            refuse .endOutsideLoop token.position walker
          else
            (do
              let _ ← advance tokens
              return .leave token.position : Walk Statement) walker
        else if token.isKeyword "de" then
          refuse .detachedDe token.position walker
        else if token.kind = .flowOut then
          (do
            let _ ← advance tokens
            return .giveBack token.position none : Walk Statement) walker
        else
          lineStatement tokens fuel walker

end Nested

def statement : Nat → Walk Statement
  | 0 => exhausted
  | fuel + 1 => statementWith tokens (statement fuel) (fuel + 1)

def topStatements (fuel : Nat) : Nat → Walk (List Statement)
  | 0 => exhausted
  | rounds + 1 => do
      if ← isAtEnd tokens then
        return []
      else if ← matchKind tokens .newLine then
        topStatements fuel rounds
      else
        let first ← statement tokens fuel
        let others ← topStatements fuel rounds
        return first :: others

end Statements

/-- The program of a list of tokens, by a cursor that starts in front of the first of them. -/
def program (fuel : Nat) (tokens : List Token) : Outcome SyntaxError Program × Walker :=
  let kept := significant tokens
  (do
    let statements ← topStatements kept fuel fuel
    return ⟨statements⟩ : Walk Program) ⟨0, 0, 0⟩

end Walk

end Zoop.Grammar
