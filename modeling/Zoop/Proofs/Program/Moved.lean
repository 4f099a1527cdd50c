import Zoop.Program.Statement

/-!
# Programs at other places

The tokens of a text have other places when the text stands inside another one, and so have the
expressions and statements that are made of them.  A move says where each place has gone; nothing else
of a token, an expression or a statement changes.
-/

namespace Zoop

/-! ## Tokens -/

/-- Where the places of one source are in another. -/
structure Move where
  place : Position → Position
  /-- The same as offsets from the start. -/
  offset : Nat → Nat

namespace Token

/-- A token at its other place. -/
def moved (move : Move) (token : Token) : Token :=
  { token with
    position := move.place token.position
    span := ⟨move.offset token.span.offset, token.span.length⟩ }

variable (move : Move) (token : Token)

@[simp]
theorem kind_moved : (token.moved move).kind = token.kind :=
  rfl

@[simp]
theorem lexeme_moved : (token.moved move).lexeme = token.lexeme :=
  rfl

@[simp]
theorem value_moved : (token.moved move).value = token.value :=
  rfl

@[simp]
theorem position_moved : (token.moved move).position = move.place token.position :=
  rfl

@[simp]
theorem isKeyword_moved (word : String) : (token.moved move).isKeyword word = token.isKeyword word :=
  rfl

@[simp]
theorem isLabel_moved : (token.moved move).isLabel = token.isLabel :=
  rfl

@[simp]
theorem typeKeyword?_moved : (token.moved move).typeKeyword? = token.typeKeyword? :=
  rfl

@[simp]
theorem ofToken?_moved : Literal.ofToken? (token.moved move) = Literal.ofToken? token :=
  rfl

variable {move} in
theorem map_moved_eq_self
    {tokens : List Token} (fixed : ∀ token ∈ tokens, token.moved move = token) :
    tokens.map (Token.moved move) = tokens :=
  (List.map_congr_left fixed).trans (List.map_id' tokens)

end Token

/-! ## Expressions -/

namespace Expression

variable (place : Position → Position)

mutual

/-- An expression at its other place. -/
def moved : Expression → Expression
  | .literal position value => .literal (place position) value
  | .variable position subject => .variable (place position) subject
  | .declare position subject type value => .declare (place position) subject type value.moved
  | .reassign position name value => .reassign (place position) name value.moved
  | .grouping position inner => .grouping (place position) inner.moved
  | .unary position operator operand => .unary (place position) operator operand.moved
  | .binary position operator operatorPosition left right =>
      .binary (place position) operator (place operatorPosition) left.moved right.moved
  | .cast position type inner => .cast (place position) type inner.moved
  | .input position type prompt => .input (place position) type prompt
  | .call position label arguments => .call (place position) label (movedAll arguments)

def movedAll : List Expression → List Expression
  | [] => []
  | first :: others => first.moved :: movedAll others

end

@[simp]
theorem position_moved (expression : Expression) :
    (expression.moved place).position = place expression.position := by
  cases expression <;> simp only [moved, position]

@[simp]
theorem length_movedAll (arguments : List Expression) :
    (movedAll place arguments).length = arguments.length := by
  induction arguments with
  | nil => rfl
  | cons first others inductionHypothesis =>
      rw [movedAll, List.length_cons, List.length_cons, inductionHypothesis]

end Expression

/-! ## Statements -/

namespace Statement

variable (place : Position → Position)

mutual

/-- A statement at its other place. -/
def moved : Statement → Statement
  | .expression position value => .expression (place position) (value.moved place)
  | .print position value => .print (place position) (value.moved place)
  | .block position body => .block (place position) (movedAll body)
  | .condition position first others otherwise =>
      .condition (place position) (movedBranch first) (movedBranches others)
        (movedOtherwise otherwise)
  | .routine position label parameters returnType body =>
      .routine (place position) label parameters returnType (movedAll body)
  | .giveBack position none => .giveBack (place position) none
  | .giveBack position (some value) => .giveBack (place position) (some (value.moved place))
  | .loop position body => .loop (place position) (movedAll body)
  | .leave position => .leave (place position)

def movedAll : List Statement → List Statement
  | [] => []
  | first :: others => first.moved :: movedAll others

def movedBranch : Branch → Branch
  | .mk position guard body => .mk (place position) (guard.moved place) (movedAll body)

def movedBranches : List Branch → List Branch
  | [] => []
  | first :: others => movedBranch first :: movedBranches others

def movedOtherwise : Option (List Statement) → Option (List Statement)
  | none => none
  | some body => some (movedAll body)

end

theorem movedAll_append (first second : List Statement) :
    movedAll place (first ++ second) = movedAll place first ++ movedAll place second := by
  induction first with
  | nil => rfl
  | cons statement first inductionHypothesis =>
      rw [List.cons_append, movedAll, movedAll, inductionHypothesis, List.cons_append]

end Statement

def Program.moved (place : Position → Position) (program : Program) : Program :=
  ⟨Statement.movedAll place program.statements⟩

end Zoop
