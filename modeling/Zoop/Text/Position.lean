/-!
# Positions and spans

A position is a place in a source text as a reader counts it: lines from one, columns from zero, one
column for each character.  A span is the same place as a machine counts it: a number of characters
from the start, and a length.
-/

namespace Zoop

/-- A place in a source text.  Lines start at one and columns at zero. -/
structure Position where
  /-- The line, counted from one. -/
  line : Nat
  /-- The number of characters before this place on its line. -/
  column : Nat
deriving DecidableEq, Repr

namespace Position

/-- The place of the first character of a text. -/
def start : Position :=
  ⟨1, 0⟩

instance : Inhabited Position :=
  ⟨start⟩

/-- The place just after a character: a line feed opens the next line, any other character takes one
column. -/
def after (position : Position) (character : Char) : Position :=
  if character = '\n' then
    ⟨position.line + 1, 0⟩
  else
    ⟨position.line, position.column + 1⟩

/-- The place just after a whole text. -/
def afterAll (position : Position) (text : List Char) : Position :=
  text.foldl after position

/-- The place one column to the right. -/
def right (position : Position) : Position :=
  ⟨position.line, position.column + 1⟩

/-- A position is written as its line and its column with a comma between them. -/
def text (position : Position) : String :=
  s!"{position.line},{position.column}"

@[simp]
theorem afterAll_nil (position : Position) : position.afterAll [] = position :=
  rfl

@[simp]
theorem afterAll_cons (position : Position) (character : Char) (rest : List Char) :
    position.afterAll (character :: rest) = (position.after character).afterAll rest :=
  rfl

/-- Passing two texts in turn is passing them joined. -/
theorem afterAll_append (position : Position) (first second : List Char) :
    position.afterAll (first ++ second) = (position.afterAll first).afterAll second := by
  simp [afterAll, List.foldl_append]

end Position

/-- A run of characters of a source text, as an offset from its start and a length. -/
structure Span where
  offset : Nat
  length : Nat
deriving DecidableEq, Repr, Inhabited

namespace Span

/-- The offset just past the span. -/
def stop (span : Span) : Nat :=
  span.offset + span.length

/-- Whether the span covers no character. -/
def isEmpty (span : Span) : Bool :=
  span.length == 0

end Span

end Zoop
