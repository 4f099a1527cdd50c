/-!
# Line endings

Sources and typed lines come with different line endings.  A source is brought to line feeds alone
before it is read; a typed line loses the ending that closed it; a typed text is cut into pieces
that still carry their endings.
-/

namespace Zoop.Text

/-! ## Normalised sources -/

/-- Every carriage return that stands right before a line feed goes away with it into one line
feed. -/
def joinReturnPairs : List Char → List Char
  | [] => []
  | '\r' :: '\n' :: rest => '\n' :: joinReturnPairs rest
  | character :: rest => character :: joinReturnPairs rest

/-- Every carriage return becomes a line feed. -/
def replaceReturns (text : List Char) : List Char :=
  text.map fun character => if character = '\r' then '\n' else character

/-- Every NUL goes away. -/
def dropNulls (text : List Char) : List Char :=
  text.filter fun character => character ≠ '\x00'

/-- The normal form of a source, on its characters: first the NULs go away, then each pair of a
carriage return and a line feed, and last each carriage return left, becomes a line feed. -/
def normalizeChars (text : List Char) : List Char :=
  replaceReturns (joinReturnPairs (dropNulls text))

/-- The normal form of a source. -/
def normalize (source : String) : String :=
  String.ofList (normalizeChars source.toList)

/-! ## Typed lines -/

/-- A text cut after each line feed.  A last piece without a line feed is kept when it is not
empty. -/
def pieces : List Char → List (List Char)
  | [] => []
  | character :: rest =>
      if character = '\n' then
        ['\n'] :: pieces rest
      else
        match pieces rest with
        | [] => [[character]]
        | piece :: others => (character :: piece) :: others

/-- A typed piece without its ending: the line feed goes away, and with it one carriage return right
before it.  A carriage return without a line feed stays. -/
def withoutEnding (piece : List Char) : List Char :=
  match piece.reverse with
  | '\n' :: '\r' :: rest => rest.reverse
  | '\n' :: rest => rest.reverse
  | _ => piece

end Zoop.Text
