/-!
# Lines of a text

A text with `n` line feeds has `n + 1` lines, the last of which may be empty.  Lines are numbered from
one, as positions number them.
-/

namespace Zoop.Text

/-- The lines of a text, without the line feeds that part them. -/
def lines : List Char → List (List Char)
  | [] => [[]]
  | character :: rest =>
      if character = '\n' then
        [] :: lines rest
      else
        match lines rest with
        | [] => [[character]]
        | line :: others => (character :: line) :: others

/-- A text has at least one line. -/
theorem lines_ne_nil (text : List Char) : lines text ≠ [] := by
  cases text with
  | nil => simp [lines]
  | cons character rest =>
      simp only [lines]
      split
      · simp
      · split <;> simp

/-- The line of a source with a given number, counted from one, if there is such a line. -/
def line? (source : String) : Nat → Option String
  | 0 => none
  | number + 1 => (lines source.toList)[number]?.map String.ofList

end Zoop.Text
