/-!
# Ranges of characters

Properties of characters are given as tables of ranges of code points.  The tables hold the properties
as version 17.0 of the Unicode standard gives them.
-/

namespace Zoop.Text

/-- Whether the code point of a character lies in one of the ranges of a table, ends included. -/
def inRanges (table : List (Nat × Nat)) (character : Char) : Bool :=
  table.any fun range => range.1 ≤ character.toNat && character.toNat ≤ range.2

end Zoop.Text
