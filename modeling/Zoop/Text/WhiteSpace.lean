/-!
# White space

The characters with the Unicode property `White_Space`, and texts without them at their ends.
-/

namespace Zoop.Text

/-- Whether a character has the Unicode property `White_Space`. -/
def isWhiteSpace (character : Char) : Bool :=
  let code := character.toNat
  (0x9 ≤ code && code ≤ 0xD) || code == 0x20 || code == 0x85 || code == 0xA0 || code == 0x1680 ||
    (0x2000 ≤ code && code ≤ 0x200A) || code == 0x2028 || code == 0x2029 || code == 0x202F ||
    code == 0x205F || code == 0x3000

/-- A text without the white space at its end. -/
def trimRight (text : List Char) : List Char :=
  (text.reverse.dropWhile isWhiteSpace).reverse

/-- A text without the white space at both ends. -/
def trim (text : List Char) : List Char :=
  trimRight (text.dropWhile isWhiteSpace)

end Zoop.Text
