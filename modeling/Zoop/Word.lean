/-!
# Words

The two kinds of words that a text may start with: identifiers, which are an ASCII letter and then
letters and digits, and numbers, which are digits and then maybe a point and more digits.
-/

namespace Zoop.Word

/-- The longest identifier that a text starts with, and the rest of the text: the letters at its start,
of which there is at least one, and all letters and digits behind them. -/
def identifier? (text : List Char) : Option (List Char × List Char) :=
  let letters := text.takeWhile Char.isAlpha
  if letters.isEmpty then
    none
  else
    let rest := text.dropWhile Char.isAlpha
    some (letters ++ rest.takeWhile Char.isAlphanum, rest.dropWhile Char.isAlphanum)

/-- The longest number that a text starts with, and the rest of the text. -/
def number? (text : List Char) : Option (List Char × List Char) :=
  let whole := text.takeWhile Char.isDigit
  if whole.isEmpty then
    none
  else
    match text.dropWhile Char.isDigit with
    | '.' :: rest =>
        some (whole ++ '.' :: rest.takeWhile Char.isDigit, rest.dropWhile Char.isDigit)
    | rest => some (whole, rest)

/-- Whether a recogniser takes a whole text. -/
def takesAll (found : Option (List Char × List Char)) : Bool :=
  match found with
  | some (_, []) => true
  | _ => false

/-- Whether a text is an identifier. -/
def isIdentifier (text : List Char) : Bool :=
  takesAll (identifier? text)

/-- Whether a text is a number. -/
def isNumber (text : List Char) : Bool :=
  takesAll (number? text)

end Zoop.Word
