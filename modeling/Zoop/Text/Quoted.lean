import Zoop.Text.DefaultIgnorable
import Zoop.Text.GraphemeExtend
import Zoop.Text.Printable

/-!
# Quoted text

The form in which dumps show a text: between double quotes, with escapes for the characters that
would end it or would not show as themselves.
-/

namespace Zoop.Text

/-- The hexadecimal digits of a number, in lower case. -/
def hexDigits (number : Nat) : List Char :=
  Nat.toDigits 16 number

/-- Whether a character is one of the two halfwidth sound marks.  They extend the character before
them, yet they have a place and a width of their own. -/
def isHalfwidthSoundMark (character : Char) : Bool :=
  character == '\uFF9E' || character == '\uFF9F'

/-- Whether a character merges with the one before it when shown. -/
def mergesBackward (character : Char) : Bool :=
  isGraphemeExtend character && !isHalfwidthSoundMark character

/-- Whether a character shows as itself inside a quoted text: it is printable, it is not shown as
nothing, and it does not merge with the character before it. -/
def showsAsItself (character : Char) : Bool :=
  isPrintable character && !isDefaultIgnorable character && !mergesBackward character

/-- One character of a quoted text.  The double quote and the backslash get a backslash, NUL, tab,
line feed and carriage return have letters of their own, and a character that does not show as
itself is written by its code point. -/
def quotedChar (character : Char) : List Char :=
  if character = '\x00' then
    ['\\', '0']
  else if character = '\t' then
    ['\\', 't']
  else if character = '\r' then
    ['\\', 'r']
  else if character = '\n' then
    ['\\', 'n']
  else if character = '"' then
    ['\\', '"']
  else if character = '\\' then
    ['\\', '\\']
  else if showsAsItself character then
    [character]
  else
    ['\\', 'u', '\x7b'] ++ hexDigits character.toNat ++ ['\x7d']

/-- A text between double quotes, with escapes. -/
def quoted (text : String) : String :=
  String.ofList ('"' :: text.toList.flatMap quotedChar ++ ['"'])

end Zoop.Text
