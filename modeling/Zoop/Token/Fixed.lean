import Zoop.Token.Basic

/-!
# Fixed lexemes

The operators, brackets, arrows and keywords of the language.  They are listed longest first, so the
first one that a text starts with is the longest one that it starts with.
-/

namespace Zoop.Token

/-- Every fixed lexeme with its kind, longest first. -/
def fixedLexemes : List (List Char × TokenKind) := [
  ("end elif".toList, .keyword),
  ("end else".toList, .keyword),
  ("end zoop".toList, .keyword),
  ("end loop".toList, .keyword),
  ("end if".toList, .keyword),
  ("string".toList, .keyword),
  ("label".toList, .keyword),
  ("elif".toList, .keyword),
  ("else".toList, .keyword),
  ("zoop".toList, .keyword),
  ("loop".toList, .keyword),
  ("uint".toList, .keyword),
  ("udec".toList, .keyword),
  ("bool".toList, .keyword),
  ("->|".toList, .output),
  ("<-|".toList, .input),
  ("end".toList, .keyword),
  ("int".toList, .keyword),
  ("dec".toList, .keyword),
  ("->".toList, .flowOut),
  ("<-".toList, .flowIn),
  ("=>".toList, .direct),
  ("||".toList, .binaryOperator),
  ("<=".toList, .binaryOperator),
  (">=".toList, .binaryOperator),
  ("~=".toList, .binaryOperator),
  ("if".toList, .keyword),
  ("de".toList, .keyword),
  ("\x7b".toList, .blockOpen),
  ("\x7d".toList, .blockClose),
  ("~".toList, .binaryOperator),
  ("_".toList, .binaryOperator),
  ("+".toList, .binaryOperator),
  ("-".toList, .binaryOperator),
  ("*".toList, .binaryOperator),
  ("/".toList, .binaryOperator),
  ("&".toList, .binaryOperator),
  ("|".toList, .binaryOperator),
  ("<".toList, .binaryOperator),
  (">".toList, .binaryOperator),
  ("=".toList, .binaryOperator)]

/-- The longest fixed lexeme that a text starts with. -/
def fixedLexeme? (text : List Char) : Option (List Char × TokenKind) :=
  fixedLexemes.find? fun entry => entry.1.isPrefixOf text

/-- The keyword of the first data type that a text starts with. -/
def typeWord? (text : List Char) : Option (List Char) :=
  (DataType.keywords.map String.toList).find? fun word => word.isPrefixOf text

/-- The characters that operators are made of.  Right after one of them, `-` and `~` stand between
operands. -/
def operatorChars : List Char :=
  ['~', '-', '_', '+', '*', '/', '&', '|', '<', '>', '=']

/-- No fixed lexeme is empty. -/
theorem fixedLexemes_ne_nil : ∀ entry ∈ fixedLexemes, entry.1 ≠ [] := by
  decide

/-- The list is ordered from long to short. -/
theorem fixedLexemes_longest_first :
    fixedLexemes.Pairwise fun first second => second.1.length ≤ first.1.length := by
  decide

/-- What is found is the longest fixed lexeme that the text starts with. -/
theorem fixedLexeme?_longest
    {text word : List Char} {kind : TokenKind} (found : fixedLexeme? text = some (word, kind)) :
    ∀ entry ∈ fixedLexemes, entry.1 <+: text → entry.1.length ≤ word.length := by
  obtain ⟨-, earlier, later, split, refused⟩ := List.find?_eq_some_iff_append.mp found
  have ordered := fixedLexemes_longest_first
  rw [split, List.pairwise_append, List.pairwise_cons] at ordered
  intro entry listed starts
  rw [split] at listed
  rcases List.mem_append.mp listed with isEarlier | isHere
  · -- those listed before are longer, and the text does not start with them
    have noStart := refused entry isEarlier
    rw [List.isPrefixOf_iff_prefix.mpr starts] at noStart
    cases noStart
  · rcases List.mem_cons.mp isHere with rfl | isLater
    · exact Nat.le_refl _
    · exact ordered.2.1.1 entry isLater

end Zoop.Token
