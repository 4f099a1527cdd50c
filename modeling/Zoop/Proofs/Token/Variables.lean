import Zoop.Proofs.Token.NumberLiterals
import Zoop.Proofs.Token.Splice

/-!
# Words in a source

Identifiers and numbers are recognised as the longest first parts of a text that are in their languages.
A variable is a sigil and the identifier behind it.  The letters and digits that are read behind a sigil
are just what the recogniser of identifiers takes there, so none of them is left behind a variable.
-/

namespace Zoop

namespace Token

/-! ## Variables -/

/-- A token stands in a source as a sigil and all of the identifier behind it. -/
inductive IsVariableOf (source : List Char) (token : Token) : Prop
  | named {passed name behind : List Char} {sigil : Char}
      (stands : source = passed ++ sigil :: (name ++ behind))
      (placed : token.span = ⟨passed.length, name.length + 1⟩)
      (spelled : token.lexeme = String.ofList (sigil :: name))
      (valued : token.value = some (.string (String.ofList name)))
      (isSigil : sigil = '@' ∨ sigil = '$')
      (isIdentifier : Word.IsIdentifierText name)
      (ends : Number.StartsOutside Char.isAlphanum behind)
      (recognized : Word.identifier? (name ++ behind) = some (name, behind))

/-- An identifier that no letter or digit follows is taken as it is. -/
theorem identifier?_of_startsOutside
    {name behind : List Char} (isIdentifier : Word.IsIdentifierText name)
    (ends : Number.StartsOutside Char.isAlphanum behind) :
    Word.identifier? (name ++ behind) = some (name, behind) := by
  have noMore : ∀ character ∈ ([] : List Char), character.isAlphanum = true := nofun
  obtain ⟨taken, left⟩ := Number.takeWhile_append_of_startsOutside noMore ends
  rw [List.nil_append] at taken left
  rw [Word.identifier?_append isIdentifier, taken, left, List.append_nil]

theorem isVariableOf_of_recognize
    {reading : Reading} {character : Char} {passed lexeme rest : List Char} {piece : Recognition}
    (here : reading.offset = passed.length)
    (recognized : recognize reading character (lexeme ++ rest) = .ok (some piece))
    (spelled : piece.lexeme = character :: lexeme) (isVariable : piece.kind = .variable) :
    (reading.token piece).IsVariableOf (passed ++ character :: (lexeme ++ rest)) := by
  rcases (recognized_of_recognize recognized).kind_cases with
    other | ⟨-, isSigil, isNamed⟩ | ⟨other, -⟩ | fixed
  · rw [isVariable] at other
    exact absurd other (by decide)
  · obtain ⟨name, nameIs, isIdentifier, rfl⟩ := recognizeVariable_eq_ok_iff.mp isNamed
    have parts := List.takeWhile_append_dropWhile (p := Char.isAlphanum) (l := lexeme ++ rest)
    obtain ⟨-, rfl⟩ := List.cons.inj spelled
    rw [nameIs] at parts
    have behindIs := List.append_cancel_left parts
    have isIdentifier := Word.isIdentifier_iff.mp isIdentifier
    have ends : Number.StartsOutside Char.isAlphanum rest := by
      rw [← behindIs]
      exact Number.startsOutside_dropWhile _ _
    have placed : (⟨reading.offset, name.length + 1⟩ : Span) = ⟨passed.length, name.length + 1⟩ := by
      rw [here]
    exact .named rfl placed rfl rfl isSigil isIdentifier ends
      (identifier?_of_startsOutside isIdentifier ends)
  · rw [isVariable] at other
    exact absurd other (by decide)
  · have listed := kind_mem_of_recognizeFixed fixed
    rw [isVariable] at listed
    exact absurd listed (by decide)

/-- Wherever reading has come to, each variable that it reads is one of the source. -/
theorem Scans.isVariableOf
    {reading : Reading} {passed text : List Char} {tokens : List Token}
    (scans : Scans reading text tokens) (here : reading.offset = passed.length) :
    ∀ token ∈ tokens, token.kind = .variable → token.IsVariableOf (passed ++ text) := by
  induction scans generalizing passed with
  | done _ => exact nofun
  | @blank reading character rest tokens _ _ inductionHypothesis =>
      have next : (reading.after [character] []).offset = (passed ++ [character]).length := by
        rw [List.length_append, ← here]
        rfl
      have later := inductionHypothesis next
      rwa [List.append_assoc] at later
  | @token reading character lexeme rest piece tokens recognized spelled _ inductionHypothesis =>
      have next :
          (reading.after (character :: lexeme) [reading.token piece]).offset =
            (passed ++ character :: lexeme).length := by
        rw [List.length_append, ← here]
        rfl
      have later := inductionHypothesis next
      rw [List.append_assoc] at later
      exact List.forall_mem_cons.mpr
        ⟨isVariableOf_of_recognize here recognized spelled, later⟩

theorem isVariableOf_of_tokenize
    {source : String} {tokens : List Token} (tokenized : tokenize source = .ok tokens) :
    ∀ token ∈ tokens, token.kind = .variable → token.IsVariableOf source.toList := by
  have atStart : Reading.start.offset = ([] : List Char).length := rfl
  exact (scans_of_tokenize tokenized).isVariableOf atStart

end Token

namespace Word

/-- A text starts with an identifier exactly if it starts with a letter, and with a number exactly if it
starts with a digit.  What is recognised is then the longest first part that is an identifier, or a
number, so a whole text is recognised exactly if it is in the language.  Each variable of a source is a
sigil and an identifier, behind which stands neither a letter nor a digit. -/
theorem words_are_longest_matches :
    (∀ text, (identifier? text).isSome = text.head?.any Char.isAlpha) ∧
    (∀ text taken rest,
      identifier? text = some (taken, rest) ↔ IsLongest IsIdentifierText text taken rest) ∧
    (∀ text, (number? text).isSome = text.head?.any Char.isDigit) ∧
    (∀ text taken rest,
      number? text = some (taken, rest) ↔ IsLongest IsNumberText text taken rest) ∧
    (∀ text, isIdentifier text = true ↔ IsIdentifierText text) ∧
    (∀ text, isNumber text = true ↔ IsNumberText text) ∧
    ∀ source tokens, Token.tokenize source = .ok tokens →
      ∀ token ∈ tokens, token.kind = .variable → token.IsVariableOf source.toList :=
  ⟨isSome_identifier?, fun _ _ _ => takes_identifier?.eq_some_iff, isSome_number?,
    fun _ _ _ => takes_number?.eq_some_iff, fun _ => isIdentifier_iff, fun _ => isNumber_iff,
    fun _ _ tokenized => Token.isVariableOf_of_tokenize tokenized⟩

/-- Two variables, of which the second ends before an operator and a number. -/
def namingSource : String :=
  "@x1 <- $yz_3"

def namingTokens : List Token := [
  ⟨.variable, "@x1", ⟨1, 0⟩, ⟨0, 3⟩, some (.string "x1")⟩,
  ⟨.flowIn, "<-", ⟨1, 4⟩, ⟨4, 2⟩, none⟩,
  ⟨.variable, "$yz", ⟨1, 7⟩, ⟨7, 3⟩, some (.string "yz")⟩,
  ⟨.binaryOperator, "_", ⟨1, 10⟩, ⟨10, 1⟩, none⟩,
  ⟨.literal, "3", ⟨1, 11⟩, ⟨11, 1⟩, some (.number (.ofBits 0x4008000000000000))⟩]

theorem words_of_namingSource :
    Token.tokenize namingSource = .ok namingTokens ∧
    IsLongest IsIdentifierText "yz_3".toList "yz".toList "_3".toList ∧
    IsLongest IsNumberText "12.5.7u".toList "12.5".toList ".7u".toList ∧
    ∃ token ∈ namingTokens, token.lexeme = "$yz" ∧ token.IsVariableOf namingSource.toList := by
  have tokenized : Token.tokenize namingSource = .ok namingTokens :=
    Token.tokenize_eq_ok (by decide +kernel)
  obtain ⟨-, identifiers, -, numbers, -, -, named⟩ := words_are_longest_matches
  have member : namingTokens[2] ∈ namingTokens := List.getElem_mem _
  exact ⟨tokenized, (identifiers _ _ _).mp (by decide +kernel), (numbers _ _ _).mp (by decide +kernel),
    namingTokens[2], member, rfl, named _ _ tokenized namingTokens[2] member rfl⟩

end Word

end Zoop
