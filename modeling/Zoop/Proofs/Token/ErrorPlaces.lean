import Zoop.Proofs.Token.Tiling
import Zoop.Proofs.Text.PointsInto

/-!
# Where reading a source fails

A piece that cannot be recognised is refused where it starts; only a variable is refused behind its
sigil.  Both places are in the source, and so are the places of all tokens.
-/

namespace Zoop.Token

/-! ## Recognisers -/

theorem position_of_recognizeVariable
    {position : Position} {sigil : Char} {text : List Char} {error : SyntaxError}
    (refused : recognizeVariable position sigil text = .error error) :
    error.position = position.right := by
  unfold recognizeVariable at refused
  dsimp only at refused
  split at refused
  · cases refused
  · cases refused
    rfl

theorem position_of_recognizeType
    {position : Position} {text : List Char} {error : SyntaxError}
    (refused : recognizeType position text = .error error) : error.position = position := by
  unfold recognizeType at refused
  split at refused
  · cases refused
  · split at refused <;>
    · cases refused
      rfl

theorem position_of_recognizeQuoted
    {position : Position} {quote : Char} {text : List Char} {error : SyntaxError}
    (refused : recognizeQuoted position quote text = .error error) : error.position = position := by
  unfold recognizeQuoted at refused
  split at refused
  · cases refused
    rfl
  · cases refused

theorem position_of_recognizeNumber
    {position : Position} {text : List Char} {error : SyntaxError}
    (refused : recognizeNumber position text = .error error) : error.position = position := by
  unfold recognizeNumber at refused
  dsimp only at refused
  split at refused
  · cases refused
  · cases refused
    rfl

theorem position_of_recognizeBlockComment
    {position : Position} {text : List Char} {error : SyntaxError}
    (refused : recognizeBlockComment position text = .error error) :
    error.position = position := by
  unfold recognizeBlockComment at refused
  split at refused
  · cases refused
  · cases refused
    rfl

theorem position_of_recognizeFixed
    {before : List Token} {previous : Option Char} {position : Position} {text : List Char}
    {error : SyntaxError} (refused : recognizeFixed before previous position text = .error error) :
    error.position = position := by
  unfold recognizeFixed at refused
  split at refused
  · cases refused
    rfl
  · split at refused
    · cases refused
      rfl
    · split at refused <;> cases refused

theorem eq_error_of_map
    {result : Except SyntaxError Recognition} {error : SyntaxError}
    (mapped : result.map some = .error error) : result = .error error := by
  cases result with
  | error cause =>
      cases mapped
      rfl
  | ok piece => cases mapped

/-- A piece is refused where it starts or, if it starts with a sigil, right behind that. -/
theorem position_of_recognize
    {reading : Reading} {character : Char} {rest : List Char} {error : SyntaxError}
    (refused : recognize reading character rest = .error error) :
    error.position = reading.position ∨ error.position = reading.position.after character := by
  have tried := tried_recognize reading character rest
  generalize recognize reading character rest = result at tried refused
  cases tried with
  | type => exact .inl (position_of_recognizeType (eq_error_of_map refused))
  | detached =>
      cases refused
      exact .inl rfl
  | blank | newLine | colon | parenOpen | parenClose | truth | comment => cases refused
  | named isSigil =>
      have notLineFeed : character ≠ '\n' := by
        rintro rfl
        exact absurd isSigil (by decide)
      right
      rw [position_of_recognizeVariable (eq_error_of_map refused), Position.after,
        if_neg notLineFeed]
      rfl
  | quoted => exact .inl (position_of_recognizeQuoted (eq_error_of_map refused))
  | number => exact .inl (position_of_recognizeNumber (eq_error_of_map refused))
  | blockComment => exact .inl (position_of_recognizeBlockComment (eq_error_of_map refused))
  | fixed => exact .inl (position_of_recognizeFixed (eq_error_of_map refused))

/-! ## Whole sources -/

/-- Wherever reading has come to, it fails at a place of the source. -/
theorem isIn_of_scan
    {reading : Reading} {pending : Nat} {passed text : List Char} {error : SyntaxError}
    (here : reading.position = Position.start.afterAll passed)
    (refused : scan reading pending text = .error error) :
    error.position.IsIn (passed ++ text) := by
  induction text generalizing reading pending passed with
  | nil =>
      rw [scan] at refused
      split at refused
      · cases refused
        exact ⟨passed, [], rfl, here⟩
      · cases refused
  | cons character rest inductionHypothesis =>
      have behind :
          reading.position.after character = Position.start.afterAll (passed ++ [character]) := by
        rw [Position.afterAll_append, here]
        rfl
      have split : passed ++ character :: rest = passed ++ [character] ++ rest := by simp
      cases pending with
      | succ pending =>
          rw [scan] at refused
          rw [split]
          exact inductionHypothesis behind refused
      | zero =>
          rw [scan] at refused
          cases found : recognize reading character rest with
          | error cause =>
              rw [found] at refused
              cases refused
              rcases position_of_recognize found with atPiece | behindSigil
              · exact ⟨passed, character :: rest, rfl, atPiece.trans here⟩
              · exact ⟨passed ++ [character], rest, split, behindSigil.trans behind⟩
          | ok recognition =>
              rw [found] at refused
              rw [split]
              cases recognition with
              | none => exact inductionHypothesis behind refused
              | some piece => exact inductionHypothesis behind refused

theorem isIn_of_tokenize
    {source : String} {error : SyntaxError} (refused : tokenize source = .error error) :
    error.position.IsIn source.toList := by
  have atStart : Reading.start.position = Position.start.afterAll [] := rfl
  exact isIn_of_scan atStart refused

theorem isIn_of_mem
    {source : String} {tokens : List Token} (tokenized : tokenize source = .ok tokens)
    {token : Token} (member : token ∈ tokens) : token.position.IsIn source.toList :=
  ⟨source.toList.take token.span.offset, source.toList.drop token.span.offset,
    (List.take_append_drop _ _).symm, (tilesFrom_of_tokenize tokenized).positions token member⟩

end Zoop.Token
