import Zoop.Proofs.Token.Pieces

/-!
# Tokens tile their source

The spans of the tokens of a source lie one after the other in it, each lexeme is what the source has
at its span, and what lies between the spans is blank.  Lines and columns agree with offsets: both say
how much of the source has been passed.
-/

namespace Zoop

/-! ## Positions and offsets -/

/-- After a text the line counts its line feeds, and the column the characters since the last one. -/
theorem Position.afterAll_start (text : List Char) :
    Position.start.afterAll text =
      ⟨1 + text.count '\n', (text.reverse.takeWhile (· ≠ '\n')).length⟩ := by
  -- the last character comes first in the induction
  have fromEnd : ∀ back : List Char,
      Position.start.afterAll back.reverse =
        ⟨1 + back.count '\n', (back.takeWhile (· ≠ '\n')).length⟩ := by
    intro back
    induction back with
    | nil => rfl
    | cons character back inductionHypothesis =>
        rw [List.reverse_cons, Position.afterAll_append, inductionHypothesis]
        by_cases lineFeed : character = '\n'
        · subst lineFeed
          simp [Position.after, Nat.add_assoc]
        · simp [Position.after, lineFeed]
  have whole := fromEnd text.reverse
  rwa [List.reverse_reverse, List.count_reverse] at whole

namespace Span

/-- The characters of a text that a span covers. -/
def slice (span : Span) (text : List Char) : List Char :=
  (text.drop span.offset).take span.length

/-- A character of the text is in the span. -/
def Covers (span : Span) (index : Nat) : Prop :=
  span.offset ≤ index ∧ index < span.stop

theorem slice_of_append (passed lexeme rest : List Char) :
    (Span.mk passed.length lexeme.length).slice (passed ++ (lexeme ++ rest)) = lexeme := by
  simp [slice]

end Span

namespace Token

/-! ## Sources and lexemes -/

/-- A text is made of the lexemes of tokens in order, with blanks before, between and after them. -/
inductive Rebuilds : List Token → List Char → Prop
  | done {blanks : List Char} (blank : ∀ character ∈ blanks, isBlank character = true) :
      Rebuilds [] blanks
  | token {token : Token} {tokens : List Token} {blanks rest : List Char}
      (blank : ∀ character ∈ blanks, isBlank character = true)
      (later : Rebuilds tokens rest) :
      Rebuilds (token :: tokens) (blanks ++ (token.lexeme.toList ++ rest))

theorem Rebuilds.blank
    {tokens : List Token} {rest : List Char} {character : Char}
    (isBlank : Token.isBlank character = true) (rebuilds : Rebuilds tokens rest) :
    Rebuilds tokens (character :: rest) := by
  cases rebuilds with
  | done blank => exact .done (List.forall_mem_cons.mpr ⟨isBlank, blank⟩)
  | @token _ _ blanks _ blank later =>
      rw [← List.cons_append]
      exact .token (List.forall_mem_cons.mpr ⟨isBlank, blank⟩) later

/-- Tokens tile a source from an offset on. -/
structure TilesFrom (source : List Char) (offset : Nat) (tokens : List Token) : Prop where
  starts : ∀ token ∈ tokens, offset ≤ token.span.offset
  nonempty : ∀ token ∈ tokens, 0 < token.span.length
  ordered : tokens.Pairwise fun first second => first.span.stop ≤ second.span.offset
  lexemes : ∀ token ∈ tokens,
    token.span.stop ≤ source.length ∧ token.span.slice source = token.lexeme.toList
  blanks : ∀ index character, offset ≤ index → source[index]? = some character →
    (∀ token ∈ tokens, ¬ token.span.Covers index) → isBlank character = true
  positions : ∀ token ∈ tokens,
    token.position = Position.start.afterAll (source.take token.span.offset)
  rebuilds : Rebuilds tokens (source.drop offset)

namespace TilesFrom

theorem done (source : List Char) : TilesFrom source source.length [] where
  starts := nofun
  nonempty := nofun
  ordered := .nil
  lexemes := nofun
  blanks index character beyond there := by
    have inside := (List.getElem?_eq_some_iff.mp there).1
    omega
  positions := nofun
  rebuilds := by
    rw [List.drop_length]
    exact .done nofun

theorem blank
    {passed rest : List Char} {character : Char} {tokens : List Token}
    (isBlank : Token.isBlank character = true)
    (later :
      TilesFrom (passed ++ ([character] ++ rest)) (passed ++ [character]).length tokens) :
    TilesFrom (passed ++ ([character] ++ rest)) passed.length tokens := by
  have next : (passed ++ [character]).length = passed.length + 1 := by simp
  refine ⟨?_, later.nonempty, later.ordered, later.lexemes, ?_, later.positions, ?_⟩
  · intro token member
    have beyond := later.starts token member
    omega
  · intro index found fromHere there uncovered
    by_cases here : index = passed.length
    · have same : character = found := by simpa [here] using there
      rw [← same]
      exact isBlank
    · exact later.blanks index found (by omega) there uncovered
  · have rebuilds := later.rebuilds
    rw [← List.append_assoc, List.drop_left] at rebuilds
    rw [List.drop_left]
    exact rebuilds.blank isBlank

theorem token
    {passed lexeme rest : List Char} {token : Token} {tokens : List Token}
    (nonempty : 0 < lexeme.length)
    (spelled : token.lexeme.toList = lexeme)
    (placed : token.span = ⟨passed.length, lexeme.length⟩)
    (positioned : token.position = Position.start.afterAll passed)
    (later :
      TilesFrom (passed ++ (lexeme ++ rest)) (passed ++ lexeme).length tokens) :
    TilesFrom (passed ++ (lexeme ++ rest)) passed.length (token :: tokens) := by
  have stop : token.span.stop = (passed ++ lexeme).length := by
    rw [placed, List.length_append]
    rfl
  have offset : token.span.offset = passed.length := by rw [placed]
  refine ⟨?_, ?_, ?_, ?_, ?_, ?_, ?_⟩
  · refine List.forall_mem_cons.mpr ⟨Nat.le_of_eq offset.symm, ?_⟩
    intro other member
    have beyond := later.starts other member
    rw [List.length_append] at beyond
    omega
  · refine List.forall_mem_cons.mpr ⟨?_, later.nonempty⟩
    rw [placed]
    exact nonempty
  · refine List.Pairwise.cons ?_ later.ordered
    intro other member
    rw [stop]
    exact later.starts other member
  · refine List.forall_mem_cons.mpr ⟨⟨?_, ?_⟩, later.lexemes⟩
    · rw [stop]
      simp only [List.length_append]
      omega
    · rw [placed, Span.slice_of_append, spelled]
  · intro index character fromHere there uncovered
    have outside := uncovered token List.mem_cons_self
    have beyond : (passed ++ lexeme).length ≤ index := by
      by_cases before : index < (passed ++ lexeme).length
      · refine absurd ⟨?_, ?_⟩ outside
        · rw [offset]
          exact fromHere
        · rw [stop]
          exact before
      · omega
    exact later.blanks index character beyond there fun other member =>
      uncovered other (List.mem_cons_of_mem token member)
  · refine List.forall_mem_cons.mpr ⟨?_, later.positions⟩
    rw [positioned, offset, List.take_left]
  · have rebuilds := later.rebuilds
    rw [← List.append_assoc, List.drop_left] at rebuilds
    rw [List.drop_left, ← spelled]
    have noBlank : ∀ character ∈ ([] : List Char), isBlank character = true := nofun
    exact .token noBlank rebuilds

end TilesFrom

/-- Tokens that are read from the rest of a source tile it from there on. -/
theorem Reads.tilesFrom
    {reading : Reading} {text : List Char} {tokens : List Token}
    (reads : Reads reading text tokens) :
    ∀ passed : List Char,
      reading.offset = passed.length → reading.position = Position.start.afterAll passed →
      TilesFrom (passed ++ text) passed.length tokens := by
  induction reads with
  | done reading =>
      intro passed _ _
      rw [List.append_nil]
      exact .done passed
  | @blank reading character rest tokens isBlank _ inductionHypothesis =>
      intro passed offset position
      have passedOffset : (reading.pass character).offset = (passed ++ [character]).length := by
        rw [List.length_append, ← offset]
        rfl
      have passedPosition :
          (reading.pass character).position = Position.start.afterAll (passed ++ [character]) := by
        rw [Position.afterAll_append, ← position]
        rfl
      have later := inductionHypothesis (passed ++ [character]) passedOffset passedPosition
      rw [List.append_assoc] at later
      exact .blank isBlank later
  | @token reading character rest piece tokens recognized _ inductionHypothesis =>
      intro passed offset position
      have within := recognized.within
      have split := within.lexeme_append_drop
      have later :=
        inductionHypothesis (passed ++ piece.lexeme)
          (by
            rw [Reading.offset_passAll, List.length_append, ← offset]
            rfl)
          (by
            rw [Reading.position_passAll, Position.afterAll_append, ← position]
            rfl)
      rw [List.append_assoc] at later
      have spelled : (reading.token piece).lexeme.toList = piece.lexeme := String.toList_ofList
      have placed : (reading.token piece).span = ⟨passed.length, piece.lexeme.length⟩ := by
        rw [← offset]
        rfl
      have tiles := TilesFrom.token within.positive spelled placed position later
      rwa [split] at tiles

theorem tilesFrom_of_tokenize
    {source : String} {tokens : List Token} (tokenized : tokenize source = .ok tokens) :
    TilesFrom source.toList 0 tokens :=
  (reads_of_tokenize tokenized).tilesFrom [] rfl rfl

/-! ## Whole sources -/

/-- Tokens tile a source. -/
structure Tiles (source : List Char) (tokens : List Token) : Prop where
  nonempty : ∀ token ∈ tokens, 0 < token.span.length
  ordered : tokens.Pairwise fun first second => first.span.stop ≤ second.span.offset
  /-- Each span lies in the source and cuts out the lexeme. -/
  lexemes : ∀ token ∈ tokens,
    token.span.stop ≤ source.length ∧ token.span.slice source = token.lexeme.toList
  /-- All that no span covers is blank. -/
  blanks : ∀ index character, source[index]? = some character →
    (∀ token ∈ tokens, ¬ token.span.Covers index) →
    character = ' ' ∨ character = '\t' ∨ character = '\r'
  /-- The line counts the line feeds before a token, the column the characters since the last one. -/
  positions : ∀ token ∈ tokens,
    token.position =
      ⟨1 + (source.take token.span.offset).count '\n',
        ((source.take token.span.offset).reverse.takeWhile (· ≠ '\n')).length⟩
  rebuilds : Rebuilds tokens source

theorem tokens_tile_source
    {source : String} {tokens : List Token} (tokenized : tokenize source = .ok tokens) :
    Tiles source.toList tokens := by
  have tiles := (reads_of_tokenize tokenized).tilesFrom [] rfl rfl
  refine ⟨tiles.nonempty, tiles.ordered, tiles.lexemes, ?_, ?_, tiles.rebuilds⟩
  · intro index character there uncovered
    have blank := tiles.blanks index character (Nat.zero_le _) there uncovered
    simpa [isBlank, or_assoc] using blank
  · intro token member
    rw [← Position.afterAll_start]
    exact tiles.positions token member

/-- A source with a text and a comment over two lines each, and blanks of all three kinds. -/
def tiledSource : String :=
  "\"é\nß\"\t_ 1.5u --* x\n*--\r\n@b ->|"

def tiledTokens : List Token := [
  ⟨.literal, "\"é\nß\"", ⟨1, 0⟩, ⟨0, 5⟩, some (.string "é\nß")⟩,
  ⟨.binaryOperator, "_", ⟨2, 3⟩, ⟨6, 1⟩, none⟩,
  ⟨.literal, "1.5u", ⟨2, 5⟩, ⟨8, 4⟩, some (.number (.ofBits 0x3FF8000000000000))⟩,
  ⟨.blockComment, "--* x\n*--", ⟨2, 10⟩, ⟨13, 9⟩, some (.string " x\n")⟩,
  ⟨.newLine, "\n", ⟨3, 4⟩, ⟨23, 1⟩, none⟩,
  ⟨.variable, "@b", ⟨4, 0⟩, ⟨24, 2⟩, some (.string "b")⟩,
  ⟨.output, "->|", ⟨4, 3⟩, ⟨27, 3⟩, none⟩]

theorem tiledTokens_tile :
    tokenize tiledSource = .ok tiledTokens ∧ Tiles tiledSource.toList tiledTokens := by
  have tokenized : tokenize tiledSource = .ok tiledTokens :=
    tokenize_eq_ok (by decide +kernel)
  exact ⟨tokenized, tokens_tile_source tokenized⟩

end Token

end Zoop
