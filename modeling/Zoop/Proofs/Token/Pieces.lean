import Zoop.Token.Lexer

/-!
# The pieces of a source

Where a token starts, a piece is recognised whose text is not empty and is the next part of the source.
A source is therefore read as a sequence of blanks and pieces, and reading goes on right after each of
them.
-/

namespace Zoop.Token

/-! ## What the recognisers give -/

section Recognizers

variable {position : Position} {text : List Char} {piece : Recognition}

theorem recognizeVariable_eq_ok_iff {sigil : Char} :
    recognizeVariable position sigil text = .ok piece ↔
      ∃ name, text.takeWhile Char.isAlphanum = name ∧ Word.isIdentifier name = true ∧
        ⟨.variable, sigil :: name, some (.string (String.ofList name))⟩ = piece := by
  unfold recognizeVariable
  dsimp only
  split
  · next isIdentifier => simp [isIdentifier]
  · next noIdentifier => simp [noIdentifier]

theorem recognizeType_eq_ok_iff :
    recognizeType position text = .ok piece ↔
      ∃ word, typeWord? text = some word ∧ .ofWord .keyword word = piece := by
  unfold recognizeType
  split
  · next word found => simp [found]
  · next noWord =>
      rw [noWord]
      split <;> simp

theorem recognizeQuoted_eq_ok_iff {quote : Char} :
    recognizeQuoted position quote text = .ok piece ↔
      text.dropWhile (· ≠ quote) ≠ [] ∧
        ∃ inner, text.takeWhile (· ≠ quote) = inner ∧
          ⟨.literal, (quote :: text).take (inner.length + 2),
            some (.string (String.ofList inner))⟩ = piece := by
  unfold recognizeQuoted
  split
  · next unclosed => exact iff_of_false nofun fun found => found.1 (List.isEmpty_iff.mp unclosed)
  · next unlessEmpty =>
      have closed : text.dropWhile (· ≠ quote) ≠ [] :=
        fun empty => unlessEmpty (List.isEmpty_iff.mpr empty)
      constructor
      · rintro ⟨⟩
        exact ⟨closed, _, rfl, rfl⟩
      · rintro ⟨-, _, rfl, rfl⟩
        rfl

theorem recognizeNumber_eq_ok_iff :
    recognizeNumber position text = .ok piece ↔
      ∃ run,
        text.takeWhile (fun character => character.isDigit || character == '.') = run ∧
        Word.isNumber run = true ∧
        ⟨.literal,
          run ++
            if (text.dropWhile fun character => character.isDigit || character == '.').head? ==
                some 'u' then ['u'] else [],
          some (.number (Number.ofDigits run))⟩ = piece := by
  unfold recognizeNumber
  dsimp only
  split
  · next isNumber => simp [isNumber]
  · next noNumber => simp [noNumber]

theorem recognizeBlockComment_eq_ok_iff :
    recognizeBlockComment position text = .ok piece ↔
      ∃ inner, beforeMark? ['*', '-', '-'] (text.drop 3) = some inner ∧
        ⟨.blockComment, text.take (inner.length + 6), some (.string (String.ofList inner))⟩ =
          piece := by
  unfold recognizeBlockComment
  split
  · next inner found => simp [found]
  · next noMark => simp [noMark]

/-- A fixed piece is what the text starts with.  An arrow that stores a value has a target, and only the
kind of `-` and `~` depends on what is around them. -/
theorem recognizeFixed_eq_ok_iff {before : List Token} {previous : Option Char} :
    recognizeFixed before previous position text = .ok piece ↔
      ∃ word kind, fixedLexeme? text = some (word, kind) ∧
        (kind = .flowIn → flowInHasTarget before = true) ∧
        .ofWord
          (if word = ['-'] ∨ word = ['~'] then operatorKind previous (text.drop 1) else kind)
          word = piece := by
  unfold recognizeFixed
  cases fixedLexeme? text with
  | none => exact iff_of_false nofun nofun
  | some entry =>
      obtain ⟨word, kind⟩ := entry
      dsimp only
      have untargetedIff :
          (kind = .flowIn && !flowInHasTarget before) = true ↔
            ¬(kind = .flowIn → flowInHasTarget before = true) := by
        simp
      by_cases targeted : kind = .flowIn → flowInHasTarget before = true
      · rw [if_neg fun untargeted => untargetedIff.mp untargeted targeted, ← apply_ite Except.ok]
        constructor
        · rintro ⟨⟩
          exact ⟨word, kind, rfl, targeted, (apply_ite (Recognition.ofWord · word) _ _ _)⟩
        · rintro ⟨_, _, ⟨⟩, -, rfl⟩
          exact congrArg Except.ok (apply_ite (Recognition.ofWord · word) _ _ _).symm
      · rw [if_pos (untargetedIff.mpr targeted)]
        refine iff_of_false nofun ?_
        rintro ⟨_, _, ⟨⟩, hasTarget, -⟩
        exact targeted hasTarget

end Recognizers

/-! ## The texts of pieces -/

/-- A piece has a text, and it is the next part of a text that starts with the piece. -/
structure Recognition.Within (piece : Recognition) (text : List Char) : Prop where
  nonempty : piece.lexeme ≠ []
  starts : piece.lexeme <+: text

namespace Recognition.Within

variable {piece : Recognition} {text : List Char} (within : piece.Within text)

include within

theorem positive : 0 < piece.length :=
  List.length_pos_iff.mpr within.nonempty

theorem fits : piece.length ≤ text.length :=
  within.starts.length_le

theorem lexeme_append_drop : piece.lexeme ++ text.drop piece.length = text :=
  List.prefix_iff_eq_append.mp within.starts

omit within in
theorem split {character : Char} {rest : List Char} (within : piece.Within (character :: rest)) :
    ∃ others behind, piece.lexeme = character :: others ∧ rest = others ++ behind := by
  obtain ⟨behind, isText⟩ := within.starts
  cases lexemeIs : piece.lexeme with
  | nil => exact absurd lexemeIs within.nonempty
  | cons first others =>
      rw [lexemeIs] at isText
      cases isText
      exact ⟨others, behind, rfl, rfl⟩

end Recognition.Within

theorem within_ofWord
    {word text : List Char} (kind : TokenKind) (nonempty : word ≠ [])
    (starts : word.isPrefixOf text = true) : (Recognition.ofWord kind word).Within text :=
  ⟨nonempty, List.isPrefixOf_iff_prefix.mp starts⟩

theorem within_recognizeVariable
    {position : Position} {sigil : Char} {text : List Char} {piece : Recognition}
    (recognized : recognizeVariable position sigil text = .ok piece) :
    piece.Within (sigil :: text) := by
  obtain ⟨name, rfl, -, rfl⟩ := recognizeVariable_eq_ok_iff.mp recognized
  exact ⟨List.cons_ne_nil _ _,
    List.cons_prefix_cons.mpr ⟨rfl, List.takeWhile_prefix Char.isAlphanum⟩⟩

theorem typeWord?_eq_some
    {text word : List Char} (found : typeWord? text = some word) :
    word ≠ [] ∧ word.isPrefixOf text = true := by
  have keywordsNonempty : ∀ keyword ∈ DataType.keywords.map String.toList, keyword ≠ [] := by
    decide
  unfold typeWord? at found
  have starts := List.find?_some found
  exact ⟨keywordsNonempty word (List.mem_of_find?_eq_some found), starts⟩

theorem within_recognizeType
    {position : Position} {text : List Char} {piece : Recognition}
    (recognized : recognizeType position text = .ok piece) : piece.Within text := by
  obtain ⟨word, found, rfl⟩ := recognizeType_eq_ok_iff.mp recognized
  obtain ⟨nonempty, starts⟩ := typeWord?_eq_some found
  exact within_ofWord .keyword nonempty starts

theorem within_recognizeQuoted
    {position : Position} {quote : Char} {text : List Char} {piece : Recognition}
    (recognized : recognizeQuoted position quote text = .ok piece) :
    piece.Within (quote :: text) := by
  obtain ⟨-, inner, -, rfl⟩ := recognizeQuoted_eq_ok_iff.mp recognized
  exact ⟨List.cons_ne_nil _ _, List.take_prefix _ _⟩

/-- The quotes around a text are two of the characters of its piece. -/
theorem length_of_recognizeQuoted
    {quote : Char} {text inner : List Char} (closed : text.dropWhile (· ≠ quote) ≠ [])
    (innerIs : text.takeWhile (· ≠ quote) = inner) :
    ((quote :: text).take (inner.length + 2)).length = inner.length + 2 := by
  have lengths :
      (text.takeWhile (· ≠ quote)).length + (text.dropWhile (· ≠ quote)).length = text.length := by
    rw [← List.length_append, List.takeWhile_append_dropWhile]
  have closing : 0 < (text.dropWhile (· ≠ quote)).length := List.length_pos_iff.mpr closed
  rw [innerIs] at lengths
  rw [List.length_take, List.length_cons]
  omega

theorem ne_nil_of_isNumber {run : List Char} (number : Word.isNumber run = true) : run ≠ [] := by
  rintro rfl
  cases number

theorem within_recognizeNumber
    {position : Position} {text : List Char} {piece : Recognition}
    (recognized : recognizeNumber position text = .ok piece) : piece.Within text := by
  obtain ⟨run, runIs, number, rfl⟩ := recognizeNumber_eq_ok_iff.mp recognized
  generalize (fun character : Char => character.isDigit || character == '.') = belongs at runIs ⊢
  have parts : run ++ text.dropWhile belongs = text := by
    rw [← runIs, List.takeWhile_append_dropWhile]
  have ending :
      (if (text.dropWhile belongs).head? == some 'u' then ['u'] else []) <+:
        text.dropWhile belongs := by
    split
    · next isLetter =>
        obtain ⟨others, behind⟩ := List.head?_eq_some_iff.mp (eq_of_beq isLetter)
        rw [behind]
        exact List.prefix_append ['u'] others
    · exact List.nil_prefix
  have starts := (List.prefix_append_right_inj run).mpr ending
  rw [parts] at starts
  exact ⟨List.append_ne_nil_of_left_ne_nil (ne_nil_of_isNumber number) _, starts⟩

theorem length_beforeMark?
    {mark text inner : List Char} (found : beforeMark? mark text = some inner) :
    inner.length + mark.length ≤ text.length := by
  induction text generalizing inner with
  | nil => cases found
  | cons character rest inductionHypothesis =>
      rw [beforeMark?] at found
      split at found
      · next starts =>
          cases found
          have shorter := (List.isPrefixOf_iff_prefix.mp starts).length_le
          simpa using shorter
      · obtain ⟨earlier, foundLater, equality⟩ := Option.map_eq_some_iff.mp found
        have shorter := inductionHypothesis foundLater
        rw [← equality]
        simp only [List.length_cons]
        omega

/-- The marks around a block comment are six of the characters of its piece. -/
theorem length_of_recognizeBlockComment
    {text inner : List Char} (found : beforeMark? ['*', '-', '-'] (text.drop 3) = some inner) :
    (text.take (inner.length + 6)).length = inner.length + 6 := by
  have shorter := length_beforeMark? found
  simp only [List.length_cons, List.length_nil, List.length_drop] at shorter
  rw [List.length_take]
  omega

theorem within_recognizeBlockComment
    {position : Position} {text : List Char} {piece : Recognition}
    (recognized : recognizeBlockComment position text = .ok piece) : piece.Within text := by
  obtain ⟨inner, found, rfl⟩ := recognizeBlockComment_eq_ok_iff.mp recognized
  refine ⟨?_, List.take_prefix _ _⟩
  rw [← List.length_pos_iff, length_of_recognizeBlockComment found]
  exact Nat.succ_pos _

/-- The mark before a comment is two of the characters of its piece. -/
theorem length_of_recognizeComment
    {text : List Char} (opened : ['-', '-'].isPrefixOf text = true) :
    (recognizeComment text).length = ((text.drop 2).takeWhile (· ≠ '\n')).length + 2 := by
  have openedLength := (List.isPrefixOf_iff_prefix.mp opened).length_le
  have shorter : ((text.drop 2).takeWhile (· ≠ '\n')).length ≤ (text.drop 2).length :=
    (List.takeWhile_prefix _).length_le
  simp only [List.length_cons, List.length_nil, List.length_drop] at openedLength shorter
  simp only [recognizeComment, Recognition.length, List.length_take]
  omega

theorem within_recognizeComment
    {text : List Char} (opened : ['-', '-'].isPrefixOf text = true) :
    (recognizeComment text).Within text := by
  refine ⟨?_, List.take_prefix _ _⟩
  have positive : 0 < (recognizeComment text).length := by
    rw [length_of_recognizeComment opened]
    exact Nat.succ_pos _
  exact List.length_pos_iff.mp positive

theorem fixedLexeme?_eq_some
    {text word : List Char} {kind : TokenKind} (found : fixedLexeme? text = some (word, kind)) :
    (word, kind) ∈ fixedLexemes ∧ word.isPrefixOf text = true := by
  unfold fixedLexeme? at found
  have starts := List.find?_some found
  exact ⟨List.mem_of_find?_eq_some found, starts⟩

theorem within_recognizeFixed
    {before : List Token} {previous : Option Char} {position : Position} {text : List Char}
    {piece : Recognition} (recognized : recognizeFixed before previous position text = .ok piece) :
    piece.Within text := by
  obtain ⟨word, kind, found, -, rfl⟩ := recognizeFixed_eq_ok_iff.mp recognized
  obtain ⟨listed, starts⟩ := fixedLexeme?_eq_some found
  exact within_ofWord _ (fixedLexemes_ne_nil (word, kind) listed) starts

/-! ## Recognising a piece -/

/-- The ways in which a piece is recognised.  Each piece comes from one of the recognisers, and what
that recogniser is tried for is known as far as it matters. -/
inductive Recognized (reading : Reading) (character : Char) (rest : List Char) :
    Recognition → Prop
  | type {piece : Recognition}
      (recognized : recognizeType reading.position (character :: rest) = .ok piece) :
      Recognized reading character rest piece
  | newLine (isLineFeed : character = '\n') :
      Recognized reading character rest (.ofWord .newLine ['\n'])
  | named {piece : Recognition}
      (isSigil : character = '@' ∨ character = '$')
      (recognized : recognizeVariable reading.position character rest = .ok piece) :
      Recognized reading character rest piece
  | colon (isColon : character = ':') : Recognized reading character rest (.ofWord .colon [':'])
  | parenOpen (isOpening : character = '(') :
      Recognized reading character rest (.ofWord .parenOpen ['('])
  | parenClose (isClosing : character = ')') :
      Recognized reading character rest (.ofWord .parenClose [')'])
  | quoted {piece : Recognition}
      (recognized : recognizeQuoted reading.position character rest = .ok piece) :
      Recognized reading character rest piece
  | number {piece : Recognition}
      (recognized : recognizeNumber reading.position (character :: rest) = .ok piece) :
      Recognized reading character rest piece
  | truth {word : List Char} (value : Bool)
      (isTruth : (word, value) ∈ [("true".toList, true), ("false".toList, false)])
      (starts : word.isPrefixOf (character :: rest) = true) :
      Recognized reading character rest ⟨.literal, word, some (.boolean value)⟩
  | blockComment {piece : Recognition}
      (opened : ['-', '-', '*'].isPrefixOf (character :: rest) = true)
      (recognized :
        recognizeBlockComment reading.position (character :: rest) = .ok piece) :
      Recognized reading character rest piece
  | comment (opened : ['-', '-'].isPrefixOf (character :: rest) = true) :
      Recognized reading character rest (recognizeComment (character :: rest))
  | fixed {piece : Recognition}
      (recognized :
        recognizeFixed reading.before reading.previous reading.position (character :: rest) =
          .ok piece) :
      Recognized reading character rest piece

theorem recognized_of_map
    {reading : Reading} {character : Char} {rest : List Char}
    {result : Except SyntaxError Recognition} {found : Option Recognition}
    (mapped : result.map some = .ok found)
    (recognizes : ∀ piece, result = .ok piece → Recognized reading character rest piece) :
    ∃ piece, found = some piece ∧ Recognized reading character rest piece := by
  cases result with
  | error error => cases mapped
  | ok piece =>
      cases mapped
      exact ⟨piece, rfl, recognizes piece rfl⟩

/-- What is tried at a place of a source, and what comes of it. -/
inductive Tried (reading : Reading) (character : Char) (rest : List Char) :
    Except SyntaxError (Option Recognition) → Prop
  | type :
      Tried reading character rest ((recognizeType reading.position (character :: rest)).map some)
  | detached (blank : isBlank character = true) :
      Tried reading character rest (.error ⟨.detachedUnaryOperator "~", reading.position⟩)
  | blank (noColon : reading.afterColon = false)
      (noMark : reading.before.head?.any (·.lexeme == "~") = false)
      (blank : isBlank character = true) : Tried reading character rest (.ok none)
  | newLine (isLineFeed : character = '\n') :
      Tried reading character rest (.ok (some (.ofWord .newLine ['\n'])))
  | named (isSigil : character = '@' ∨ character = '$') :
      Tried reading character rest ((recognizeVariable reading.position character rest).map some)
  | colon (isColon : character = ':') :
      Tried reading character rest (.ok (some (.ofWord .colon [':'])))
  | parenOpen (isOpening : character = '(') :
      Tried reading character rest (.ok (some (.ofWord .parenOpen ['('])))
  | parenClose (isClosing : character = ')') :
      Tried reading character rest (.ok (some (.ofWord .parenClose [')'])))
  | quoted : Tried reading character rest ((recognizeQuoted reading.position character rest).map some)
  | number :
      Tried reading character rest ((recognizeNumber reading.position (character :: rest)).map some)
  | truth {word : List Char} (value : Bool)
      (isTruth : (word, value) ∈ [("true".toList, true), ("false".toList, false)])
      (starts : word.isPrefixOf (character :: rest) = true) :
      Tried reading character rest (.ok (some ⟨.literal, word, some (.boolean value)⟩))
  | blockComment (opened : ['-', '-', '*'].isPrefixOf (character :: rest) = true) :
      Tried reading character rest
        ((recognizeBlockComment reading.position (character :: rest)).map some)
  | comment (opened : ['-', '-'].isPrefixOf (character :: rest) = true) :
      Tried reading character rest (.ok (some (recognizeComment (character :: rest))))
  | fixed :
      Tried reading character rest
        ((recognizeFixed reading.before reading.previous reading.position
          (character :: rest)).map some)

/-- The result at a place is that of the first recogniser whose turn it is. -/
theorem tried_recognize (reading : Reading) (character : Char) (rest : List Char) :
    Tried reading character rest (recognize reading character rest) := by
  unfold recognize
  dsimp only
  by_cases afterColon : reading.afterColon = true
  · rw [if_pos afterColon]
    exact .type
  rw [if_neg afterColon]
  by_cases blank : isBlank character = true
  · rw [if_pos blank]
    by_cases afterMark : reading.before.head?.any (·.lexeme == "~") = true
    · rw [if_pos afterMark]
      exact .detached blank
    · rw [if_neg afterMark]
      exact .blank (Bool.eq_false_iff.mpr afterColon) (Bool.eq_false_iff.mpr afterMark) blank
  rw [if_neg blank]
  by_cases isLineFeed : character = '\n'
  · rw [if_pos isLineFeed]
    exact .newLine isLineFeed
  rw [if_neg isLineFeed]
  by_cases isSigil : character = '@' ∨ character = '$'
  · rw [if_pos isSigil]
    exact .named isSigil
  rw [if_neg isSigil]
  by_cases isColon : character = ':'
  · rw [if_pos isColon]
    exact .colon isColon
  rw [if_neg isColon]
  by_cases isOpening : character = '('
  · rw [if_pos isOpening]
    exact .parenOpen isOpening
  rw [if_neg isOpening]
  by_cases isClosing : character = ')'
  · rw [if_pos isClosing]
    exact .parenClose isClosing
  rw [if_neg isClosing]
  by_cases isQuote : character = '"' ∨ character = '\x60'
  · rw [if_pos isQuote]
    exact .quoted
  rw [if_neg isQuote]
  by_cases isDigit : character.isDigit = true
  · rw [if_pos isDigit]
    exact .number
  rw [if_neg isDigit]
  by_cases startsTrue : ['t', 'r', 'u', 'e'].isPrefixOf (character :: rest) = true
  · rw [if_pos startsTrue]
    exact .truth true (by decide) startsTrue
  rw [if_neg startsTrue]
  by_cases startsFalse : ['f', 'a', 'l', 's', 'e'].isPrefixOf (character :: rest) = true
  · rw [if_pos startsFalse]
    exact .truth false (by decide) startsFalse
  rw [if_neg startsFalse]
  by_cases opensBlock : ['-', '-', '*'].isPrefixOf (character :: rest) = true
  · rw [if_pos opensBlock]
    exact .blockComment opensBlock
  rw [if_neg opensBlock]
  by_cases opensLine : ['-', '-'].isPrefixOf (character :: rest) = true
  · rw [if_pos opensLine]
    exact .comment opensLine
  rw [if_neg opensLine]
  exact .fixed

/-- At each character there is a piece or a blank. -/
theorem recognize_eq_ok
    {reading : Reading} {character : Char} {rest : List Char} {found : Option Recognition}
    (recognized : recognize reading character rest = .ok found) :
    (found = none ∧ isBlank character = true) ∨
      ∃ piece, found = some piece ∧ Recognized reading character rest piece := by
  have tried := tried_recognize reading character rest
  generalize recognize reading character rest = result at tried recognized
  cases tried with
  | type => exact .inr (recognized_of_map recognized fun _ => .type)
  | detached => cases recognized
  | blank _ _ blank => exact .inl ⟨(Except.ok.inj recognized).symm, blank⟩
  | newLine isLineFeed => exact .inr ⟨_, (Except.ok.inj recognized).symm, .newLine isLineFeed⟩
  | named isSigil => exact .inr (recognized_of_map recognized fun _ => .named isSigil)
  | colon isColon => exact .inr ⟨_, (Except.ok.inj recognized).symm, .colon isColon⟩
  | parenOpen isOpening => exact .inr ⟨_, (Except.ok.inj recognized).symm, .parenOpen isOpening⟩
  | parenClose isClosing => exact .inr ⟨_, (Except.ok.inj recognized).symm, .parenClose isClosing⟩
  | quoted => exact .inr (recognized_of_map recognized fun _ => .quoted)
  | number => exact .inr (recognized_of_map recognized fun _ => .number)
  | truth value isTruth starts =>
      exact .inr ⟨_, (Except.ok.inj recognized).symm, .truth value isTruth starts⟩
  | blockComment opened => exact .inr (recognized_of_map recognized fun _ => .blockComment opened)
  | comment opened => exact .inr ⟨_, (Except.ok.inj recognized).symm, .comment opened⟩
  | fixed => exact .inr (recognized_of_map recognized fun _ => .fixed)

theorem recognized_of_recognize
    {reading : Reading} {character : Char} {rest : List Char} {piece : Recognition}
    (recognized : recognize reading character rest = .ok (some piece)) :
    Recognized reading character rest piece := by
  rcases recognize_eq_ok recognized with ⟨none, _⟩ | ⟨found, same, isPiece⟩
  · cases none
  · cases same
    exact isPiece

/-- The text of each piece is the next part of the source. -/
theorem Recognized.within
    {reading : Reading} {character : Char} {rest : List Char} {piece : Recognition}
    (recognized : Recognized reading character rest piece) : piece.Within (character :: rest) := by
  have single
      (kind : TokenKind) {sign : Char} (isSign : character = sign) :
      (Recognition.ofWord kind [sign]).Within (character :: rest) := by
    rw [isSign]
    exact ⟨List.cons_ne_nil _ _, List.prefix_append [sign] rest⟩
  cases recognized with
  | type recognized => exact within_recognizeType recognized
  | newLine isSign | colon isSign | parenOpen isSign | parenClose isSign => exact single _ isSign
  | named _ recognized => exact within_recognizeVariable recognized
  | quoted recognized => exact within_recognizeQuoted recognized
  | number recognized => exact within_recognizeNumber recognized
  | @truth word value isTruth starts =>
      have nonempty :
          ∀ entry ∈ [("true".toList, true), ("false".toList, false)], entry.1 ≠ [] := by
        decide
      exact ⟨nonempty _ isTruth, List.isPrefixOf_iff_prefix.mp starts⟩
  | blockComment _ recognized => exact within_recognizeBlockComment recognized
  | comment opened => exact within_recognizeComment opened
  | fixed recognized => exact within_recognizeFixed recognized

/-! ## Kinds of pieces -/

theorem head?_of_isPrefixOf
    {first : Char} {word text : List Char} (starts : (first :: word).isPrefixOf text = true) :
    text.head? = some first := by
  obtain ⟨rest, rfl⟩ := List.isPrefixOf_iff_prefix.mp starts
  rfl

theorem operatorKind_mem (previous : Option Char) (text : List Char) :
    operatorKind previous text ∈ [TokenKind.binaryOperator, .unaryOperator] := by
  unfold operatorKind
  split <;> decide

/-- A fixed piece has the kind of a lexeme in the list, or it is a prefix operator. -/
theorem kind_mem_of_recognizeFixed
    {before : List Token} {previous : Option Char} {position : Position} {text : List Char}
    {piece : Recognition} (recognized : recognizeFixed before previous position text = .ok piece) :
    piece.kind ∈ TokenKind.unaryOperator :: fixedLexemes.map Prod.snd := by
  obtain ⟨word, kind, found, -, rfl⟩ := recognizeFixed_eq_ok_iff.mp recognized
  have operatorsListed :
      ∀ kind ∈ [TokenKind.binaryOperator, .unaryOperator],
        kind ∈ TokenKind.unaryOperator :: fixedLexemes.map Prod.snd := by
    decide
  dsimp only [Recognition.ofWord]
  split
  · exact operatorsListed _ (operatorKind_mem previous (text.drop 1))
  · exact List.mem_cons_of_mem _ (List.mem_map_of_mem (fixedLexeme?_eq_some found).1)

/-- Which kinds come from which recogniser. -/
theorem Recognized.kind_cases
    {reading : Reading} {character : Char} {rest : List Char} {piece : Recognition}
    (recognized : Recognized reading character rest piece) :
    piece.kind ∈ [TokenKind.keyword, .newLine, .colon, .parenOpen, .parenClose, .literal] ∨
      (piece.kind = .variable ∧ (character = '@' ∨ character = '$') ∧
        recognizeVariable reading.position character rest = .ok piece) ∨
      (piece.kind ∈ [TokenKind.comment, .blockComment] ∧ character = '-') ∨
      recognizeFixed reading.before reading.previous reading.position (character :: rest) =
        .ok piece := by
  cases recognized with
  | type recognized =>
      obtain ⟨word, -, rfl⟩ := recognizeType_eq_ok_iff.mp recognized
      exact .inl (by simp [Recognition.ofWord])
  | newLine | colon | parenOpen | parenClose | truth => exact .inl (by simp [Recognition.ofWord])
  | named isSigil recognized =>
      obtain ⟨name, -, -, rfl⟩ := recognizeVariable_eq_ok_iff.mp recognized
      exact .inr (.inl ⟨rfl, isSigil, recognized⟩)
  | quoted recognized =>
      obtain ⟨-, inner, -, rfl⟩ := recognizeQuoted_eq_ok_iff.mp recognized
      exact .inl (by simp)
  | number recognized =>
      obtain ⟨run, -, -, rfl⟩ := recognizeNumber_eq_ok_iff.mp recognized
      exact .inl (by simp)
  | blockComment opened recognized =>
      obtain ⟨inner, -, rfl⟩ := recognizeBlockComment_eq_ok_iff.mp recognized
      have isDash : character = '-' := Option.some.inj (head?_of_isPrefixOf opened)
      exact .inr (.inr (.inl ⟨by simp, isDash⟩))
  | comment opened =>
      have isDash : character = '-' := Option.some.inj (head?_of_isPrefixOf opened)
      exact .inr (.inr (.inl ⟨by simp [recognizeComment], isDash⟩))
  | fixed recognized => exact .inr (.inr (.inr recognized))

/-! ## Reading on -/

namespace Reading

/-- Pass over a text. -/
def passAll (reading : Reading) (text : List Char) : Reading :=
  text.foldl pass reading

@[simp]
theorem before_emit (reading : Reading) (piece : Recognition) :
    (reading.emit piece).before = reading.token piece :: reading.before :=
  rfl

theorem before_passAll (reading : Reading) (text : List Char) :
    (reading.passAll text).before = reading.before := by
  induction text generalizing reading with
  | nil => rfl
  | cons character rest inductionHypothesis => exact inductionHypothesis (reading.pass character)

theorem position_passAll (reading : Reading) (text : List Char) :
    (reading.passAll text).position = reading.position.afterAll text := by
  induction text generalizing reading with
  | nil => rfl
  | cons character rest inductionHypothesis => exact inductionHypothesis (reading.pass character)

theorem offset_passAll (reading : Reading) (text : List Char) :
    (reading.passAll text).offset = reading.offset + text.length := by
  induction text generalizing reading with
  | nil => rfl
  | cons character rest inductionHypothesis =>
      have later := inductionHypothesis (reading.pass character)
      simp only [passAll, List.foldl_cons, List.length_cons] at later ⊢
      rw [later]
      simp only [pass]
      omega

end Reading

/-- Characters that belong to the last token are passed over. -/
theorem scan_pending (reading : Reading) (lexeme rest : List Char) :
    scan reading lexeme.length (lexeme ++ rest) = scan (reading.passAll lexeme) 0 rest := by
  induction lexeme generalizing reading with
  | nil => rfl
  | cons character lexeme inductionHypothesis =>
      rw [List.length_cons, List.cons_append, scan]
      exact inductionHypothesis (reading.pass character)

/-- After a token reading goes on behind its lexeme, which has been passed over. -/
theorem scan_emit
    (reading : Reading) {piece : Recognition} {character : Char} {rest : List Char}
    (within : piece.Within (character :: rest)) :
    scan ((reading.emit piece).pass character) (piece.length - 1) rest =
      scan ((reading.emit piece).passAll piece.lexeme) 0 ((character :: rest).drop piece.length) := by
  obtain ⟨others, behind, lexemeIs, rfl⟩ := within.split
  rw [Recognition.length, lexemeIs, List.length_cons, Nat.add_sub_cancel, List.drop_succ_cons,
    List.drop_left]
  exact scan_pending ((reading.emit piece).pass character) others behind

/-- The tokens that are read from a text, with the blanks between them. -/
inductive Reads : Reading → List Char → List Token → Prop
  | done (reading : Reading) : Reads reading [] []
  | blank {reading : Reading} {character : Char} {rest : List Char} {tokens : List Token}
      (isBlank : isBlank character = true)
      (later : Reads (reading.pass character) rest tokens) :
      Reads reading (character :: rest) tokens
  | token {reading : Reading} {character : Char} {rest : List Char} {piece : Recognition}
      {tokens : List Token}
      (recognized : Recognized reading character rest piece)
      (later :
        Reads ((reading.emit piece).passAll piece.lexeme) ((character :: rest).drop piece.length)
          tokens) :
      Reads reading (character :: rest) (reading.token piece :: tokens)

/-- Reading a text adds the tokens of its pieces to those from before. -/
theorem reads_of_scan {reading : Reading} {text : List Char} {tokens : List Token}
    (scanned : scan reading 0 text = .ok tokens) :
    ∃ later, tokens = reading.before.reverse ++ later ∧ Reads reading text later := by
  -- a piece may be of any length, so the induction is on the length of the text
  induction lengthIs : text.length using Nat.strongRecOn generalizing reading text with
  | ind length inductionHypothesis =>
      cases text with
      | nil =>
          rw [scan] at scanned
          split at scanned
          · cases scanned
          · cases scanned
            exact ⟨[], (List.append_nil _).symm, .done reading⟩
      | cons character rest =>
          rw [scan] at scanned
          cases found : recognize reading character rest with
          | error error =>
              rw [found] at scanned
              cases scanned
          | ok recognition =>
              rw [found] at scanned
              rcases recognize_eq_ok found with ⟨rfl, blank⟩ | ⟨piece, rfl, recognized⟩
              · have shorter : rest.length < length := by
                  rw [← lengthIs]
                  exact Nat.lt_succ_self _
                obtain ⟨later, split, reads⟩ := inductionHypothesis _ shorter scanned rfl
                exact ⟨later, split, .blank blank reads⟩
              · have within := recognized.within
                have shorter : ((character :: rest).drop piece.length).length < length := by
                  rw [List.length_drop, ← lengthIs]
                  have positive := within.positive
                  have fits := within.fits
                  omega
                dsimp only at scanned
                rw [scan_emit reading within] at scanned
                obtain ⟨later, split, reads⟩ := inductionHypothesis _ shorter scanned rfl
                refine ⟨reading.token piece :: later, ?_, .token recognized reads⟩
                rw [split, Reading.before_passAll, Reading.before_emit, List.reverse_cons,
                  List.append_assoc]
                rfl

/-- Tokens can be compared, and so can the results that are left without their errors. -/
theorem tokenize_eq_ok
    {source : String} {tokens : List Token} (found : (tokenize source).toOption = some tokens) :
    tokenize source = .ok tokens := by
  cases tokenized : tokenize source with
  | error error =>
      rw [tokenized] at found
      cases found
  | ok given =>
      rw [tokenized] at found
      cases found
      rfl

theorem reads_of_tokenize
    {source : String} {tokens : List Token} (tokenized : tokenize source = .ok tokens) :
    Reads .start source.toList tokens := by
  obtain ⟨later, split, reads⟩ := reads_of_scan tokenized
  have same : tokens = later := split
  rw [same]
  exact reads

end Zoop.Token
