import Zoop.Grammar.Expression
import Zoop.Proofs.Token.Joined

/-!
# What is read behind a prefix operator

The kind of `-` and `~` is settled by the characters around them: no space may follow a prefix operator.
Behind `~` no other blank is let through either, but a comment is; behind `-` a tab or a carriage return
is let through, while a comment cannot start there.  What follows in any other way touches the operator.
-/

namespace Zoop.Token

/-! ## Kinds of pieces -/

theorem eq_ok_of_map
    {result : Except SyntaxError Recognition} {piece : Recognition}
    (mapped : result.map some = .ok (some piece)) : result = .ok piece := by
  cases result with
  | error error => cases mapped
  | ok found =>
      cases mapped
      rfl

/-- A fixed piece is one of the lexemes in the list, and only the kind of `-` and `~` depends on what is
around them. -/
theorem recognizeFixed_eq_ok
    {before : List Token} {previous : Option Char} {position : Position} {text : List Char}
    {piece : Recognition} (recognized : recognizeFixed before previous position text = .ok piece) :
    ∃ word kind, (word, kind) ∈ fixedLexemes ∧ word.isPrefixOf text = true ∧
      ((word = ['-'] ∨ word = ['~']) ∧
          piece = .ofWord (operatorKind previous (text.drop 1)) word ∨
        piece = .ofWord kind word) := by
  obtain ⟨word, kind, found, -, rfl⟩ := recognizeFixed_eq_ok_iff.mp recognized
  obtain ⟨listed, starts⟩ := fixedLexeme?_eq_some found
  refine ⟨word, kind, listed, starts, ?_⟩
  by_cases isMark : word = ['-'] ∨ word = ['~']
  · rw [if_pos isMark]
    exact .inl ⟨isMark, rfl⟩
  · rw [if_neg isMark]
    exact .inr rfl

/-- A prefix operator is followed by no space and does not follow another operator. -/
theorem operatorKind_eq_unaryOperator
    {previous : Option Char} {text : List Char}
    (isPrefix : operatorKind previous text = .unaryOperator) :
    text.head? ≠ some ' ' ∧ previous.any operatorChars.contains = false := by
  unfold operatorKind at isPrefix
  split at isPrefix
  · cases isPrefix
  · next touches => simpa using touches

section Recognize

variable {reading : Reading} {character : Char} {rest : List Char} {piece : Recognition}

/-- A prefix operator is one character, between which and its operand there is no space.  It does not
follow another operator. -/
theorem prefix_of_recognize
    (recognized : recognize reading character rest = .ok (some piece))
    (isPrefix : piece.kind = .unaryOperator) :
    (character = '-' ∨ character = '~') ∧ piece.lexeme = [character] ∧ rest.head? ≠ some ' ' ∧
      reading.previous.any operatorChars.contains = false := by
  have noPrefix : ∀ entry ∈ fixedLexemes, entry.2 ≠ .unaryOperator := by decide
  rcases (recognized_of_recognize recognized).kind_cases with
    other | ⟨other, -⟩ | ⟨other, -⟩ | fixed
  · rw [isPrefix] at other
    exact absurd other (by decide)
  · rw [isPrefix] at other
    cases other
  · rw [isPrefix] at other
    exact absurd other (by decide)
  · obtain ⟨word, kind, listed, starts, ⟨isMark, rfl⟩ | rfl⟩ := recognizeFixed_eq_ok fixed
    · obtain ⟨noSpace, noOperator⟩ := operatorKind_eq_unaryOperator isPrefix
      rcases isMark with rfl | rfl
      · have isMinus : character = '-' := Option.some.inj (head?_of_isPrefixOf starts)
        exact ⟨.inl isMinus, by rw [isMinus]; rfl, noSpace, noOperator⟩
      · have isTilde : character = '~' := Option.some.inj (head?_of_isPrefixOf starts)
        exact ⟨.inr isTilde, by rw [isTilde]; rfl, noSpace, noOperator⟩
    · exact absurd isPrefix (noPrefix _ listed)

/-- Behind a colon only the keyword of a data type is recognised. -/
theorem kind_of_afterColon
    (recognized : recognize reading character rest = .ok (some piece))
    (afterColon : reading.afterColon = true) : piece.kind = .keyword := by
  unfold recognize at recognized
  rw [if_pos afterColon] at recognized
  obtain ⟨word, -, rfl⟩ := recognizeType_eq_ok_iff.mp (eq_ok_of_map recognized)
  rfl

/-- A dash opens a comment, or it is part of an operator or of an arrow. -/
theorem recognize_dash (noColon : reading.afterColon = false) (rest : List Char) :
    recognize reading '-' rest =
      if ['-', '*'].isPrefixOf rest then
        (recognizeBlockComment reading.position ('-' :: rest)).map some
      else if ['-'].isPrefixOf rest then
        .ok (some (recognizeComment ('-' :: rest)))
      else
        (recognizeFixed reading.before reading.previous reading.position ('-' :: rest)).map some := by
  unfold recognize
  rw [if_neg (by simp [noColon])]
  rfl

/-- Behind one dash another one makes a comment, and anything else an operator or an arrow. -/
theorem kind_of_dash
    (noColon : reading.afterColon = false)
    (recognized : recognize reading '-' rest = .ok (some piece)) :
    (rest.head? = some '-' ∧ piece.kind ∈ [TokenKind.comment, .blockComment]) ∨
      (rest.head? ≠ some '-' ∧
        piece.kind ∈ [TokenKind.output, .flowOut, .binaryOperator, .unaryOperator]) := by
  have listedKinds : ∀ entry ∈ fixedLexemes, entry.1.head? = some '-' →
      entry.2 ∈ [TokenKind.output, .flowOut, .binaryOperator, .unaryOperator] := by decide
  rw [recognize_dash noColon] at recognized
  split at recognized
  · next opensBlock =>
      obtain ⟨inner, -, rfl⟩ := recognizeBlockComment_eq_ok_iff.mp (eq_ok_of_map recognized)
      exact .inl ⟨head?_of_isPrefixOf opensBlock, by simp⟩
  · split at recognized
    · next opensLine =>
        cases recognized
        exact .inl ⟨head?_of_isPrefixOf opensLine, by simp [recognizeComment]⟩
    · next noDash =>
        have oneDash : rest.head? ≠ some '-' := by
          intro isDash
          cases rest with
          | nil => cases isDash
          | cons next rest =>
              cases isDash
              exact noDash rfl
        refine .inr ⟨oneDash, ?_⟩
        obtain ⟨word, kind, listed, starts, ⟨_, rfl⟩ | rfl⟩ :=
          recognizeFixed_eq_ok (eq_ok_of_map recognized)
        · have isOperator := operatorKind_mem reading.previous (('-' :: rest).drop 1)
          exact List.mem_cons_of_mem _ (List.mem_cons_of_mem _ isOperator)
        · cases word with
          | nil => exact absurd rfl (fixedLexemes_ne_nil _ listed)
          | cons first word =>
              have isDash : '-' = first := Option.some.inj (head?_of_isPrefixOf starts)
              exact listedKinds _ listed (by rw [isDash]; rfl)

/-- Behind `-` as a prefix operator stands no other dash. -/
theorem not_dash_behind_minus
    (recognized : recognize reading '-' rest = .ok (some piece))
    (isPrefix : piece.kind = .unaryOperator) : rest.head? ≠ some '-' := by
  have noColon : reading.afterColon = false := by
    rw [Bool.eq_false_iff]
    intro afterColon
    have isKeyword := kind_of_afterColon recognized afterColon
    rw [isPrefix] at isKeyword
    cases isKeyword
  rcases kind_of_dash noColon recognized with ⟨_, isComment⟩ | ⟨noDash, _⟩
  · rw [isPrefix] at isComment
    exact absurd isComment (by decide)
  · exact noDash

/-- A comment starts with a dash. -/
theorem dash_of_comment
    (recognized : recognize reading character rest = .ok (some piece))
    (isComment : piece.kind ∈ [TokenKind.comment, .blockComment]) : character = '-' := by
  have noComment :
      ∀ kind ∈ TokenKind.unaryOperator :: fixedLexemes.map Prod.snd,
        kind ∉ [TokenKind.comment, .blockComment] := by
    decide
  rcases (recognized_of_recognize recognized).kind_cases with
    other | ⟨other, -⟩ | ⟨-, isDash⟩ | fixed
  · simp only [List.mem_cons] at other isComment
    grind
  · rw [other] at isComment
    exact absurd isComment (by decide)
  · exact isDash
  · exact absurd isComment (noComment _ (kind_mem_of_recognizeFixed fixed))

/-- Where something is recognised stands no blank. -/
theorem not_blank_of_recognize
    (noColon : reading.afterColon = false)
    (recognized : recognize reading character rest = .ok (some piece)) :
    isBlank character = false := by
  cases blank : isBlank character with
  | false => rfl
  | true =>
      unfold recognize at recognized
      rw [if_neg (by simp [noColon]), if_pos blank] at recognized
      split at recognized <;> cases recognized

end Recognize

/-! ## The next token -/

theorem isComment_iff {token : Token} :
    token.isComment = true ↔ token.kind ∈ [TokenKind.comment, .blockComment] := by
  simp [isComment]

/-- An arrow or an operator between operands is no comment and starts no operand. -/
theorem no_operand_of_operator
    {token : Token}
    (isOperator : token.kind ∈ [TokenKind.output, .flowOut, .binaryOperator, .unaryOperator])
    (notPrefix : token.kind ≠ .unaryOperator) :
    token.isComment = false ∧ Grammar.startsArgument token = false := by
  unfold isComment Grammar.startsArgument
  generalize token.kind = kind at isOperator notPrefix
  revert kind
  decide

/-- How the first token of a text is come to: the blanks before it, and what is recognised there. -/
inductive Begins (reading : Reading) : List Char → List Token → Prop
  | intro {blanks : List Char} {character : Char} {lexeme rest : List Char} {piece : Recognition}
      {tokens : List Token}
      (blank : ∀ character ∈ blanks, isBlank character = true)
      (allows : blanks ≠ [] → reading.AllowsBlank)
      (recognized :
        recognize (reading.after blanks []) character (lexeme ++ rest) = .ok (some piece))
      (spelled : piece.lexeme = character :: lexeme)
      (later :
        Scans
          ((reading.after blanks []).after (character :: lexeme)
            [(reading.after blanks []).token piece])
          rest tokens) :
      Begins reading (blanks ++ character :: (lexeme ++ rest))
        ((reading.after blanks []).token piece :: tokens)

theorem Scans.begins
    {reading : Reading} {text : List Char} {tokens : List Token}
    (scans : Scans reading text tokens) (nonempty : tokens ≠ []) : Begins reading text tokens := by
  induction scans with
  | done _ => exact absurd rfl nonempty
  | @blank reading character rest tokens recognized _ inductionHypothesis =>
      obtain ⟨allows, isBlank⟩ := allowsBlank_of_recognize recognized
      cases inductionHypothesis nonempty with
      | @intro blanks _ _ _ _ _ blank _ nextRecognized spelled later =>
          have sameReading :
              (reading.after [character] []).after blanks [] =
                reading.after (character :: blanks) [] :=
            Reading.after_after reading [character] blanks [] []
          rw [sameReading] at nextRecognized later ⊢
          exact @Begins.intro reading (character :: blanks) _ _ _ _ _
            (List.forall_mem_cons.mpr ⟨isBlank, blank⟩) (fun _ => allows) nextRecognized spelled later
  | @token reading _ _ _ _ _ recognized spelled later _ =>
      exact @Begins.intro reading [] _ _ _ _ _ nofun nofun recognized spelled later

/-- What comes behind a prefix operator: a tab or a carriage return behind `-`, a comment behind `~`,
something that touches it, or something that cannot be its operand. -/
inductive Behind (source : List Char) (mark next : Token) : Prop
  | blank {character : Char}
      (there : source[mark.span.stop]? = some character)
      (isBlank : character = '\t' ∨ character = '\r') (isMinus : mark.lexeme = "-")
      (apart : mark.span.stop < next.span.offset)
  | comment
      (there : source[mark.span.stop]? = some '-') (isTilde : mark.lexeme = "~")
      (isComment : next.isComment = true)
      (touches : mark.span.stop = next.span.offset)
  | touching {character : Char}
      (there : source[mark.span.stop]? = some character)
      (visible : character ∉ [' ', '\t', '\r', '\n', '-'])
      (touches : mark.span.stop = next.span.offset) (notComment : next.isComment = false)
  | noOperand
      (notComment : next.isComment = false) (noOperand : Grammar.startsArgument next = false)

section Single

variable
    {reading : Reading} {piece : Recognition} {operator : Char} (single : piece.lexeme = [operator])

include single

theorem lexeme_of_single : (reading.token piece).lexeme = String.ofList [operator] :=
  congrArg String.ofList single

theorem stop_of_single : (reading.token piece).span.stop = reading.offset + 1 := by
  simp [Reading.token, Span.stop, Recognition.length, single]

/-- The character behind a token of one character. -/
theorem getElem?_behind_single
    {passed : List Char} (offset : reading.offset = passed.length) (character : Char)
    (rest : List Char) :
    (passed ++ operator :: character :: rest)[(reading.token piece).span.stop]? =
      some character := by
  simp [stop_of_single single, offset]

end Single

/-- Right behind a prefix operator another operator is no prefix operator. -/
theorem not_prefix_of_touching
    {reading : Reading} {mark : Token} {operator character : Char} {rest : List Char}
    {piece : Recognition} (isMark : operator = '-' ∨ operator = '~')
    (recognized :
      recognize (reading.after [operator] [mark]) character rest = .ok (some piece)) :
    piece.kind ≠ .unaryOperator := by
  intro isPrefix
  obtain ⟨_, _, _, noOperator⟩ := prefix_of_recognize recognized isPrefix
  have isOperator : operatorChars.contains operator = true := by
    rcases isMark with rfl | rfl <;> decide
  have noOperator : operatorChars.contains operator = false := noOperator
  rw [isOperator] at noOperator
  cases noOperator

/-- What touches a prefix operator is a comment behind `~`, something that starts with a visible
character, or nothing that can be its operand. -/
theorem behind_of_touching
    {reading : Reading} {passed : List Char} {operator character : Char} {lexeme rest : List Char}
    {piece nextPiece : Recognition} (offset : reading.offset = passed.length)
    (recognized :
      recognize reading operator (character :: (lexeme ++ rest)) = .ok (some piece))
    (isPrefix : piece.kind = .unaryOperator)
    (nextRecognized :
      recognize (reading.after [operator] [reading.token piece]) character
        (lexeme ++ rest) = .ok (some nextPiece)) :
    Behind (passed ++ operator :: character :: (lexeme ++ rest))
      (reading.token piece)
      ((reading.after [operator] [reading.token piece]).token nextPiece) := by
  obtain ⟨isMark, single, noSpace, _⟩ := prefix_of_recognize recognized isPrefix
  have notPrefix := not_prefix_of_touching isMark nextRecognized
  have noColon : (reading.after [operator] [reading.token piece]).afterColon = false := by
    simp [Reading.afterColon, Reading.after, Reading.token, isPrefix]
  have there := getElem?_behind_single single offset character (lexeme ++ rest)
  have touches : (reading.token piece).span.stop =
      ((reading.after [operator] [reading.token piece]).token nextPiece).span.offset :=
    stop_of_single single
  by_cases isDash : character = '-'
  · subst isDash
    rcases kind_of_dash noColon nextRecognized with ⟨_, isComment⟩ | ⟨_, isOperator⟩
    · -- two dashes would have opened a comment, so the operator is not the first of them
      have isTilde : operator = '~' := by
        rcases isMark with rfl | isTilde
        · exact absurd rfl (not_dash_behind_minus recognized isPrefix)
        · exact isTilde
      subst isTilde
      exact .comment there (lexeme_of_single single) (isComment_iff.mpr isComment) touches
    · have isNone := @no_operand_of_operator
        ((reading.after [operator] [reading.token piece]).token nextPiece)
        isOperator notPrefix
      exact .noOperand isNone.1 isNone.2
  by_cases isFeed : character = '\n'
  · subst isFeed
    rw [recognize_lineFeed noColon] at nextRecognized
    cases nextRecognized
    exact .noOperand rfl rfl
  have notBlank := not_blank_of_recognize noColon nextRecognized
  refine .touching there ?_ touches ?_
  · simp only [isBlank, Bool.or_eq_false_iff, beq_eq_false_iff_ne] at notBlank
    simp [notBlank, isFeed, isDash]
  · rw [Bool.eq_false_iff]
    intro isComment
    exact isDash (dash_of_comment nextRecognized (isComment_iff.mp isComment))

/-- What comes behind a blank is apart from the operator, and the blank is no space. -/
theorem behind_of_blank
    {reading after : Reading} {passed rest : List Char} {operator blank : Char}
    {piece nextPiece : Recognition} (offset : reading.offset = passed.length)
    (recognized : recognize reading operator (blank :: rest) = .ok (some piece))
    (isPrefix : piece.kind = .unaryOperator) (isBlank : Token.isBlank blank = true)
    (allows : (reading.after [operator] [reading.token piece]).AllowsBlank)
    (apart : reading.offset + 1 < after.offset) :
    Behind (passed ++ operator :: blank :: rest) (reading.token piece)
      (after.token nextPiece) := by
  obtain ⟨isMark, single, noSpace, _⟩ := prefix_of_recognize recognized isPrefix
  have there := getElem?_behind_single single offset blank rest
  have isTabOrReturn : blank = '\t' ∨ blank = '\r' := by
    simpa [Token.isBlank, show blank ≠ ' ' by simpa using noSpace] using isBlank
  have isMinus : operator = '-' := by
    rcases isMark with isMinus | rfl
    · exact isMinus
    · have noMark : ((reading.token piece).lexeme == "~") = false := allows.noMark
      rw [lexeme_of_single single] at noMark
      cases noMark
  subst isMinus
  refine .blank there isTabOrReturn (lexeme_of_single single) ?_
  rw [stop_of_single single]
  exact apart

/-- Whatever is read behind a prefix operator comes in one of these ways. -/
theorem behind_of_begins
    {reading : Reading} {passed rest : List Char} {operator : Char} {piece : Recognition}
    {next : Token} {later : List Token} (offset : reading.offset = passed.length)
    (recognized : recognize reading operator rest = .ok (some piece))
    (isPrefix : piece.kind = .unaryOperator)
    (begins :
      Begins (reading.after [operator] [reading.token piece]) rest (next :: later)) :
    Behind (passed ++ operator :: rest) (reading.token piece) next := by
  cases begins with
  | @intro gap character lexeme rest nextPiece _ gapBlank allows nextRecognized _ _ =>
      cases gap with
      | nil => exact behind_of_touching offset recognized isPrefix nextRecognized
      | cons blank gap =>
          have isBlank := gapBlank blank List.mem_cons_self
          refine behind_of_blank offset recognized isPrefix isBlank (allows (List.cons_ne_nil _ _)) ?_
          simp [Reading.after]

theorem behind_of_tokenize
    {source : String} {tokens before later : List Token} {mark next : Token}
    (tokenized : tokenize source = .ok tokens) (split : tokens = before ++ mark :: next :: later)
    (isPrefix : mark.kind = .unaryOperator) : Behind source.toList mark next := by
  obtain ⟨front, back, sourceIs, cut⟩ := (scans_of_tokenize tokenized).cut split
  rw [sourceIs]
  cases cut.scans.begins (List.cons_ne_nil _ _) with
  | @intro blanks operator lexeme rest piece _ _ _ recognized spelled laterScans =>
      obtain ⟨_, single, _, _⟩ := prefix_of_recognize recognized isPrefix
      rw [single] at spelled
      cases spelled
      have offset : ((Reading.start.after front before).after blanks []).offset =
          (front ++ blanks).length := by
        simp [Reading.after, Reading.start]
      have behind := behind_of_begins offset recognized isPrefix
        (laterScans.begins (List.cons_ne_nil _ _))
      rwa [List.append_assoc] at behind

end Zoop.Token
