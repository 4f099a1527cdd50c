import Zoop.Proofs.Token.Pieces

/-!
# Reading the same text again

What is recognised in a text depends on what comes after the text only as far as a token at its end
could go on there, and on what has been read before only as far as the last tokens and the last
character.  So a text is read alike before another rest and after another beginning, if these look the
same from within the text.
-/

namespace Zoop.Token

/-! ## Other rests -/

/-- All texts that pieces are compared with. -/
def words : List (List Char) :=
  fixedLexemes.map Prod.fst ++
    ["true".toList, "false".toList, "--*".toList, "--".toList]

/-- No token that ends before one rest goes on in another: no word does, no name or number does, a
comment ends with its line in both, and a space that keeps an operator from its operand is there in
both. -/
structure Replaces (other back : List Char) : Prop where
  words : ∀ word ∈ words, ∀ text, word <+: text ++ other → word <+: text
  names : ∀ character ∈ other.head?, character.isAlphanum = false ∧ character ≠ '.'
  lines : (∀ character ∈ back.head?, character = '\n') →
    ∀ character ∈ other.head?, character = '\n'
  spaces : back.head? = some ' ' → other.head? = some ' '

theorem takeWhile_replaces
    {accepts : Char → Bool} {text back other : List Char}
    (within : ((text ++ back).takeWhile accepts).length ≤ text.length)
    (stops : ((text ++ back).takeWhile accepts).length = text.length →
      other.takeWhile accepts = []) :
    (text ++ other).takeWhile accepts = (text ++ back).takeWhile accepts := by
  induction text with
  | nil =>
      have nothing : back.takeWhile accepts = [] := List.length_eq_zero_iff.mp (Nat.le_zero.mp within)
      simp only [List.nil_append] at stops ⊢
      rw [nothing] at stops ⊢
      exact stops rfl
  | cons character text inductionHypothesis =>
      simp only [List.cons_append, List.takeWhile_cons] at within stops ⊢
      split
      · next accepted =>
          rw [if_pos accepted] at within stops
          simp only [List.length_cons, Nat.add_le_add_iff_right, Nat.add_right_cancel_iff]
            at within stops
          rw [inductionHypothesis within stops]
      · rfl

/-- What lies in a text is there before every rest. -/
theorem take_replaces
    {back other : List Char} (text : List Char) {count : Nat} (within : count ≤ text.length) :
    (text ++ other).take count = (text ++ back).take count := by
  rw [List.take_append_of_le_length within, List.take_append_of_le_length within]

theorem takeWhile_eq_nil_of_head?
    {accepts : Char → Bool} {text : List Char}
    (refused : ∀ character ∈ text.head?, accepts character = false) :
    text.takeWhile accepts = [] := by
  cases text with
  | nil => rfl
  | cons character text => simp [refused character rfl]

theorem find?_eq_some_of_imp
    {α : Type} {entries : List α} {old new : α → Bool} {entry : α}
    (found : entries.find? old = some entry) (holds : new entry = true)
    (implies : ∀ other ∈ entries, new other = true → old other = true) :
    entries.find? new = some entry := by
  rw [List.find?_eq_some_iff_append] at found ⊢
  obtain ⟨_, earlier, later, split, fail⟩ := found
  refine ⟨holds, earlier, later, split, ?_⟩
  intro other member
  have failed := fail other member
  have inside : other ∈ entries := by
    rw [split]
    exact List.mem_append_left _ member
  cases stillHolds : new other with
  | false => rfl
  | true => simp [implies other inside stillHolds] at failed

/-- Two readings look alike to what comes next. -/
structure Reading.Alike (new old : Reading) : Prop where
  colon : new.afterColon = old.afterColon
  mark : new.before.head?.any (·.lexeme == "~") = old.before.head?.any (·.lexeme == "~")
  previous : new.previous.any operatorChars.contains = old.previous.any operatorChars.contains

section Replaces

variable {back other : List Char} (replaces : Replaces other back)

include replaces

theorem isPrefixOf_of_replaces
    {word : List Char} (text : List Char) (listed : word ∈ words)
    (starts : word.isPrefixOf (text ++ other) = true) : word.isPrefixOf (text ++ back) = true := by
  rw [List.isPrefixOf_iff_prefix] at starts ⊢
  exact (replaces.words word listed text starts).trans (List.prefix_append text back)

omit replaces in
theorem isPrefixOf_of_length_le
    {word : List Char} (text : List Char) (fits : word.length ≤ text.length)
    (starts : word.isPrefixOf (text ++ back) = true) : word.isPrefixOf (text ++ other) = true := by
  rw [List.isPrefixOf_iff_prefix] at starts ⊢
  exact (List.prefix_of_prefix_length_le starts (List.prefix_append text back) fits).trans
    (List.prefix_append text other)

theorem recognizeVariable_replaces
    {position newPosition : Position} {sigil : Char} {text : List Char} {piece : Recognition}
    (recognized : recognizeVariable position sigil (text ++ back) = .ok piece)
    (within : piece.length ≤ text.length + 1) :
    recognizeVariable newPosition sigil (text ++ other) = .ok piece := by
  obtain ⟨_, rfl, isIdentifier, rfl⟩ := recognizeVariable_eq_ok_iff.mp recognized
  have sameName : (text ++ other).takeWhile Char.isAlphanum =
      (text ++ back).takeWhile Char.isAlphanum :=
    takeWhile_replaces (Nat.le_of_succ_le_succ within) fun _ =>
      takeWhile_eq_nil_of_head? fun character next => (replaces.names character next).1
  exact recognizeVariable_eq_ok_iff.mpr ⟨_, sameName, isIdentifier, rfl⟩

theorem recognizeType_replaces
    {position newPosition : Position} (text : List Char) {piece : Recognition}
    (recognized : recognizeType position (text ++ back) = .ok piece)
    (within : piece.length ≤ text.length) :
    recognizeType newPosition (text ++ other) = .ok piece := by
  have listed : ∀ word ∈ DataType.keywords.map String.toList, word ∈ words := by decide
  obtain ⟨word, found, rfl⟩ := recognizeType_eq_ok_iff.mp recognized
  have starts := (typeWord?_eq_some found).2
  have sameWord : typeWord? (text ++ other) = some word :=
    find?_eq_some_of_imp found (isPrefixOf_of_length_le text within starts)
      fun candidate member => isPrefixOf_of_replaces replaces text (listed candidate member)
  exact recognizeType_eq_ok_iff.mpr ⟨word, sameWord, rfl⟩

omit replaces in
theorem recognizeQuoted_replaces
    {position newPosition : Position} {quote : Char} {text : List Char} {piece : Recognition}
    (recognized : recognizeQuoted position quote (text ++ back) = .ok piece)
    (within : piece.length ≤ text.length + 1) :
    recognizeQuoted newPosition quote (text ++ other) = .ok piece := by
  obtain ⟨closed, _, rfl, rfl⟩ := recognizeQuoted_eq_ok_iff.mp recognized
  rw [Recognition.length, length_of_recognizeQuoted closed rfl] at within
  have sameInner : (text ++ other).takeWhile (· ≠ quote) = (text ++ back).takeWhile (· ≠ quote) :=
    takeWhile_replaces (by omega) fun whole => by omega
  have stillClosed : (text ++ other).dropWhile (· ≠ quote) ≠ [] := by
    intro isEmpty
    have whole := List.takeWhile_append_dropWhile (p := (· ≠ quote)) (l := text ++ other)
    rw [isEmpty, List.append_nil, sameInner] at whole
    have lengths := congrArg List.length whole
    simp only [List.length_append] at lengths within
    omega
  have sameLexeme :
      (quote :: (text ++ other)).take (((text ++ back).takeWhile (· ≠ quote)).length + 2) =
        (quote :: (text ++ back)).take (((text ++ back).takeWhile (· ≠ quote)).length + 2) :=
    take_replaces (quote :: text) within
  exact recognizeQuoted_eq_ok_iff.mpr ⟨stillClosed, _, sameInner, by rw [sameLexeme]⟩

omit replaces in
theorem head?_dropWhile (accepts : Char → Bool) (text : List Char) :
    (text.dropWhile accepts).head? = text[(text.takeWhile accepts).length]? := by
  induction text with
  | nil => rfl
  | cons character text inductionHypothesis =>
      rw [List.dropWhile_cons, List.takeWhile_cons]
      split
      · rw [inductionHypothesis, List.length_cons, List.getElem?_cons_succ]
      · rfl

theorem recognizeNumber_replaces
    {position newPosition : Position} (text : List Char) {piece : Recognition}
    (recognized : recognizeNumber position (text ++ back) = .ok piece)
    (within : piece.length ≤ text.length) :
    recognizeNumber newPosition (text ++ other) = .ok piece := by
  obtain ⟨_, rfl, isNumber, rfl⟩ := recognizeNumber_eq_ok_iff.mp recognized
  rw [recognizeNumber_eq_ok_iff]
  generalize belongsIs : (fun character : Char => character.isDigit || character == '.') = belongs
    at within isNumber ⊢
  simp only [Recognition.length, List.length_append] at within
  have stops : other.takeWhile belongs = [] := by
    apply takeWhile_eq_nil_of_head?
    intro character next
    obtain ⟨noName, noPoint⟩ := replaces.names character next
    rw [← belongsIs]
    simp only [Char.isAlphanum, Bool.or_eq_false_iff] at noName
    simp [noName.2, noPoint]
  have sameRun : (text ++ other).takeWhile belongs = (text ++ back).takeWhile belongs :=
    takeWhile_replaces (by omega) fun _ => stops
  have sameEnding :
      (if ((text ++ other).dropWhile belongs).head? == some 'u' then ['u'] else []) =
        if ((text ++ back).dropWhile belongs).head? == some 'u' then ['u'] else [] := by
    rw [head?_dropWhile, head?_dropWhile] at *
    rw [sameRun]
    by_cases inside : ((text ++ back).takeWhile belongs).length < text.length
    · rw [List.getElem?_append_left inside, List.getElem?_append_left inside]
    · -- at the end of the text there is no room for the letter, and none comes after it
      have noRoom : ¬((text ++ back)[((text ++ back).takeWhile belongs).length]? ==
          some 'u') = true := by
        intro ending
        rw [if_pos ending, List.length_singleton] at within
        omega
      have noLetter : ¬((text ++ other)[((text ++ back).takeWhile belongs).length]? ==
          some 'u') = true := by
        have atEnd : ((text ++ back).takeWhile belongs).length - text.length = 0 := by omega
        rw [List.getElem?_append_right (Nat.le_of_not_lt inside), atEnd, ← List.head?_eq_getElem?]
        intro isLetter
        exact absurd (replaces.names 'u' (by simpa using isLetter)).1 (by decide)
      rw [if_neg noRoom, if_neg noLetter]
  exact ⟨_, sameRun, isNumber, by rw [sameEnding]⟩

omit replaces in
theorem beforeMark?_replaces
    {mark text inner : List Char} (nonempty : mark ≠ [])
    (found : beforeMark? mark (text ++ back) = some inner)
    (within : inner.length + mark.length ≤ text.length) :
    beforeMark? mark (text ++ other) = some inner := by
  induction text generalizing inner with
  | nil =>
      have positive := List.length_pos_iff.mpr nonempty
      simp only [List.length_nil] at within
      omega
  | cons character text inductionHypothesis =>
      rw [List.cons_append, beforeMark?] at found ⊢
      split at found
      · next starts =>
          cases found
          have fits : mark.length ≤ (character :: text).length := by simpa using within
          have stillStarts : mark.isPrefixOf (character :: text ++ other) = true :=
            isPrefixOf_of_length_le (character :: text) fits starts
          exact if_pos stillStarts
      · next noStart =>
          obtain ⟨earlier, foundLater, rfl⟩ := Option.map_eq_some_iff.mp found
          simp only [List.length_cons] at within
          have stillNoStart : ¬mark.isPrefixOf (character :: (text ++ other)) = true := by
            intro starts
            refine noStart (isPrefixOf_of_length_le (character :: text) ?_ starts)
            rw [List.length_cons]
            omega
          rw [if_neg stillNoStart, inductionHypothesis foundLater (by omega)]
          rfl

omit replaces in
theorem recognizeBlockComment_replaces
    {position newPosition : Position} (text : List Char) {piece : Recognition}
    (recognized : recognizeBlockComment position (text ++ back) = .ok piece)
    (within : piece.length ≤ text.length) :
    3 ≤ text.length ∧ recognizeBlockComment newPosition (text ++ other) = .ok piece := by
  obtain ⟨inner, found, rfl⟩ := recognizeBlockComment_eq_ok_iff.mp recognized
  rw [Recognition.length, length_of_recognizeBlockComment found] at within
  have opening : 3 ≤ text.length := by omega
  have fits : inner.length + ['*', '-', '-'].length ≤ (text.drop 3).length := by
    simp only [List.length_cons, List.length_nil, List.length_drop]
    omega
  rw [List.drop_append_of_le_length opening] at found
  have stillFound : beforeMark? ['*', '-', '-'] ((text ++ other).drop 3) = some inner := by
    rw [List.drop_append_of_le_length opening]
    exact beforeMark?_replaces (by decide) found fits
  refine ⟨opening, recognizeBlockComment_eq_ok_iff.mpr ⟨inner, stillFound, ?_⟩⟩
  rw [take_replaces text within]

theorem recognizeComment_replaces
    (text : List Char) (opened : ['-', '-'].isPrefixOf (text ++ back) = true)
    (within : (recognizeComment (text ++ back)).length ≤ text.length) :
    2 ≤ text.length ∧ recognizeComment (text ++ other) = recognizeComment (text ++ back) := by
  rw [length_of_recognizeComment opened] at within
  have opening : 2 ≤ text.length := by omega
  have sameInner :
      ((text ++ other).drop 2).takeWhile (· ≠ '\n') =
        ((text ++ back).drop 2).takeWhile (· ≠ '\n') := by
    have textLength : (text.drop 2).length = text.length - 2 := List.length_drop
    rw [List.drop_append_of_le_length opening] at within ⊢
    rw [List.drop_append_of_le_length opening]
    refine takeWhile_replaces (by omega) fun whole => ?_
    -- a comment that takes the whole text ends where the rest starts, at a line feed or at the end
    apply takeWhile_eq_nil_of_head?
    have ended : ∀ character ∈ back.head?, character = '\n' := by
      intro character next
      have refused := List.head?_dropWhile_not (· ≠ '\n') (text.drop 2 ++ back)
      rw [head?_dropWhile, whole, List.getElem?_append_right (Nat.le_refl _), Nat.sub_self,
        ← List.head?_eq_getElem?, next] at refused
      simpa using refused
    intro character next
    simp [replaces.lines ended character next]
  refine ⟨opening, ?_⟩
  unfold recognizeComment
  dsimp only
  rw [sameInner, take_replaces text within]

theorem fixedLexeme?_replaces
    (text : List Char) {word : List Char} {kind : TokenKind}
    (found : fixedLexeme? (text ++ back) = some (word, kind)) (fits : word.length ≤ text.length) :
    fixedLexeme? (text ++ other) = some (word, kind) := by
  have starts := (fixedLexeme?_eq_some found).2
  refine find?_eq_some_of_imp found (isPrefixOf_of_length_le text fits starts) ?_
  intro entry member
  exact isPrefixOf_of_replaces replaces text (List.mem_append_left _ (List.mem_map_of_mem member))

theorem operatorKind_replaces
    {previous newPrevious : Option Char} {text : List Char}
    (samePrevious :
      newPrevious.any operatorChars.contains = previous.any operatorChars.contains)
    (apart : text = [] → operatorKind previous (text ++ back) = .unaryOperator →
      other.head? = some ' ' → back.head? = some ' ') :
    operatorKind newPrevious (text ++ other) = operatorKind previous (text ++ back) := by
  unfold operatorKind at apart ⊢
  rw [samePrevious]
  cases text with
  | nil =>
      simp only [List.nil_append] at apart ⊢
      by_cases spaced : back.head? = some ' '
      · simp [spaced, replaces.spaces spaced]
      · by_cases afterOperator : previous.any operatorChars.contains = true
        · simp [afterOperator]
        · have stillApart : other.head? ≠ some ' ' := fun next =>
            spaced (apart trivial (by simp [spaced, afterOperator]) next)
          simp [spaced, afterOperator, stillApart]
  | cons character text => rfl

theorem recognizeFixed_replaces
    {before newBefore : List Token} {previous newPrevious : Option Char}
    {position newPosition : Position} {character : Char} {text : List Char} {piece : Recognition}
    (recognized : recognizeFixed before previous position (character :: (text ++ back)) = .ok piece)
    (within : piece.length ≤ text.length + 1)
    (samePrevious :
      newPrevious.any operatorChars.contains = previous.any operatorChars.contains)
    (aimed : piece.kind = .flowIn → flowInHasTarget newBefore = true)
    (apart : text = [] → piece.kind = .unaryOperator →
      other.head? = some ' ' → back.head? = some ' ') :
    recognizeFixed newBefore newPrevious newPosition (character :: (text ++ other)) = .ok piece := by
  have signKind : ∀ entry ∈ fixedLexemes, entry.1 = ['-'] ∨ entry.1 = ['~'] →
      entry.2 ≠ .flowIn := by
    decide
  obtain ⟨word, kind, found, -, rfl⟩ := recognizeFixed_eq_ok_iff.mp recognized
  have sameFound : fixedLexeme? (character :: (text ++ other)) = some (word, kind) :=
    fixedLexeme?_replaces replaces (character :: text) found within
  refine recognizeFixed_eq_ok_iff.mpr ⟨word, kind, sameFound, ?_⟩
  by_cases isSign : word = ['-'] ∨ word = ['~']
  · have noArrow := signKind (word, kind) (fixedLexeme?_eq_some found).1 isSign
    rw [if_pos isSign] at apart
    have sameKind :
        operatorKind newPrevious (text ++ other) = operatorKind previous (text ++ back) :=
      operatorKind_replaces replaces samePrevious apart
    rw [if_pos isSign, if_pos isSign]
    exact ⟨fun isArrow => absurd isArrow noArrow, congrArg (Recognition.ofWord · word) sameKind⟩
  · rw [if_neg isSign] at aimed
    rw [if_neg isSign, if_neg isSign]
    exact ⟨aimed, rfl⟩

/-! ## Recognising a piece again -/

omit replaces in
theorem map_some_eq_ok
    {old new : Except SyntaxError Recognition} {found : Option Recognition}
    (mapped : old.map some = .ok found)
    (again : ∀ piece, found = some piece → old = .ok piece → new = .ok piece) :
    new.map some = .ok found := by
  cases old with
  | error error => cases mapped
  | ok piece =>
      cases mapped
      rw [again piece rfl rfl]
      rfl

theorem recognize_replaces
    {old new : Reading} (alike : new.Alike old) {character : Char} {text : List Char}
    {found : Option Recognition}
    (recognized : recognize old character (text ++ back) = .ok found)
    (within : ∀ piece, found = some piece → piece.length ≤ text.length + 1)
    (aimed : ∀ piece, found = some piece → piece.kind = .flowIn →
      flowInHasTarget new.before = true)
    (apart : text = [] → ∀ piece, found = some piece → piece.kind = .unaryOperator →
      other.head? = some ' ' → back.head? = some ' ') :
    recognize new character (text ++ other) = .ok found := by
  -- a word is there in both texts or in none, if the piece that it makes is in the text
  have sameWord : ∀ word ∈ words,
      (word.isPrefixOf (character :: (text ++ back)) = true → word.length ≤ text.length + 1) →
      word.isPrefixOf (character :: (text ++ other)) =
        word.isPrefixOf (character :: (text ++ back)) := by
    intro word listed fits
    rw [Bool.eq_iff_iff]
    refine ⟨isPrefixOf_of_replaces replaces (character :: text) listed, ?_⟩
    intro starts
    exact isPrefixOf_of_length_le (character :: text) (fits starts) starts
  unfold recognize at recognized ⊢
  dsimp only at recognized ⊢
  rw [alike.colon, alike.mark]
  by_cases afterColon : old.afterColon = true
  · rw [if_pos afterColon] at recognized ⊢
    exact map_some_eq_ok recognized fun piece isFound old =>
      recognizeType_replaces replaces (character :: text) old (within piece isFound)
  rw [if_neg afterColon] at recognized ⊢
  by_cases blank : isBlank character = true
  · rw [if_pos blank] at recognized ⊢
    split at recognized
    · cases recognized
    · next noMark =>
        rw [if_neg noMark]
        exact recognized
  rw [if_neg blank] at recognized ⊢
  by_cases isLineFeed : character = '\n'
  · rw [if_pos isLineFeed] at recognized ⊢
    exact recognized
  rw [if_neg isLineFeed] at recognized ⊢
  by_cases isSigil : character = '@' ∨ character = '$'
  · rw [if_pos isSigil] at recognized ⊢
    exact map_some_eq_ok recognized fun piece isFound old =>
      recognizeVariable_replaces replaces old (within piece isFound)
  rw [if_neg isSigil] at recognized ⊢
  by_cases isColon : character = ':'
  · rw [if_pos isColon] at recognized ⊢
    exact recognized
  rw [if_neg isColon] at recognized ⊢
  by_cases isOpening : character = '('
  · rw [if_pos isOpening] at recognized ⊢
    exact recognized
  rw [if_neg isOpening] at recognized ⊢
  by_cases isClosing : character = ')'
  · rw [if_pos isClosing] at recognized ⊢
    exact recognized
  rw [if_neg isClosing] at recognized ⊢
  by_cases isQuote : character = '"' ∨ character = '\x60'
  · rw [if_pos isQuote] at recognized ⊢
    exact map_some_eq_ok recognized fun piece isFound old =>
      recognizeQuoted_replaces old (within piece isFound)
  rw [if_neg isQuote] at recognized ⊢
  by_cases isDigit : character.isDigit = true
  · rw [if_pos isDigit] at recognized ⊢
    exact map_some_eq_ok recognized fun piece isFound old =>
      recognizeNumber_replaces replaces (character :: text) old (within piece isFound)
  rw [if_neg isDigit] at recognized ⊢
  by_cases startsTrue : ['t', 'r', 'u', 'e'].isPrefixOf (character :: (text ++ back)) = true
  · rw [if_pos startsTrue] at recognized
    cases recognized
    rw [sameWord ['t', 'r', 'u', 'e'] (by decide) fun _ => within _ rfl, if_pos startsTrue]
  rw [if_neg startsTrue] at recognized
  rw [sameWord _ (by decide) fun starts => absurd starts startsTrue, if_neg startsTrue]
  by_cases startsFalse : ['f', 'a', 'l', 's', 'e'].isPrefixOf (character :: (text ++ back)) = true
  · rw [if_pos startsFalse] at recognized
    cases recognized
    rw [sameWord ['f', 'a', 'l', 's', 'e'] (by decide) fun _ => within _ rfl, if_pos startsFalse]
  rw [if_neg startsFalse] at recognized
  rw [sameWord _ (by decide) fun starts => absurd starts startsFalse, if_neg startsFalse]
  by_cases opensBlock : ['-', '-', '*'].isPrefixOf (character :: (text ++ back)) = true
  · rw [if_pos opensBlock] at recognized
    cases comment : recognizeBlockComment old.position (character :: (text ++ back)) with
    | error error =>
        rw [comment] at recognized
        cases recognized
    | ok piece =>
        rw [comment] at recognized
        cases recognized
        obtain ⟨opening, again⟩ :=
          recognizeBlockComment_replaces (character :: text) comment (within piece rfl)
        rw [sameWord ['-', '-', '*'] (by decide) fun _ => opening, if_pos opensBlock]
        exact congrArg (Except.map some) again
  rw [if_neg opensBlock] at recognized
  rw [sameWord _ (by decide) fun starts => absurd starts opensBlock, if_neg opensBlock]
  by_cases opensLine : ['-', '-'].isPrefixOf (character :: (text ++ back)) = true
  · rw [if_pos opensLine] at recognized
    cases recognized
    obtain ⟨opening, again⟩ :=
      recognizeComment_replaces replaces (character :: text) opensLine (within _ rfl)
    rw [sameWord ['-', '-'] (by decide) fun _ => opening, if_pos opensLine]
    exact congrArg (fun piece => Except.ok (some piece)) again
  rw [if_neg opensLine] at recognized
  rw [sameWord _ (by decide) fun starts => absurd starts opensLine, if_neg opensLine]
  exact map_some_eq_ok recognized fun piece isFound old =>
    recognizeFixed_replaces replaces old (within piece isFound) alike.previous
      (aimed piece isFound) fun empty => apart empty piece isFound

end Replaces

/-! ## Breaks -/

/-- The only words with a space in them are the closing keywords, and the space has a letter behind
it. -/
theorem words_have_no_break :
    ∀ word ∈ words, '\t' ∉ word ∧ '\r' ∉ word ∧ '\n' ∉ word ∧
      ∀ index < word.length, word[index]? = some ' ' →
        word[index + 1]?.any ['e', 'i', 'l', 'z'].contains = true := by
  decide

/-- No closing keyword goes on with a blank or a line feed behind its space. -/
theorem break_not_mem_letters
    {character : Char} (isBreak : isBlank character = true ∨ character = '\n') :
    character ∉ ['e', 'i', 'l', 'z'] := by
  simp only [isBlank, Bool.or_eq_true, beq_iff_eq] at isBreak
  rcases isBreak with ((rfl | rfl) | rfl) | rfl <;> decide

theorem word_ends_before_break
    {word text others : List Char} {first : Char} (listed : word ∈ words)
    (isBreak : isBlank first = true ∨ first = '\n')
    (noWord : first = ' ' → ∀ second ∈ others.head?, second ∉ ['e', 'i', 'l', 'z'])
    (starts : word <+: text ++ first :: others) : word <+: text := by
  by_cases fits : word.length ≤ text.length
  · exact List.prefix_of_prefix_length_le starts (List.prefix_append text _) fits
  obtain ⟨more, rfl⟩ : text <+: word :=
    List.prefix_of_prefix_length_le (List.prefix_append text _) starts (Nat.le_of_not_le fits)
  have goesOn : more <+: first :: others := (List.prefix_append_right_inj text).mp starts
  cases more with
  | nil => simp at fits
  | cons character more =>
      obtain ⟨rfl, laterStarts⟩ := List.cons_prefix_cons.mp goesOn
      have member : character ∈ text ++ character :: more := by simp
      obtain ⟨noTab, noReturn, noLineFeed, spaced⟩ := words_have_no_break _ listed
      have isSpace : character = ' ' := by
        simp only [isBlank, Bool.or_eq_true, beq_iff_eq] at isBreak
        rcases isBreak with ((isSpace | rfl) | rfl) | rfl
        · exact isSpace
        · exact absurd member noTab
        · exact absurd member noReturn
        · exact absurd member noLineFeed
      subst isSpace
      obtain ⟨letter, there, contained⟩ :=
        (Option.any_eq_true _ _).mp (spaced text.length (by simp) (by simp))
      have isLetter : letter ∈ ['e', 'i', 'l', 'z'] := List.contains_iff_mem.mp contained
      have next : others.head? = some letter := by
        obtain ⟨rest, rfl⟩ := laterStarts
        rw [List.getElem?_append_right (Nat.le_add_right _ 1), Nat.add_sub_cancel_left,
          List.getElem?_cons_succ, ← List.head?_eq_getElem?] at there
        rw [List.head?_append, there]
        rfl
      exact absurd isLetter (noWord rfl letter next)

/-- A rest that starts with a blank or a line feed can stand for another one, if the other does not
end a line where this one goes on. -/
theorem replaces_of_break
    {first : Char} {others back : List Char}
    (isBreak : isBlank first = true ∨ first = '\n')
    (noWord : first = ' ' → ∀ second ∈ others.head?, second ∉ ['e', 'i', 'l', 'z'])
    (sameLine : first ≠ '\n' → ∃ character ∈ back.head?, character ≠ '\n')
    (spaced : back.head? = some ' ' → first = ' ') : Replaces (first :: others) back := by
  refine ⟨?_, ?_, ?_, ?_⟩
  · intro word listed text starts
    exact word_ends_before_break listed isBreak noWord starts
  · rintro _ ⟨⟩
    simp only [isBlank, Bool.or_eq_true, beq_iff_eq] at isBreak
    rcases isBreak with ((rfl | rfl) | rfl) | rfl <;> decide
  · rintro ends _ ⟨⟩
    by_cases isLineFeed : first = '\n'
    · exact isLineFeed
    · obtain ⟨character, next, notLineFeed⟩ := sameLine isLineFeed
      exact absurd (ends character next) notLineFeed
  · intro isSpace
    rw [spaced isSpace]
    rfl

end Zoop.Token
