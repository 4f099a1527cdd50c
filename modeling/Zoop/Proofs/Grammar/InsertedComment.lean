import Zoop.Proofs.Grammar.Sequence
import Zoop.Proofs.Token.Splice
import Zoop.Proofs.Token.Tiling

/-!
# Comments between tokens

A block comment is put between two tokens that have blanks between them.  The tokens before it stay,
those after it are read alike at places further on, and the parser does not see the comment.  The one
look that goes past it is that of an arrow for its target: an arrow whose target is on the other side of
the comment is refused.
-/

namespace Zoop

/-! ## Places behind an insertion -/

namespace Position

/-- A text either moves all places along their lines, or takes all of them to one column further down. -/
theorem afterAll_cases (text : List Char) :
    (∀ position : Position, position.afterAll text = ⟨position.line, position.column + text.length⟩) ∨
      ∃ lines column, 0 < lines ∧
        ∀ position : Position, position.afterAll text = ⟨position.line + lines, column⟩ := by
  induction text with
  | nil => exact .inl fun _ => rfl
  | cons character text inductionHypothesis =>
      by_cases lineFeed : character = '\n'
      · right
        rcases inductionHypothesis with along | ⟨lines, column, _, further⟩
        · refine ⟨1, text.length, Nat.one_pos, fun position => ?_⟩
          rw [afterAll_cons, along, after, if_pos lineFeed, Nat.zero_add]
        · refine ⟨1 + lines, column, Nat.lt_of_lt_of_le Nat.one_pos (Nat.le_add_right _ _), ?_⟩
          intro position
          rw [afterAll_cons, further, after, if_pos lineFeed, Nat.add_assoc]
      · rcases inductionHypothesis with along | ⟨lines, column, positive, further⟩
        · left
          intro position
          rw [afterAll_cons, along, after, if_neg lineFeed, List.length_cons, Nat.add_assoc,
            Nat.add_comm 1]
        · right
          refine ⟨lines, column, positive, fun position => ?_⟩
          rw [afterAll_cons, further, after, if_neg lineFeed]

def Precedes (first second : Position) : Prop :=
  first.line < second.line ∨ first.line = second.line ∧ first.column < second.column

instance (first second : Position) : Decidable (first.Precedes second) :=
  inferInstanceAs (Decidable (_ ∨ _))

theorem precedes_afterAll (position : Position) {text : List Char} (nonempty : text ≠ []) :
    position.Precedes (position.afterAll text) := by
  rcases afterAll_cases text with along | ⟨lines, column, positive, further⟩
  · rw [along]
    refine .inr ⟨rfl, ?_⟩
    exact Nat.lt_add_of_pos_right (List.length_pos_iff.mpr nonempty)
  · rw [further]
    exact .inl (Nat.lt_add_of_pos_right positive)

theorem not_afterAll_precedes (position : Position) (text : List Char) :
    ¬(position.afterAll text).Precedes position := by
  rcases afterAll_cases text with along | ⟨lines, column, _, further⟩
  · rw [along]
    rintro (above | ⟨_, left⟩)
    · exact Nat.lt_irrefl _ above
    · exact Nat.not_lt.mpr (Nat.le_add_right _ _) left
  · rw [further]
    rintro (above | ⟨sameLine, _⟩)
    · exact Nat.not_lt.mpr (Nat.le_add_right _ _) above
    · dsimp only at sameLine
      omega

/-- A place that is reached from one place by passing a text, as it is reached from another by passing
the same text. -/
def rebase (old new position : Position) : Position :=
  if position.line = old.line then
    ⟨new.line, new.column + (position.column - old.column)⟩
  else
    ⟨new.line + (position.line - old.line), position.column⟩

theorem rebase_afterAll (old new : Position) (text : List Char) :
    rebase old new (old.afterAll text) = new.afterAll text := by
  unfold rebase
  rcases afterAll_cases text with along | ⟨lines, column, positive, further⟩
  · rw [along, along, if_pos rfl, Nat.add_sub_cancel_left]
  · rw [further, further, if_neg (by dsimp only; omega), Nat.add_sub_cancel_left]

end Position

/-- Where the places of a source are if a text is put in behind some of its characters. -/
def Move.insertion (front text : List Char) : Move where
  place position :=
    let here := Position.start.afterAll front
    if position.Precedes here then position else Position.rebase here (here.afterAll text) position
  offset offset := if offset < front.length then offset else offset + text.length

theorem Move.insertion_place_behind (front text rest : List Char) :
    (insertion front text).place (Position.start.afterAll (front ++ rest)) =
      Position.start.afterAll (front ++ text ++ rest) := by
  simp only [insertion]
  rw [Position.afterAll_append, if_neg (Position.not_afterAll_precedes _ _),
    Position.rebase_afterAll, Position.afterAll_append, Position.afterAll_append]

namespace Token

/-! ## Reading a comment -/

def blockComment (inner : List Char) : List Char :=
  '-' :: ('-' :: '*' :: (inner ++ ['*', '-', '-']))

/-- A block comment with a space before and behind it. -/
def spacedComment (inner : List Char) : List Char :=
  ' ' :: (blockComment inner ++ [' '])

def commentPiece (inner : List Char) : Recognition :=
  ⟨.blockComment, blockComment inner, some (.string (String.ofList inner))⟩

/-- The closing mark has no beginning that is also its end, so it cannot start in a text without it and
end behind that text. -/
theorem beforeMark?_closing
    {inner : List Char} (unclosed : ¬['*', '-', '-'] <:+: inner) (rest : List Char) :
    beforeMark? ['*', '-', '-'] (inner ++ (['*', '-', '-'] ++ rest)) = some inner := by
  induction inner with
  | nil => simp [beforeMark?]
  | cons character inner inductionHypothesis =>
      have laterUnclosed : ¬['*', '-', '-'] <:+: inner := fun closed =>
        unclosed (closed.trans (List.suffix_cons character inner).isInfix)
      have notHere :
          ¬['*', '-', '-'] <+: character :: (inner ++ (['*', '-', '-'] ++ rest)) := by
        intro starts
        rcases inner with _ | ⟨second, _ | ⟨third, others⟩⟩
        · simp at starts
        · simp at starts
        · refine unclosed (List.IsPrefix.isInfix ?_)
          simpa using starts
      rw [List.cons_append, beforeMark?, if_neg (by rwa [List.isPrefixOf_iff_prefix]),
        inductionHypothesis laterUnclosed]
      rfl

theorem recognize_blockComment
    {reading : Reading} {inner : List Char} (complete : reading.afterColon = false)
    (unclosed : ¬['*', '-', '-'] <:+: inner) (rest : List Char) :
    recognize reading '-' ('-' :: '*' :: (inner ++ ['*', '-', '-']) ++ rest) =
      .ok (some (commentPiece inner)) := by
  have closes := beforeMark?_closing unclosed rest
  have lexeme :
      ('-' :: '-' :: '*' :: (inner ++ (['*', '-', '-'] ++ rest))).take (inner.length + 6) =
        blockComment inner := by
    have split : '-' :: '-' :: '*' :: (inner ++ (['*', '-', '-'] ++ rest)) =
        blockComment inner ++ rest := by
      simp [blockComment]
    rw [split]
    exact List.take_left' (by simp [blockComment])
  unfold recognize
  dsimp only
  rw [if_neg (by simp [complete]), if_neg (by decide), if_neg (by decide), if_neg (by decide),
    if_neg (by decide), if_neg (by decide), if_neg (by decide), if_neg (by decide),
    if_neg (by decide), if_neg (by simp), if_neg (by simp), if_pos (by simp)]
  unfold recognizeBlockComment
  rw [List.cons_append, List.cons_append, List.drop_succ_cons, List.drop_succ_cons,
    List.drop_succ_cons, List.drop_zero, List.append_assoc, closes]
  exact congrArg (fun lexeme => Except.ok (some (Recognition.mk .blockComment lexeme _))) lexeme

structure IsBlockComment (token : Token) : Prop where
  kind : token.kind = .blockComment
  opening : token.lexeme.toList.head? = some '-'

theorem IsBlockComment.lexeme_ne
    {token : Token} (comment : token.IsBlockComment) {word : String}
    (other : word.toList.head? ≠ some '-') : token.lexeme ≠ word := by
  rintro rfl
  exact other comment.opening

theorem isBlockComment_token (reading : Reading) (inner : List Char) :
    (reading.token (commentPiece inner)).IsBlockComment := by
  refine ⟨rfl, ?_⟩
  simp [Reading.token, commentPiece, blockComment]

/-! ## Arrows behind a comment -/

/-- An arrow does not see past a comment. -/
theorem flowInHasTarget_of_comment
    {comment : Token} (isComment : comment.IsBlockComment) (before : List Token) :
    ∀ tokens : List Token,
      flowInHasTarget (tokens ++ comment :: before) = true → flowInHasTarget tokens = true := by
  have kind := isComment.kind
  have noZoop : comment.lexeme ≠ "zoop" := isComment.lexeme_ne (by decide)
  have noLabel : comment.isLabel = false := by simp [isLabel, kind]
  intro tokens
  -- an arrow looks at four tokens at most
  rcases tokens with _ | ⟨last, _ | ⟨second, _ | ⟨third, _ | ⟨fourth, others⟩⟩⟩⟩
  · simp [flowInHasTarget, kind, noLabel]
  · simp [flowInHasTarget, kind, noZoop]
  · simp [flowInHasTarget, kind]
  · simp [flowInHasTarget, noZoop]
  · simp [flowInHasTarget]

theorem aimed_comment_iff
    {comment : Token} (isComment : comment.IsBlockComment) (before tokens : List Token) :
    Aimed (comment :: before) tokens ↔ Aimed [] tokens := by
  constructor
  · intro aimed between arrow rest split isArrow
    rw [List.append_nil]
    exact flowInHasTarget_of_comment isComment before _ (aimed between arrow rest split isArrow)
  · intro aimed
    exact aimed.append _

/-! ## Putting a comment in -/

theorem allowsBlank_comment
    {comment : Token} (isComment : comment.IsBlockComment) (reading : Reading) (text : List Char) :
    (reading.after text [comment]).AllowsBlank := by
  have noMark : comment.lexeme ≠ "~" := isComment.lexeme_ne (by decide)
  exact ⟨by simp [Reading.after, Reading.afterColon, isComment.kind], by simp [Reading.after, noMark]⟩

/-- A comment between blanks is passed. -/
theorem scan_spacedComment
    {reading : Reading} {left inner right : List Char} (allows : reading.AllowsBlank)
    (leftBlank : ∀ character ∈ left, isBlank character = true)
    (rightBlank : ∀ character ∈ right, isBlank character = true)
    (unclosed : ¬['*', '-', '-'] <:+: inner) (rest : List Char) :
    ∃ comment : Token, comment.IsBlockComment ∧
      scan reading 0 (left ++ spacedComment inner ++ right ++ rest) =
        scan (reading.after (left ++ spacedComment inner ++ right) [comment]) 0 rest := by
  have leftSpaceBlank : ∀ character ∈ left ++ [' '], isBlank character = true := by
    rw [List.forall_mem_append]
    exact ⟨leftBlank, List.forall_mem_singleton.mpr rfl⟩
  have spaceRightBlank : ∀ character ∈ ' ' :: right, isBlank character = true :=
    List.forall_mem_cons.mpr ⟨rfl, rightBlank⟩
  have isComment := isBlockComment_token (reading.after (left ++ [' ']) []) inner
  refine ⟨_, isComment, ?_⟩
  have text : left ++ spacedComment inner ++ right ++ rest =
      (left ++ [' ']) ++
        '-' :: (('-' :: '*' :: (inner ++ ['*', '-', '-'])) ++ ((' ' :: right) ++ rest)) := by
    simp [spacedComment, blockComment]
  have passed : left ++ [' '] ++ (blockComment inner ++ ' ' :: right) =
      left ++ spacedComment inner ++ right := by
    simp [spacedComment]
  have spacedComplete : (reading.after (left ++ [' ']) []).afterColon = false := allows.noColon
  have piece := recognize_blockComment spacedComplete unclosed ((' ' :: right) ++ rest)
  have lexeme : '-' :: ('-' :: '*' :: (inner ++ ['*', '-', '-'])) = blockComment inner := rfl
  rw [text, scan_blanks allows leftSpaceBlank, scan_token piece rfl, lexeme,
    scan_blanks (allowsBlank_comment isComment _ _) spaceRightBlank, Reading.after_after,
    Reading.after_after, passed]
  rfl

/-- The blanks at a place may have a comment among them. -/
theorem replaces_spacedComment
    {left right : List Char} (nonempty : left ++ right ≠ [])
    (blank : ∀ character ∈ left ++ right, isBlank character = true) (inner rest : List Char) :
    Replaces (left ++ spacedComment inner ++ right ++ rest) (left ++ right ++ rest) := by
  have sameLine : ∀ character, isBlank character = true → character ≠ '\n' := by
    rintro _ isBlank rfl
    exact absurd isBlank (by decide)
  cases left with
  | nil =>
      cases right with
      | nil => exact absurd rfl nonempty
      | cons next right =>
          refine replaces_of_break (.inl rfl) ?_ ?_ fun _ => rfl
          · rintro _ _ ⟨⟩
            decide
          · exact fun _ => ⟨next, rfl, sameLine next (blank next List.mem_cons_self)⟩
  | cons next left =>
      refine replaces_of_break (.inl (blank next List.mem_cons_self)) ?_ ?_ ?_
      · intro _ second isSecond
        apply break_not_mem_letters
        cases left with
        | nil =>
            rw [← Option.some.inj isSecond]
            exact .inl rfl
        | cons other left =>
            rw [← Option.some.inj isSecond]
            exact .inl (blank other (List.mem_cons_of_mem next List.mem_cons_self))
      · exact fun notLineFeed => ⟨next, rfl, notLineFeed⟩
      · exact fun isSpace => Option.some.inj isSpace

/-- No operator stands right before a place with blanks before it. -/
theorem previous_of_blanks
    {blanks : List Char} (nonempty : blanks ≠ [])
    (blank : ∀ character ∈ blanks, isBlank character = true) (front : List Char)
    (previous : Option Char) :
    ((front ++ blanks).getLast?.or previous).any operatorChars.contains = false := by
  have isBlank := blank _ (List.getLast_mem nonempty)
  rw [List.getLast?_append, List.getLast?_eq_some_getLast nonempty]
  simp only [Token.isBlank, Bool.or_eq_true, beq_iff_eq] at isBlank
  rcases isBlank with (isSpace | isTab) | isReturn
  · rw [isSpace]
    rfl
  · rw [isTab]
    rfl
  · rw [isReturn]
    rfl

/-- The reading behind the blanks at a place looks the same with a comment among them. -/
theorem mirrors_spacedComment
    {passed : List Token} {comment : Token} {front left right : List Char}
    (isComment : comment.IsBlockComment) (nonempty : left ++ right ≠ [])
    (blank : ∀ character ∈ left ++ right, isBlank character = true)
    (allows : (Reading.start.after front passed).AllowsBlank) (inner : List Char) :
    Mirrors (Move.insertion (front ++ left) (spacedComment inner))
      ((Reading.start.after front passed).after (left ++ spacedComment inner ++ right) [comment])
      ((Reading.start.after front passed).after (left ++ right) []) := by
  have commentAllows :=
    allowsBlank_comment isComment (Reading.start.after front passed)
      (left ++ spacedComment inner ++ right)
  refine ⟨⟨?_, ?_, ?_⟩, ?_, ?_⟩
  · exact commentAllows.noColon.trans allows.noColon.symm
  · exact commentAllows.noMark.trans allows.noMark.symm
  · have spaceRightBlank : ∀ character ∈ ' ' :: right, isBlank character = true :=
      List.forall_mem_cons.mpr ⟨rfl, (List.forall_mem_append.mp blank).2⟩
    have text : left ++ spacedComment inner ++ right =
        (left ++ ' ' :: blockComment inner) ++ ' ' :: right := by simp [spacedComment]
    have new := previous_of_blanks (List.cons_ne_nil _ _) spaceRightBlank
      (left ++ ' ' :: blockComment inner) (Reading.start.after front passed).previous
    have old := previous_of_blanks nonempty blank [] (Reading.start.after front passed).previous
    rw [← text] at new
    exact new.trans old.symm
  · intro text
    have behind :=
      Move.insertion_place_behind (front ++ left) (spacedComment inner) (right ++ text)
    simp only [Reading.after, Reading.start, ← Position.afterAll_append]
    simpa only [List.append_assoc] using behind
  · intro count
    simp only [Reading.after, Reading.start, Move.insertion, List.length_append]
    rw [if_neg (by omega)]
    omega

/-- With a comment put in at a place between two tokens, a source is read as before up to the comment;
what comes behind the blanks there is left to read. -/
theorem scan_insertComment
    {source inner : List Char} {earlier later : List Token} {first second : Token} {place : Nat}
    (scans : Scans .start source (earlier ++ first :: second :: later))
    (blankBetween : first.span.stop < second.span.offset)
    (behindFirst : first.span.stop ≤ place) (beforeSecond : place ≤ second.span.offset)
    (noPrefix : place = first.span.stop → first.kind ≠ .unaryOperator)
    (unclosed : ¬['*', '-', '-'] <:+: inner) :
    ∃ (comment : Token) (new old : Reading) (rest : List Char),
      comment.IsBlockComment ∧
      scan .start 0 (source.take place ++ spacedComment inner ++ source.drop place) =
        scan new 0 rest ∧
      new.before = comment :: (earlier ++ [first]).reverse ∧
      Scans old rest (second :: later) ∧
      Mirrors (Move.insertion (source.take place) (spacedComment inner)) new old := by
  have split : earlier ++ first :: second :: later = (earlier ++ [first]) ++ second :: later := by
    simp
  obtain ⟨front, back, rfl, cut⟩ := scans.cut split
  obtain ⟨blanks, rest, rfl, blank, allows, laterScans, starts, _⟩ := cut.scans.gap
  have stop : first.span.stop = front.length := by
    simpa [Reading.start] using cut.stops first (by simp)
  have offset : second.span.offset = front.length + blanks.length := by
    simpa [Reading.after, Reading.start] using starts second rfl
  obtain ⟨left, right, rfl, placed⟩ :
      ∃ left right, blanks = left ++ right ∧ place = front.length + left.length := by
    refine ⟨blanks.take (place - front.length), blanks.drop (place - front.length),
      (List.take_append_drop _ _).symm, ?_⟩
    rw [List.length_take]
    omega
  have nonempty : left ++ right ≠ [] := by
    rintro noBlank
    rw [noBlank, List.length_nil] at offset
    omega
  obtain ⟨leftBlank, rightBlank⟩ := List.forall_mem_append.mp blank
  have before : (front ++ (left ++ right ++ rest)).take place = front ++ left := by
    rw [placed, ← List.length_append, List.append_assoc, ← List.append_assoc, List.take_left]
  have behind : (front ++ (left ++ right ++ rest)).drop place = right ++ rest := by
    rw [placed, ← List.length_append, List.append_assoc, ← List.append_assoc, List.drop_left]
  have apart : ∀ last ∈ (earlier ++ [first]).getLast?, last.kind = .unaryOperator →
      (left ++ spacedComment inner ++ right ++ rest).head? = some ' ' →
      (left ++ right ++ rest).head? = some ' ' := by
    intro last isLast isUnary isSpace
    have same : first = last := by simpa using isLast
    cases left with
    | nil =>
        rw [List.length_nil, Nat.add_zero, ← stop] at placed
        exact absurd (same ▸ isUnary) (noPrefix placed)
    | cons next left => exact isSpace
  obtain ⟨comment, isComment, passes⟩ :=
    scan_spacedComment (allows nonempty) leftBlank rightBlank unclosed rest
  refine ⟨comment,
    (Reading.start.after front (earlier ++ [first])).after
      (left ++ spacedComment inner ++ right) [comment],
    _, rest, isComment, ?_, ?_, laterScans, ?_⟩
  · have text : front ++ left ++ spacedComment inner ++ (right ++ rest) =
        front ++ (left ++ spacedComment inner ++ right ++ rest) := by simp
    rw [before, behind, text,
      cut.again _ (replaces_spacedComment nonempty blank inner rest) apart, passes]
  · simp [Reading.after, Reading.start]
  · rw [before]
    exact mirrors_spacedComment isComment nonempty blank (allows nonempty) inner

/-- Tokens that end before the place of an insertion stay where they are. -/
theorem moved_insertion
    {source : List Char} {tokens : List Token} (tiles : TilesFrom source 0 tokens)
    {place : Nat} (inside : place ≤ source.length) (text : List Char)
    {token : Token} (member : token ∈ tokens) (ends : token.span.stop ≤ place) :
    token.moved (Move.insertion (source.take place) text) = token := by
  have nonempty := tiles.nonempty token member
  have before : token.span.offset < place :=
    Nat.lt_of_lt_of_le (Nat.lt_add_of_pos_right nonempty) ends
  have between : source.take place =
      source.take token.span.offset ++
        (source.drop token.span.offset).take (place - token.span.offset) := by
    rw [← List.take_add, Nat.add_sub_cancel' (Nat.le_of_lt before)]
  have passed : (source.drop token.span.offset).take (place - token.span.offset) ≠ [] := by
    rw [ne_eq, ← List.length_eq_zero_iff, List.length_take, List.length_drop]
    omega
  have precedes : token.position.Precedes (Position.start.afterAll (source.take place)) := by
    rw [tiles.positions token member, between, Position.afterAll_append]
    exact Position.precedes_afterAll _ passed
  have inFront : token.span.offset < (source.take place).length := by
    rw [List.length_take]
    omega
  simp only [moved, Move.insertion, if_pos precedes, if_pos inFront]

theorem map_moved_insertion
    {source : List Char} {earlier later : List Token} {last : Token}
    (tiles : TilesFrom source 0 (earlier ++ last :: later))
    {place : Nat} (inside : place ≤ source.length) (text : List Char)
    (ends : last.span.stop ≤ place) :
    (earlier ++ [last]).map (Token.moved (Move.insertion (source.take place) text)) =
      earlier ++ [last] := by
  apply map_moved_eq_self
  intro token member
  rcases List.mem_append.mp member with isEarlier | isLast
  · have ordered := (List.pairwise_append.mp tiles.ordered).2.2
    have beforeLast := ordered token isEarlier last List.mem_cons_self
    refine moved_insertion tiles inside text (List.mem_append_left _ isEarlier) ?_
    exact Nat.le_trans beforeLast (Nat.le_trans (Nat.le_add_right _ _) ends)
  · rw [List.mem_singleton.mp isLast]
    exact moved_insertion tiles inside text (List.mem_append_right _ List.mem_cons_self) ends

/-- A source with a block comment, and a space on each side of it, put in at a place. -/
def insertComment (source : String) (place : Nat) (inner : List Char) : String :=
  String.ofList (source.toList.take place ++ spacedComment inner ++ source.toList.drop place)

end Token

/-! ## Programs with a comment put in -/

namespace Program

open Token

theorem parse_of_significant
    {first second : List Token}
    (same : Grammar.significant first = Grammar.significant second) :
    parse first = parse second := by
  unfold parse Grammar.program
  rw [same]

/-- The parser does not see a comment. -/
theorem parse_comment
    {comment : Token} (isComment : comment.IsBlockComment) (before behind : List Token) :
    parse (before ++ comment :: behind) = parse (before ++ behind) := by
  apply parse_of_significant
  simp [Grammar.significant, Token.isComment, isComment.kind]

/-- A block comment with a space on each side of it is put in at a place between two tokens with blanks
between them, but not right behind a prefix operator.  If all arrows behind the place have their targets
behind it as well, the source is accepted as before and its program has only moved; otherwise the
source is refused. -/
theorem inserted_comment_keeps_program
    {source : String} {tokens earlier later : List Token} {first second : Token}
    {program : Program} {place : Nat} {inner : List Char}
    (tokenized : tokenize source = .ok tokens) (parsed : parse tokens = .ok program)
    (consecutive : tokens = earlier ++ first :: second :: later)
    (blankBetween : first.span.stop < second.span.offset)
    (behindFirst : first.span.stop ≤ place) (beforeSecond : place ≤ second.span.offset)
    (noPrefix : place = first.span.stop → first.kind ≠ .unaryOperator)
    (unclosed : ¬['*', '-', '-'] <:+: inner) :
    (Aimed [] (second :: later) →
      ∃ newTokens, tokenize (insertComment source place inner) = .ok newTokens ∧
        parse newTokens =
          .ok (program.moved
            (Move.insertion (source.toList.take place) (spacedComment inner)).place)) ∧
    (¬Aimed [] (second :: later) →
      ∃ error, tokenize (insertComment source place inner) = .error error) := by
  have tiles := tilesFrom_of_tokenize tokenized
  subst consecutive
  obtain ⟨comment, new, old, rest, isComment, scanned, before, laterScans, mirrors⟩ :=
    scan_insertComment (scans_of_tokenize tokenized) blankBetween behindFirst beforeSecond noPrefix
      unclosed
  have tokenizedAs : tokenize (insertComment source place inner) = scan new 0 rest := by
    rw [tokenize, insertComment, String.toList_ofList, scanned]
  have aimedIff :
      Aimed new.before
          ((second :: later).map
            (Token.moved (Move.insertion (source.toList.take place) (spacedComment inner)))) ↔
        Aimed [] (second :: later) := by
    rw [before, aimed_comment_iff isComment]
    exact ⟨Aimed.of_moved, fun aimed => aimed.moved _⟩
  refine ⟨fun aimed => ?_, fun unaimed => ?_⟩
  · have scans := laterScans.mirrored mirrors (aimedIff.mpr aimed)
    have inside : place ≤ source.toList.length := by
      have fits := (tiles.lexemes second (by simp)).1
      exact Nat.le_trans beforeSecond (Nat.le_trans (Nat.le_add_right _ _) fits)
    have stay := map_moved_insertion tiles inside (spacedComment inner) behindFirst
    have moved := parse_moved
      (Move.insertion (source.toList.take place) (spacedComment inner)) parsed
    rw [List.append_cons earlier first, List.map_append, stay] at moved
    refine ⟨_, tokenizedAs.trans scans.scan_eq_ok, ?_⟩
    rw [before, List.reverse_cons, List.reverse_reverse, List.append_assoc, List.singleton_append,
      parse_comment isComment, moved]
  · obtain ⟨error, refused⟩ :=
      laterScans.not_mirrored mirrors fun aimed => unaimed (aimedIff.mp aimed)
    exact ⟨error, tokenizedAs.trans refused⟩

/-- A new value for a variable. -/
def storingSource : String :=
  "@b <- true"

def storingTokens : List Token := [
  ⟨.variable, "@b", ⟨1, 0⟩, ⟨0, 2⟩, some (.string "b")⟩,
  ⟨.flowIn, "<-", ⟨1, 3⟩, ⟨3, 2⟩, none⟩,
  ⟨.literal, "true", ⟨1, 6⟩, ⟨6, 4⟩, some (.boolean true)⟩]

def storingProgram (place : Position) : Program :=
  ⟨[.expression ⟨1, 0⟩ (.reassign ⟨1, 0⟩ "b" (.literal place (.boolean true)))]⟩

theorem storingSource_tokenized : tokenize storingSource = .ok storingTokens :=
  tokenize_eq_ok (by decide +kernel)

theorem storingSource_parsed : parse storingTokens = .ok (storingProgram ⟨1, 6⟩) := by
  rfl

/-- A comment over two lines behind the arrow moves the value to the second one. -/
theorem comment_keeps_storingProgram :
    insertComment storingSource 6 ['\n'] = "@b <-  --*\n*-- true" ∧
    ∃ newTokens, tokenize (insertComment storingSource 6 ['\n']) = .ok newTokens ∧
      parse newTokens = .ok (storingProgram ⟨2, 4⟩) := by
  have consecutive : storingTokens =
      storingTokens.take 1 ++
        ⟨.flowIn, "<-", ⟨1, 3⟩, ⟨3, 2⟩, none⟩ ::
          ⟨.literal, "true", ⟨1, 6⟩, ⟨6, 4⟩, some (.boolean true)⟩ :: [] :=
    rfl
  refine ⟨by decide +kernel, ?_⟩
  exact (inserted_comment_keeps_program storingSource_tokenized storingSource_parsed consecutive
    (by decide) (by decide) (by decide) (by decide) (by decide)).1
    (aimed_of_no_arrow (by decide) [])

/-- A prefix operator with a tab between it and its operand. -/
def detachedSource : String :=
  "-\ttrue ->|"

def detachedTokens : List Token := [
  ⟨.unaryOperator, "-", ⟨1, 0⟩, ⟨0, 1⟩, none⟩,
  ⟨.literal, "true", ⟨1, 2⟩, ⟨2, 4⟩, some (.boolean true)⟩,
  ⟨.output, "->|", ⟨1, 7⟩, ⟨7, 3⟩, none⟩]

def detachedProgram : Program :=
  ⟨[.print ⟨1, 7⟩ (.unary ⟨1, 0⟩ .negate (.literal ⟨1, 2⟩ (.boolean true)))]⟩

/-- The tokens with a comment between the operator and the tab: the operator stands between operands
now. -/
def commentedTokens : List Token := [
  ⟨.binaryOperator, "-", ⟨1, 0⟩, ⟨0, 1⟩, none⟩,
  ⟨.blockComment, "--*c*--", ⟨1, 2⟩, ⟨2, 7⟩, some (.string "c")⟩,
  ⟨.literal, "true", ⟨1, 11⟩, ⟨11, 4⟩, some (.boolean true)⟩,
  ⟨.output, "->|", ⟨1, 16⟩, ⟨16, 3⟩, none⟩]

/-- A comment is not without meaning between a variable and its arrow, nor between a prefix operator and
a tab. -/
theorem comment_is_seen_by_arrow_and_prefix_operator :
    (tokenize storingSource = .ok storingTokens ∧
      parse storingTokens = .ok (storingProgram ⟨1, 6⟩) ∧
      insertComment storingSource 2 ['c'] = "@b --*c*--  <- true" ∧
      tokenize (insertComment storingSource 2 ['c']) = .error ⟨.invalidFlowIn, ⟨1, 12⟩⟩) ∧
    (tokenize detachedSource = .ok detachedTokens ∧
      parse detachedTokens = .ok detachedProgram ∧
      insertComment detachedSource 1 ['c'] = "- --*c*-- \ttrue ->|" ∧
      tokenize (insertComment detachedSource 1 ['c']) = .ok commentedTokens ∧
      parse commentedTokens = .error ⟨.invalidExpression, ⟨1, 0⟩⟩) := by
  refine ⟨⟨storingSource_tokenized, storingSource_parsed, by decide +kernel, by rfl⟩, ?_⟩
  exact ⟨tokenize_eq_ok (by decide +kernel), by rfl, by decide +kernel,
    tokenize_eq_ok (by decide +kernel), by rfl⟩

end Program

end Zoop
