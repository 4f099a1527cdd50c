import Zoop.Proofs.Grammar.Continuation

/-!
# Sources one after the other

The tokens of a source are parsed alike wherever they stand, and if a line feed and the tokens of
another source come after them, then the statements of the other come after theirs.
-/

namespace Zoop.Grammar

/-! ## Line feeds -/

theorem skipNewLines_tokens
    (move : Move) (tail : List Token) {tokens others : List Token} {token : Token}
    (afterLines : skipNewLines tokens = token :: others) :
    skipNewLines (move.tokens tokens tail) = move.tokens (token :: others) tail := by
  induction tokens with
  | nil => cases afterLines
  | cons first tokens inductionHypothesis =>
      by_cases isNewLine : first.kind = .newLine
      · have later : skipNewLines tokens = token :: others := by
          simpa [skipNewLines, isNewLine] using afterLines
        simpa [skipNewLines, isNewLine] using inductionHypothesis later
      · have here : first :: tokens = token :: others := by
          simpa [skipNewLines, isNewLine] using afterLines
        simp [← here, skipNewLines, isNewLine]

theorem skipNewLines_tokens_of_nil
    {move : Move} {tokens tail : List Token} (afterLines : skipNewLines tokens = []) :
    skipNewLines (move.tokens tokens tail) = skipNewLines tail := by
  induction tokens with
  | nil => rfl
  | cons first tokens inductionHypothesis =>
      by_cases isNewLine : first.kind = .newLine
      · have later : skipNewLines tokens = [] := by
          simpa [skipNewLines, isNewLine] using afterLines
        simpa [skipNewLines, isNewLine] using inductionHypothesis later
      · simp [skipNewLines, isNewLine] at afterLines

theorem skipNewLines_skipKind (tokens : List Token) :
    skipNewLines (skipKind .newLine tokens) = skipNewLines tokens := by
  unfold skipKind
  split
  · next next =>
      obtain ⟨token, rest, rfl, isNewLine⟩ := nextIs_eq_true next
      simp [skipNewLines, isNewLine]
  · rfl

/-- What is left of the tokens that come after others: all of them if some of the others are left, and
otherwise they may have lost line feeds. -/
structure Leaves (tail rest later : List Token) : Prop where
  lines : skipNewLines later = skipNewLines tail
  whole : rest ≠ [] → later = tail

theorem leaves_all (tail rest : List Token) : Leaves tail rest tail :=
  ⟨rfl, fun _ => rfl⟩

/-- If line feeds alone have been taken, then no branch of a condition stands next. -/
theorem Leaves.not_isKeyword
    {tail rest later : List Token} (leaves : Leaves tail rest later) (trailing : Trailing tail) :
    ∀ token ∈ later.head?, token.isKeyword "elif" = false ∧ token.isKeyword "else" = false := by
  cases later with
  | nil => exact nofun
  | cons first others =>
      rintro token ⟨⟩
      by_cases isNewLine : first.kind = .newLine
      · simp [Token.isKeyword, isNewLine]
      · apply trailing.noBranch
        rw [← leaves.lines]
        simp [skipNewLines, isNewLine]

/-- A parser gives the same for tokens at their other places, and of what comes after them it takes
line feeds at most. -/
def Parser.Carries
    {α : Type} (move : Move) (tail : List Token) (old new : Parser α) (moved : α → α) : Prop :=
  ∀ {tokens rest : List Token} {value : α}, old tokens = .ok (value, rest) →
    ∃ later, Leaves tail rest later ∧
      new (move.tokens tokens tail) = .ok (moved value, move.tokens rest later)

section Carries

variable {move : Move} {tail : List Token} (trailing : Trailing tail)

/-! ## Lines -/

theorem lineArrow_moved
    {line : List Token} {arrow : Option TokenKind} (found : lineArrow line = .ok arrow) :
    lineArrow (line.map (Token.moved move)) = .ok arrow := by
  have fromArrow : ∀ kind : TokenKind,
      (line.map (Token.moved move)).dropWhile (fun token => token.kind != kind) =
        (line.dropWhile fun token => token.kind != kind).map (Token.moved move) :=
    fun kind => List.dropWhile_map ..
  unfold lineArrow at found ⊢
  simp only [fromArrow] at found ⊢
  generalize line.dropWhile (fun token => token.kind != .output) = fromOutput at found ⊢
  generalize line.dropWhile (fun token => token.kind != .flowOut) = fromFlowOut at found ⊢
  split at found <;> cases found <;> rfl

include trailing

theorem takeWhile_continues (tokens : List Token) :
    (move.tokens tokens tail).takeWhile (fun token => !endsLine token) =
      (tokens.takeWhile fun token => !endsLine token).map (Token.moved move) := by
  induction tokens with
  | nil =>
      rcases trailing.nil_or_newLine with rfl | ⟨token, others, rfl, isNewLine, _⟩
      · rfl
      · simp [endsLine, isNewLine]
  | cons token tokens inductionHypothesis =>
      rw [Move.tokens_cons, List.takeWhile_cons, List.takeWhile_cons]
      have sameEnd : endsLine (token.moved move) = endsLine token := rfl
      rw [sameEnd]
      split
      · rw [inductionHypothesis, List.map_cons]
      · rfl

theorem lineStatement_continues (finish newFinish : Position) :
    (lineStatement finish).Continues move tail (lineStatement newFinish)
      (Statement.moved move.place) := by
  intro tokens rest statement parsed
  obtain ⟨arrow, arrowFound, parsed⟩ := Outcome.bind_eq_ok_iff.mp parsed
  obtain ⟨⟨value, remaining⟩, valueParsed, parsed⟩ := Outcome.bind_eq_ok_iff.mp parsed
  unfold lineStatement
  rw [takeWhile_continues trailing, lineArrow_moved arrowFound, Outcome.ok_bind,
    expression_continues trailing finish newFinish valueParsed, Outcome.ok_bind]
  cases arrow with
  | none =>
      cases parsed
      simp [Statement.moved]
  | some kind =>
      obtain ⟨⟨token, remaining⟩, tokenParsed, parsed⟩ := Outcome.bind_eq_ok_iff.mp parsed
      dsimp only at parsed ⊢
      rw [expectKind_continues tokenParsed, Outcome.ok_bind]
      dsimp only
      split at parsed
      · next isOutput =>
          cases parsed
          rw [if_pos isOutput]
          rfl
      · next notOutput =>
          cases parsed
          rw [if_neg notOutput]
          rfl

/-! ## Bodies -/

section Nested

omit trailing in
theorem blockStatements_succ
    (nested : StatementParser) (opening : Position) (place : Place) (bound : Nat)
    (tokens : List Token) (token : Token) (others : List Token)
    (afterLines : skipNewLines tokens = token :: others) :
    blockStatements nested opening place (bound + 1) tokens =
      if token.kind == .blockClose then
        .ok ([], others)
      else do
        let (first, rest) ← nested place (token :: others)
        let (later, rest) ← blockStatements nested opening place bound rest
        return (first :: later, rest) := by
  rw [blockStatements, afterLines]
  simp only [beq_iff_eq]

omit trailing in
theorem bodyStatements_succ
    (nested : StatementParser) (construct : Construct) (opening : Position) (place : Place)
    (bound : Nat) (tokens : List Token) (token : Token) (others : List Token)
    (afterLines : skipNewLines tokens = token :: others) :
    bodyStatements nested construct opening place (bound + 1) tokens =
      if token.isKeyword construct.closing then
        .ok ([], others)
      else do
        let (first, rest) ← nested place (token :: others)
        let (later, rest) ← bodyStatements nested construct opening place bound rest
        return (first :: later, rest) := by
  rw [bodyStatements, afterLines]

variable
    {finish newFinish : Position} {nested newNested : StatementParser}
    (nestedCarries :
      ∀ place, (nested place).Carries move tail (newNested place) (Statement.moved move.place))

include nestedCarries

omit trailing in
/-- Both kinds of bodies are read statement by statement up to a token that closes them.  Something of
the old tokens is left before each of them, so the tokens that come after are left alone. -/
theorem statementsUntil_continues
    {place : Place} {closes : Token → Bool} {parser newParser : Nat → Parser (List Statement)}
    (sameClose : ∀ token : Token, closes (token.moved move) = closes token)
    (unbounded : ∀ tokens, parser 0 tokens = .outOfFuel)
    (ended : ∀ bound tokens result, skipNewLines tokens = [] → parser (bound + 1) tokens ≠ .ok result)
    (step : ∀ bound tokens token others, skipNewLines tokens = token :: others →
      parser (bound + 1) tokens =
        if closes token then
          .ok ([], others)
        else do
          let (first, rest) ← nested place (token :: others)
          let (later, rest) ← parser bound rest
          return (first :: later, rest))
    (newStep : ∀ bound tokens token others, skipNewLines tokens = token :: others →
      newParser (bound + 1) tokens =
        if closes token then
          .ok ([], others)
        else do
          let (first, rest) ← newNested place (token :: others)
          let (later, rest) ← newParser bound rest
          return (first :: later, rest))
    {bound newBound : Nat} (larger : bound ≤ newBound) :
    (parser bound).Continues move tail (newParser newBound) (Statement.movedAll move.place) := by
  induction bound generalizing newBound with
  | zero =>
      intro tokens rest body parsed
      rw [unbounded] at parsed
      cases parsed
  | succ bound inductionHypothesis =>
      intro tokens rest body parsed
      obtain ⟨newBound, rfl⟩ := Nat.exists_eq_add_of_le' (Nat.lt_of_lt_of_le bound.succ_pos larger)
      cases afterLines : skipNewLines tokens with
      | nil => exact absurd parsed (ended bound tokens _ afterLines)
      | cons token others =>
          have newAfterLines := skipNewLines_tokens move tail afterLines
          rw [Move.tokens_cons] at newAfterLines
          rw [step bound tokens token others afterLines] at parsed
          rw [newStep newBound _ _ _ newAfterLines, sameClose]
          split at parsed
          · next closed =>
              cases parsed
              rw [if_pos closed]
              rfl
          · next goesOn =>
              obtain ⟨⟨first, remaining⟩, firstParsed, parsed⟩ := Outcome.bind_eq_ok_iff.mp parsed
              obtain ⟨⟨later, last⟩, laterParsed, parsed⟩ := Outcome.bind_eq_ok_iff.mp parsed
              cases parsed
              have nonempty : remaining ≠ [] := by
                rintro rfl
                cases bound with
                | zero =>
                    rw [unbounded] at laterParsed
                    cases laterParsed
                | succ bound => exact ended bound [] _ rfl laterParsed
              obtain ⟨left, leaves, firstContinues⟩ := nestedCarries place firstParsed
              rw [Move.tokens_cons, leaves.whole nonempty] at firstContinues
              have laterContinues :=
                inductionHypothesis (Nat.le_of_succ_le_succ larger) laterParsed
              rw [if_neg goesOn, firstContinues, Outcome.ok_bind]
              dsimp only
              rw [laterContinues]
              rfl

omit trailing in
theorem blockStatements_continues
    (opening newOpening : Position) (place : Place) {bound newBound : Nat}
    (larger : bound ≤ newBound) :
    (blockStatements nested opening place bound).Continues move tail
      (blockStatements newNested newOpening place newBound) (Statement.movedAll move.place) := by
  intro tokens rest body parsed
  refine statementsUntil_continues nestedCarries (fun _ => rfl) (fun _ => rfl) ?_
    (blockStatements_succ nested opening place) (blockStatements_succ newNested newOpening place)
    larger parsed
  intro bound tokens result afterLines parsed
  rw [blockStatements, afterLines] at parsed
  cases parsed

omit trailing in
theorem bodyStatements_continues
    (construct : Construct) (opening newOpening : Position) (place : Place) {bound newBound : Nat}
    (larger : bound ≤ newBound) :
    (bodyStatements nested construct opening place bound).Continues move tail
      (bodyStatements newNested construct newOpening place newBound)
      (Statement.movedAll move.place) := by
  intro tokens rest body parsed
  refine statementsUntil_continues nestedCarries (fun _ => rfl) (fun _ => rfl) ?_
    (bodyStatements_succ nested construct opening place)
    (bodyStatements_succ newNested construct newOpening place) larger parsed
  intro bound tokens result afterLines parsed
  rw [bodyStatements, afterLines] at parsed
  cases parsed

omit nestedCarries in
/-- At the end of the old tokens the line ends with the line feed that comes after them. -/
theorem lineEnd_carries
    (move : Move) {construct : Construct} {tokens rest : List Token}
    (ended : lineEnd construct tokens = .ok rest) :
    ∃ later, Leaves tail rest later ∧
      lineEnd construct (move.tokens tokens tail) = .ok (move.tokens rest later) := by
  cases tokens with
  | nil =>
      cases ended
      rcases trailing.nil_or_newLine with rfl | ⟨token, others, rfl, isNewLine, _⟩
      · exact ⟨[], leaves_all [] [], rfl⟩
      · refine ⟨others, ⟨?_, fun nonempty => absurd rfl nonempty⟩, ?_⟩
        · simp [skipNewLines, isNewLine]
        · rw [Move.tokens_nil, lineEnd, if_pos isNewLine]
          rfl
  | cons token tokens =>
      rw [lineEnd] at ended
      split at ended
      · next isNewLine =>
          cases ended
          refine ⟨tail, leaves_all tail rest, ?_⟩
          rw [Move.tokens_cons, lineEnd, Token.kind_moved, if_pos isNewLine]
      · cases ended

omit trailing nestedCarries in
theorem skipNewLine_carries
    (move : Move) {rest later : List Token} (leaves : Leaves tail rest later) :
    ∃ last, Leaves tail (skipKind .newLine rest) last ∧
      skipKind .newLine (move.tokens rest later) =
        move.tokens (skipKind .newLine rest) last := by
  cases rest with
  | nil =>
      refine ⟨skipKind .newLine later, ⟨?_, fun nonempty => absurd rfl nonempty⟩, rfl⟩
      rw [skipNewLines_skipKind, leaves.lines]
  | cons token rest =>
      have isWhole := leaves.whole (List.cons_ne_nil token rest)
      subst isWhole
      refine ⟨later, leaves_all later _, ?_⟩
      unfold skipKind
      have sameNext :
          nextIs .newLine (move.tokens (token :: rest) later) = nextIs .newLine (token :: rest) :=
        rfl
      rw [sameNext]
      split <;> rfl

theorem body_carries (construct : Construct) (opening newOpening : Position) (place : Place) :
    (body nested construct opening place).Carries move tail
      (body newNested construct newOpening place) (Statement.movedAll move.place) := by
  intro tokens rest statements parsed
  unfold body at parsed ⊢
  rw [nextIs_continues trailing (by decide)]
  split at parsed
  · next isDirect =>
      obtain ⟨⟨single, remaining⟩, singleParsed, parsed⟩ := Outcome.bind_eq_ok_iff.mp parsed
      cases parsed
      obtain ⟨later, leaves, continued⟩ := nestedCarries place singleParsed
      obtain ⟨last, lastLeaves, skipped⟩ := skipNewLine_carries move leaves
      refine ⟨last, lastLeaves, ?_⟩
      rw [if_pos isDirect, tail_of_nextIs isDirect, continued, Outcome.ok_bind]
      dsimp only
      rw [skipped]
      rfl
  · next notDirect =>
      obtain ⟨⟨inner, remaining⟩, innerParsed, parsed⟩ := Outcome.bind_eq_ok_iff.mp parsed
      obtain ⟨afterLine, ended, parsed⟩ := Outcome.bind_eq_ok_iff.mp parsed
      cases parsed
      have larger : tokens.length + 1 ≤ (move.tokens tokens tail).length + 1 := by simp
      have continued :=
        bodyStatements_continues nestedCarries construct opening newOpening place larger innerParsed
      obtain ⟨last, leaves, lineEnds⟩ := lineEnd_carries trailing move ended
      refine ⟨last, leaves, ?_⟩
      rw [if_neg notDirect, continued, Outcome.ok_bind]
      dsimp only
      rw [lineEnds]
      rfl

/-! ## Conditions -/

variable (newFinish) in
theorem branch_carries (construct : Construct) (opening : Position) (place : Place) :
    (branch finish nested construct opening place).Carries move tail
      (branch newFinish newNested construct (move.place opening) place)
      (Statement.movedBranch move.place) := by
  intro tokens rest taken parsed
  obtain ⟨⟨guard, remaining⟩, guardParsed, parsed⟩ := Outcome.bind_eq_ok_iff.mp parsed
  obtain ⟨⟨inner, remaining⟩, bodyParsed, parsed⟩ := Outcome.bind_eq_ok_iff.mp parsed
  cases parsed
  obtain ⟨later, leaves, continued⟩ :=
    body_carries trailing nestedCarries construct opening (move.place opening) place bodyParsed
  refine ⟨later, leaves, ?_⟩
  unfold branch
  rw [expression_continues trailing finish newFinish guardParsed, Outcome.ok_bind]
  dsimp only
  rw [continued]
  rfl

variable (newFinish) in
/-- The tokens before may have been taken already, together with line feeds that come after them. -/
theorem elifBranches_carries
    {place : Place} {bound newBound : Nat} {tokens now rest : List Token} {branches : List Branch}
    (larger : bound ≤ newBound) (leaves : Leaves tail tokens now)
    (parsed : elifBranches finish nested place bound tokens = .ok (branches, rest)) :
    ∃ later, Leaves tail rest later ∧
      elifBranches newFinish newNested place newBound (move.tokens tokens now) =
        .ok (Statement.movedBranches move.place branches, move.tokens rest later) := by
  fun_induction elifBranches finish nested place bound tokens
    generalizing newBound now rest branches with
  | case1 bound =>
      cases parsed
      refine ⟨now, leaves, ?_⟩
      cases now with
      | nil =>
          rw [Move.tokens_nil, elifBranches]
          rfl
      | cons first others =>
          have notElif := (leaves.not_isKeyword trailing first rfl).1
          unfold elifBranches
          dsimp only [Move.tokens_nil]
          rw [notElif]
          rfl
  | case2 token tokens isElif => cases parsed
  | case3 token tokens isElif bound inductionHypothesis =>
      obtain ⟨⟨first, remaining⟩, firstParsed, parsed⟩ := Outcome.bind_eq_ok_iff.mp parsed
      obtain ⟨⟨others, last⟩, othersParsed, parsed⟩ := Outcome.bind_eq_ok_iff.mp parsed
      cases parsed
      obtain ⟨newBound, rfl⟩ := Nat.exists_eq_add_of_le' (Nat.lt_of_lt_of_le bound.succ_pos larger)
      have isWhole := leaves.whole (List.cons_ne_nil token tokens)
      subst isWhole
      obtain ⟨left, leftLeaves, firstContinued⟩ :=
        branch_carries trailing newFinish nestedCarries .elifBranch token.position place firstParsed
      obtain ⟨later, laterLeaves, othersContinued⟩ :=
        inductionHypothesis remaining (Nat.le_of_succ_le_succ larger) leftLeaves othersParsed
      refine ⟨later, laterLeaves, ?_⟩
      rw [Move.tokens_cons, elifBranches.eq_3, Token.isKeyword_moved, if_pos isElif]
      rw [Token.position_moved, firstContinued, Outcome.ok_bind]
      dsimp only
      rw [othersContinued]
      rfl
  | case4 bound token tokens notElif =>
      cases parsed
      have isWhole := leaves.whole (List.cons_ne_nil token tokens)
      subst isWhole
      refine ⟨now, leaves_all now _, ?_⟩
      unfold elifBranches
      dsimp only [Move.tokens_cons]
      rw [Token.isKeyword_moved, if_neg notElif]
      rfl

theorem elseBody_carries
    {place : Place} {tokens now rest : List Token} {otherwise : Option (List Statement)}
    (leaves : Leaves tail tokens now)
    (parsed : elseBody nested place tokens = .ok (otherwise, rest)) :
    ∃ later, Leaves tail rest later ∧
      elseBody newNested place (move.tokens tokens now) =
        .ok (Statement.movedOtherwise move.place otherwise, move.tokens rest later) := by
  cases tokens with
  | nil =>
      cases parsed
      refine ⟨now, leaves, ?_⟩
      cases now with
      | nil => rfl
      | cons first others =>
          have notElse := (leaves.not_isKeyword trailing first rfl).2
          rw [Move.tokens_nil, elseBody, notElse]
          rfl
  | cons token tokens =>
      have isWhole := leaves.whole (List.cons_ne_nil token tokens)
      subst isWhole
      rw [elseBody] at parsed
      rw [Move.tokens_cons, elseBody, Token.isKeyword_moved]
      split at parsed
      · next isElse =>
          obtain ⟨⟨inner, remaining⟩, bodyParsed, parsed⟩ := Outcome.bind_eq_ok_iff.mp parsed
          cases parsed
          obtain ⟨later, laterLeaves, continued⟩ :=
            body_carries trailing nestedCarries .elseBranch token.position
              (move.place token.position) place bodyParsed
          refine ⟨later, laterLeaves, ?_⟩
          rw [if_pos isElse, Token.position_moved, continued]
          rfl
      · next notElse =>
          cases parsed
          refine ⟨now, leaves_all now _, ?_⟩
          rw [if_neg notElse]
          rfl

theorem condition_carries (opening : Position) (place : Place) :
    (condition finish nested opening place).Carries move tail
      (condition newFinish newNested (move.place opening) place) (Statement.moved move.place) := by
  intro tokens rest statement parsed
  obtain ⟨⟨first, afterFirst⟩, firstParsed, parsed⟩ := Outcome.bind_eq_ok_iff.mp parsed
  obtain ⟨⟨others, afterOthers⟩, othersParsed, parsed⟩ := Outcome.bind_eq_ok_iff.mp parsed
  obtain ⟨⟨otherwise, remaining⟩, otherwiseParsed, parsed⟩ := Outcome.bind_eq_ok_iff.mp parsed
  cases parsed
  obtain ⟨firstTail, firstLeaves, firstContinued⟩ :=
    branch_carries trailing newFinish nestedCarries .ifBranch opening place firstParsed
  have larger : afterFirst.length ≤ (move.tokens afterFirst firstTail).length := by simp
  obtain ⟨othersTail, othersLeave, othersContinued⟩ :=
    elifBranches_carries trailing newFinish nestedCarries larger firstLeaves othersParsed
  obtain ⟨later, leaves, otherwiseContinued⟩ :=
    elseBody_carries trailing nestedCarries othersLeave otherwiseParsed
  refine ⟨later, leaves, ?_⟩
  unfold condition
  rw [firstContinued, Outcome.ok_bind]
  dsimp only
  rw [othersContinued, Outcome.ok_bind]
  dsimp only
  rw [otherwiseContinued]
  rfl

/-! ## Zoops -/

omit trailing nestedCarries in
theorem parameter_continues (move : Move) (tail : List Token) (finish newFinish : Position) :
    (parameter finish).Continues move tail (parameter newFinish) id := by
  intro tokens rest taken parsed
  obtain ⟨⟨name, remaining⟩, nameParsed, parsed⟩ := Outcome.bind_eq_ok_iff.mp parsed
  obtain ⟨subject, named, parsed⟩ := Outcome.bind_eq_ok_iff.mp parsed
  unfold parameter
  rw [expectKind_continues nameParsed, Outcome.ok_bind]
  dsimp only at parsed ⊢
  rw [variableOf_moved named, Outcome.ok_bind]
  split at parsed
  · cases parsed
  · next immutable =>
      obtain ⟨⟨colon, remaining⟩, colonParsed, parsed⟩ := Outcome.bind_eq_ok_iff.mp parsed
      obtain ⟨⟨type, remaining⟩, typeParsed, parsed⟩ := Outcome.bind_eq_ok_iff.mp parsed
      cases parsed
      rw [if_neg immutable, expectKind_continues colonParsed, Outcome.ok_bind]
      dsimp only
      rw [expectType_continues typeParsed]
      rfl

omit nestedCarries in
theorem parameters_continues
    (finish newFinish : Position) {bound newBound : Nat} (larger : bound ≤ newBound) :
    (parameters finish bound).Continues move tail (parameters newFinish newBound) id := by
  intro tokens rest taken parsed
  fun_induction parameters finish bound tokens generalizing newBound rest taken with
  | case1 bound =>
      cases parsed
      rcases trailing.nil_or_newLine with rfl | ⟨token, others, rfl, isNewLine, _⟩
      · rw [Move.tokens_nil, parameters]
        rfl
      · have ends : endsParameters token = true := by simp [endsParameters, isNewLine]
        unfold parameters
        dsimp only [Move.tokens_nil]
        rw [if_pos ends]
        rfl
  | case2 bound token tokens ends =>
      cases parsed
      have ends : endsParameters (token.moved move) = true := ends
      unfold parameters
      dsimp only [Move.tokens_cons]
      rw [if_pos ends]
      rfl
  | case3 token tokens goesOn => cases parsed
  | case4 token tokens goesOn bound inductionHypothesis =>
      obtain ⟨⟨first, remaining⟩, firstParsed, parsed⟩ := Outcome.bind_eq_ok_iff.mp parsed
      obtain ⟨⟨others, last⟩, othersParsed, parsed⟩ := Outcome.bind_eq_ok_iff.mp parsed
      cases parsed
      obtain ⟨newBound, rfl⟩ := Nat.exists_eq_add_of_le' (Nat.lt_of_lt_of_le bound.succ_pos larger)
      have goesOn : ¬endsParameters (token.moved move) = true := goesOn
      have firstContinued := parameter_continues move tail finish newFinish firstParsed
      have othersContinued :=
        inductionHypothesis remaining (Nat.le_of_succ_le_succ larger) othersParsed
      rw [Move.tokens_cons] at firstContinued
      rw [Move.tokens_cons, parameters.eq_3, if_neg goesOn, firstContinued, Outcome.ok_bind]
      dsimp only
      rw [othersContinued]
      rfl

omit trailing nestedCarries in
theorem routineLabel_continues (finish newFinish : Position) :
    (routineLabel finish).Continues move tail (routineLabel newFinish) id := by
  intro tokens rest text parsed
  obtain ⟨⟨label, remaining⟩, labelParsed, parsed⟩ := Outcome.bind_eq_ok_iff.mp parsed
  unfold routineLabel
  rw [expect_continues (fun _ => rfl) labelParsed, Outcome.ok_bind]
  dsimp only at parsed ⊢
  rw [Token.value_moved]
  split at parsed
  · cases parsed
    rfl
  · cases parsed

omit nestedCarries in
theorem returnType_continues (finish newFinish : Position) :
    (returnType finish).Continues move tail (returnType newFinish) id := by
  intro tokens rest type parsed
  unfold returnType at parsed ⊢
  rw [nextIs_continues trailing (by decide)]
  split at parsed
  · next hasColon =>
      obtain ⟨⟨named, remaining⟩, typeParsed, parsed⟩ := Outcome.bind_eq_ok_iff.mp parsed
      cases parsed
      rw [if_pos hasColon, tail_of_nextIs hasColon, expectType_continues typeParsed]
      rfl
  · next noColon =>
      cases parsed
      rw [if_neg noColon]
      rfl

theorem routine_carries (opening : Position) :
    (routine finish nested opening).Carries move tail
      (routine newFinish newNested (move.place opening)) (Statement.moved move.place) := by
  intro tokens rest statement parsed
  obtain ⟨⟨type, afterType⟩, typeParsed, parsed⟩ := Outcome.bind_eq_ok_iff.mp parsed
  obtain ⟨⟨text, afterLabel⟩, labelParsed, parsed⟩ := Outcome.bind_eq_ok_iff.mp parsed
  obtain ⟨⟨arrow, afterArrow⟩, arrowParsed, parsed⟩ := Outcome.bind_eq_ok_iff.mp parsed
  obtain ⟨⟨taken, afterHead⟩, parametersParsed, parsed⟩ := Outcome.bind_eq_ok_iff.mp parsed
  obtain ⟨⟨inner, afterBody⟩, bodyParsed, parsed⟩ := Outcome.bind_eq_ok_iff.mp parsed
  cases parsed
  have larger : afterArrow.length ≤ (move.tokens afterArrow tail).length := by simp
  obtain ⟨later, leaves, bodyContinued⟩ :=
    body_carries trailing nestedCarries .zoop opening (move.place opening) .body bodyParsed
  refine ⟨later, leaves, ?_⟩
  unfold routine
  rw [returnType_continues trailing finish newFinish typeParsed, Outcome.ok_bind]
  dsimp only
  rw [routineLabel_continues finish newFinish labelParsed, Outcome.ok_bind]
  dsimp only
  rw [expectKind_continues arrowParsed, Outcome.ok_bind]
  dsimp only
  rw [parameters_continues trailing finish newFinish larger parametersParsed, Outcome.ok_bind]
  dsimp only
  rw [bodyContinued]
  rfl

/-! ## Statements -/

theorem statementWith_carries (place : Place) :
    (statementWith finish nested place).Carries move tail
      (statementWith newFinish newNested place) (Statement.moved move.place) := by
  intro tokens rest statement parsed
  cases tokens with
  | nil => cases parsed
  | cons token tokens =>
      rw [statementWith] at parsed
      rw [Move.tokens_cons, statementWith]
      by_cases opens : token.kind = .blockOpen
      · rw [if_pos opens] at parsed
        rw [if_pos (show (token.moved move).kind = .blockOpen from opens)]
        obtain ⟨⟨inner, remaining⟩, innerParsed, parsed⟩ := Outcome.bind_eq_ok_iff.mp parsed
        cases parsed
        have larger : tokens.length + 1 ≤ (move.tokens tokens tail).length + 1 := by simp
        have continued :=
          blockStatements_continues nestedCarries token.position (move.place token.position)
            place.inside larger innerParsed
        refine ⟨tail, leaves_all tail rest, ?_⟩
        rw [Token.position_moved, continued]
        rfl
      rw [if_neg opens] at parsed
      rw [if_neg (show ¬(token.moved move).kind = .blockOpen from opens)]
      by_cases isZoop : token.isKeyword "zoop" = true
      · rw [if_pos isZoop] at parsed
        rw [if_pos (show (token.moved move).isKeyword "zoop" = true from isZoop)]
        split at parsed
        · next atTop =>
            rw [if_pos atTop]
            exact routine_carries trailing nestedCarries token.position parsed
        · cases parsed
      rw [if_neg isZoop] at parsed
      rw [if_neg (show ¬(token.moved move).isKeyword "zoop" = true from isZoop)]
      by_cases isIf : token.isKeyword "if" = true
      · rw [if_pos isIf] at parsed
        rw [if_pos (show (token.moved move).isKeyword "if" = true from isIf)]
        exact condition_carries trailing nestedCarries token.position place.inside parsed
      rw [if_neg isIf] at parsed
      rw [if_neg (show ¬(token.moved move).isKeyword "if" = true from isIf)]
      by_cases isLoop : token.isKeyword "loop" = true
      · rw [if_pos isLoop] at parsed
        rw [if_pos (show (token.moved move).isKeyword "loop" = true from isLoop)]
        obtain ⟨⟨inner, remaining⟩, bodyParsed, parsed⟩ := Outcome.bind_eq_ok_iff.mp parsed
        cases parsed
        obtain ⟨later, leaves, continued⟩ :=
          body_carries trailing nestedCarries .loop token.position (move.place token.position) .loop
            bodyParsed
        refine ⟨later, leaves, ?_⟩
        rw [Token.position_moved, continued]
        rfl
      rw [if_neg isLoop] at parsed
      rw [if_neg (show ¬(token.moved move).isKeyword "loop" = true from isLoop)]
      by_cases isEnd : token.isKeyword "end" = true
      · rw [if_pos isEnd] at parsed
        rw [if_pos (show (token.moved move).isKeyword "end" = true from isEnd)]
        split at parsed
        · next inLoop =>
            cases parsed
            rw [if_pos inLoop]
            exact ⟨tail, leaves_all tail _, rfl⟩
        · cases parsed
      rw [if_neg isEnd] at parsed
      rw [if_neg (show ¬(token.moved move).isKeyword "end" = true from isEnd)]
      by_cases isDe : token.isKeyword "de" = true
      · rw [if_pos isDe] at parsed
        cases parsed
      rw [if_neg isDe] at parsed
      rw [if_neg (show ¬(token.moved move).isKeyword "de" = true from isDe)]
      by_cases isArrow : token.kind = .flowOut
      · rw [if_pos isArrow] at parsed
        rw [if_pos (show (token.moved move).kind = .flowOut from isArrow)]
        cases parsed
        exact ⟨tail, leaves_all tail _, rfl⟩
      · rw [if_neg isArrow] at parsed
        rw [if_neg (show ¬(token.moved move).kind = .flowOut from isArrow)]
        exact ⟨tail, leaves_all tail rest, lineStatement_continues trailing finish newFinish parsed⟩

end Nested

theorem nestedStatement_carries
    (finish newFinish : Position) {depth newDepth : Nat} (deeper : depth ≤ newDepth)
    (place : Place) :
    (nestedStatement finish depth place).Carries move tail
      (nestedStatement newFinish newDepth place) (Statement.moved move.place) := by
  induction depth generalizing newDepth place with
  | zero => exact nofun
  | succ depth inductionHypothesis =>
      obtain ⟨newDepth, rfl⟩ := Nat.exists_eq_add_of_le' (Nat.lt_of_lt_of_le depth.succ_pos deeper)
      apply statementWith_carries trailing
      intro place
      exact inductionHypothesis (Nat.le_of_succ_le_succ deeper) place

/-! ## Programs -/

omit trailing in
theorem topStatements_congr
    (finish : Position) (bound : Nat) {tokens others : List Token}
    (sameLines : skipNewLines tokens = skipNewLines others) :
    topStatements finish bound tokens = topStatements finish bound others := by
  cases bound with
  | zero => rfl
  | succ bound => rw [topStatements, topStatements, sameLines]

/-- The statements of what comes after stand behind those of the tokens before.  The bound is used up
once for each statement and once at the end, which both have in common. -/
theorem topStatements_append
    {finish newFinish : Position} {bound tailBound newBound : Nat} {tokens now : List Token}
    {statements others : List Statement} (larger : bound + tailBound ≤ newBound + 1)
    (tailParsed : ∀ bound, tailBound ≤ bound → topStatements newFinish bound tail = .ok others)
    (leaves : Leaves tail tokens now)
    (parsed : topStatements finish bound tokens = .ok statements) :
    topStatements newFinish newBound (move.tokens tokens now) =
      .ok (Statement.movedAll move.place statements ++ others) := by
  have positive : 0 < tailBound := by
    cases tailBound with
    | zero => exact absurd (tailParsed 0 (Nat.le_refl 0)) nofun
    | succ tailBound => exact Nat.succ_pos tailBound
  induction bound generalizing newBound tokens now statements with
  | zero => cases parsed
  | succ bound inductionHypothesis =>
      rw [topStatements] at parsed
      cases afterLines : skipNewLines tokens with
      | nil =>
          rw [afterLines] at parsed
          cases parsed
          have sameLines : skipNewLines (move.tokens tokens now) = skipNewLines tail := by
            rw [skipNewLines_tokens_of_nil afterLines, leaves.lines]
          rw [topStatements_congr newFinish newBound sameLines]
          exact tailParsed newBound (by omega)
      | cons token rest =>
          rw [afterLines] at parsed
          obtain ⟨⟨first, remaining⟩, firstParsed, parsed⟩ := Outcome.bind_eq_ok_iff.mp parsed
          obtain ⟨later, laterParsed, parsed⟩ := Outcome.bind_eq_ok_iff.mp parsed
          cases parsed
          have isWhole : now = tail := by
            apply leaves.whole
            rintro rfl
            cases afterLines
          subst isWhole
          obtain ⟨newBound, rfl⟩ := Nat.exists_eq_add_of_le' (show 0 < newBound by omega)
          have deeper :
              (token :: rest).length + 1 ≤ (move.tokens (token :: rest) now).length + 1 := by simp
          obtain ⟨left, leftLeaves, firstContinued⟩ :=
            nestedStatement_carries trailing finish newFinish deeper .top firstParsed
          have stillLarger : bound + tailBound ≤ newBound + 1 := by omega
          have laterContinued := inductionHypothesis stillLarger leftLeaves laterParsed
          have newAfterLines := skipNewLines_tokens move now afterLines
          rw [Move.tokens_cons] at newAfterLines firstContinued
          rw [topStatements, newAfterLines]
          dsimp only [statement]
          rw [firstContinued, Outcome.ok_bind]
          dsimp only
          rw [laterContinued]
          rfl

end Carries

/-! ## Branches without a condition -/

theorem tier_eq_error
    {operand : Parser Expression} {tokens : List Token} {error : SyntaxError}
    (fails : operand tokens = .error error) (tiers : Nat) :
    tier operand tiers tokens = .error error := by
  induction tiers with
  | zero => exact fails
  | succ tiers inductionHypothesis => rw [tier, chain, inductionHypothesis, Outcome.error_bind]

/-- No expression starts with a keyword. -/
theorem expression_eq_error
    (finish : Position) {token : Token} (isWord : token.kind = .keyword) (rest : List Token) :
    expression finish (token :: rest) = .error ⟨.invalidExpression, token.position⟩ := by
  apply tier_eq_error
  rw [unary, if_neg (by simp [isWord]), castable, primary, isWord, Outcome.error_bind]

theorem lineStatement_ne_ok
    (finish : Position) {token : Token} (isWord : token.kind = .keyword) (rest : List Token)
    (result : Statement × List Token) : lineStatement finish (token :: rest) ≠ .ok result := by
  intro parsed
  obtain ⟨_, _, parsed⟩ := Outcome.bind_eq_ok_iff.mp parsed
  obtain ⟨_, valueParsed, _⟩ := Outcome.bind_eq_ok_iff.mp parsed
  rw [expression_eq_error finish isWord rest] at valueParsed
  cases valueParsed

/-- No source starts with a branch that belongs to a condition before it. -/
theorem not_branch_of_topStatements
    {finish : Position} {bound : Nat} {tokens : List Token} {statements : List Statement}
    (parsed : topStatements finish bound tokens = .ok statements) :
    ∀ token ∈ (skipNewLines tokens).head?,
      token.isKeyword "elif" = false ∧ token.isKeyword "else" = false := by
  cases afterLines : skipNewLines tokens with
  | nil => exact nofun
  | cons token rest =>
      rintro _ ⟨⟩
      cases bound with
      | zero => cases parsed
      | succ bound =>
          rw [topStatements, afterLines] at parsed
          obtain ⟨result, firstParsed, _⟩ := Outcome.bind_eq_ok_iff.mp parsed
          have notWord : ∀ word, word = "elif" ∨ word = "else" → token.isKeyword word = false := by
            intro word branches
            refine Bool.eq_false_iff.mpr fun isWord => ?_
            simp only [Token.isKeyword, Bool.and_eq_true, beq_iff_eq] at isWord
            obtain ⟨isKeyword, isLexeme⟩ := isWord
            refine lineStatement_ne_ok finish isKeyword rest result ?_
            rw [← firstParsed]
            rcases branches with rfl | rfl <;>
              simp [statement, nestedStatement, statementWith, Token.isKeyword, isKeyword, isLexeme]
          exact ⟨notWord "elif" (.inl rfl), notWord "else" (.inr rfl)⟩

/-! ## Whole sources -/

theorem topStatements_moved
    (move : Move) {finish : Position} (newFinish : Position) {bound newBound : Nat}
    {tokens : List Token} {statements : List Statement} (larger : bound ≤ newBound)
    (parsed : topStatements finish bound tokens = .ok statements) :
    topStatements newFinish newBound (tokens.map (Token.moved move)) =
      .ok (Statement.movedAll move.place statements) := by
  have nothingParsed : ∀ bound, 1 ≤ bound → topStatements newFinish bound [] = .ok [] := by
    intro bound positive
    obtain ⟨bound, rfl⟩ := Nat.exists_eq_add_of_le' positive
    rfl
  have continued :
      topStatements newFinish newBound (move.tokens tokens []) =
        .ok (Statement.movedAll move.place statements ++ []) :=
    topStatements_append trailing_nil (Nat.succ_le_succ larger) nothingParsed
      (leaves_all [] tokens) parsed
  rwa [Move.tokens, List.append_nil, List.append_nil] at continued

theorem significant_moved (move : Move) (tokens : List Token) :
    significant (tokens.map (Token.moved move)) = (significant tokens).map (Token.moved move) :=
  List.filter_map ..

end Zoop.Grammar

namespace Zoop.Program

open Grammar

theorem parse_eq_ok_iff {tokens : List Token} {program : Program} :
    parse tokens = .ok program ↔
      topStatements (finishOf (significant tokens)) ((significant tokens).length + 1)
        (significant tokens) = .ok program.statements := by
  obtain ⟨given⟩ := program
  unfold parse Grammar.program
  dsimp only
  cases topStatements (finishOf (significant tokens)) ((significant tokens).length + 1)
      (significant tokens) with
  | ok statements => simp
  | error | fault | outOfFuel => simp

/-- Tokens at other places are parsed to the program at its other place. -/
theorem parse_moved
    {tokens : List Token} {program : Program} (move : Move) (parsed : parse tokens = .ok program) :
    parse (tokens.map (Token.moved move)) = .ok (program.moved move.place) := by
  rw [parse_eq_ok_iff] at parsed ⊢
  rw [significant_moved, List.length_map]
  exact topStatements_moved move _ (Nat.le_refl _) parsed

/-- The tokens of two sources with a line feed between them are parsed to the statements of both, each
at its other place. -/
theorem parse_append
    {first second : List Token} {firstProgram secondProgram : Program} {lineFeed : Token}
    (firstMove secondMove : Move)
    (isNewLine : lineFeed.kind = .newLine) (noMark : lineFeed.lexeme ≠ "~")
    (firstParsed : parse first = .ok firstProgram)
    (secondParsed : parse second = .ok secondProgram) :
    parse (first.map (Token.moved firstMove) ++ lineFeed :: second.map (Token.moved secondMove)) =
      .ok ⟨(firstProgram.moved firstMove.place).statements ++
        (secondProgram.moved secondMove.place).statements⟩ := by
  rw [parse_eq_ok_iff] at firstParsed secondParsed ⊢
  have kept :
      significant
          (first.map (Token.moved firstMove) ++ lineFeed :: second.map (Token.moved secondMove)) =
        firstMove.tokens (significant first)
          (lineFeed :: (significant second).map (Token.moved secondMove)) := by
    have noComment : lineFeed.isComment = false := by simp [Token.isComment, isNewLine]
    rw [Move.tokens, ← significant_moved, ← significant_moved]
    simp [significant, noComment]
  have afterLine : ∀ others,
      skipNewLines (lineFeed :: others) = skipNewLines others := by
    intro others
    simp [skipNewLines, isNewLine]
  have secondContinued : ∀ finish bound, (significant second).length + 1 ≤ bound →
      topStatements finish bound
          (lineFeed :: (significant second).map (Token.moved secondMove)) =
        .ok (secondProgram.moved secondMove.place).statements := by
    intro finish bound larger
    rw [topStatements_congr finish bound (afterLine _)]
    exact topStatements_moved secondMove finish larger secondParsed
  have trailing : Trailing (lineFeed :: (significant second).map (Token.moved secondMove)) := by
    refine ⟨?_, ?_⟩
    · rintro _ ⟨⟩
      exact ⟨isNewLine, noMark⟩
    · rw [afterLine]
      exact not_branch_of_topStatements
        (topStatements_moved secondMove .start (Nat.le_refl _) secondParsed)
  rw [kept]
  refine topStatements_append trailing ?_ (secondContinued _) (leaves_all _ _) firstParsed
  simp only [Move.length_tokens, List.length_cons, List.length_map]
  omega

end Zoop.Program
