import Zoop.Proofs.Grammar.Sequence
import Zoop.Proofs.Grammar.WalkedExpressions

/-!
# Statements by a cursor

Where the grammar has a place, the cursor has two counters.  A statement settles as the grammar's
statement in the place that the counters say, with the counters as they were; after an error they are
no less than they were, so that what is counted back was counted before.

Statements one after another are read in rounds, each of which takes a token or is the last.
-/

namespace Zoop.Grammar

variable {α β : Type} {tokens : List Token} {current loops blocks : Nat}

/-! ## Lines -/

theorem Walk.slice_bind
    {first last : Nat} (inOrder : first ≤ last) (inRange : last ≤ tokens.length)
    (walker : Walker) (next : List Token → Walk α) :
    (slice tokens first last >>= next) walker =
      next ((tokens.drop first).take (last - first)) walker := by
  apply bind_of_ok
  rw [slice, if_pos ⟨inOrder, inRange⟩]

/-- The line at the cursor is a slice of the tokens. -/
theorem lineStop_reached (within : current ≤ tokens.length) :
    ∃ last, current ≤ last ∧ last ≤ tokens.length ∧
      (tokens.drop current).take (last - current) =
        (tokens.drop current).takeWhile (fun token => !endsLine token) ∧
      ∀ (α : Type) (loops blocks : Nat) (next : Nat → Walk α),
        (Walk.lineStop tokens >>= next) ⟨current, loops, blocks⟩ =
          next last ⟨current, loops, blocks⟩ := by
  have inLine : (tokens.drop current).findIdx endsLine ≤ tokens.length - current := by
    rw [← List.length_drop]
    exact List.findIdx_le_length
  have rest : (tokens.drop current).take (tokens.length - current) = tokens.drop current := by
    rw [← List.length_drop, List.take_length]
  refine ⟨current + (tokens.drop current).findIdx endsLine, Nat.le_add_right _ _, by omega, ?_, ?_⟩
  · rw [List.takeWhile_eq_take_findIdx_not, Nat.add_sub_cancel_left]
    simp only [Bool.not_not]
  · intro α loops blocks next
    apply Walk.bind_of_ok
    rw [Walk.lineStop, Walk.cursor_bind, Walk.slice_bind within (Nat.le_refl _), rest]
    cases found : (tokens.drop current).findIdx? endsLine with
    | none =>
        rw [List.findIdx?_eq_none_iff_findIdx_eq] at found
        rw [found, List.length_drop, Nat.add_sub_cancel' within]
        rfl
    | some index =>
        rw [List.findIdx?_eq_some_iff_findIdx_eq] at found
        rw [found.2]
        rfl

/-- A kind of token is not in a line, or it is there first at an index. -/
theorem arrow_cases (slice : List Token) (kind : TokenKind) :
    (slice.findIdx? (fun token => token.kind == kind) = none ∧
      slice.dropWhile (fun token => token.kind != kind) = []) ∨
    ∃ index arrow, slice.findIdx? (fun token => token.kind == kind) = some index ∧
      slice.dropWhile (fun token => token.kind != kind) = arrow :: slice.drop (index + 1) ∧
      (∀ walker, Walk.tokenAt slice index walker = (.ok arrow, walker)) ∧ index < slice.length := by
  rw [List.dropWhile_eq_drop_findIdx_not]
  simp only [bne, Bool.not_not]
  cases found : slice.findIdx? fun token => token.kind == kind with
  | none =>
      rw [List.findIdx?_eq_none_iff_findIdx_eq] at found
      exact .inl ⟨rfl, by rw [found, List.drop_length]⟩
  | some index =>
      obtain ⟨less, same⟩ := List.findIdx?_eq_some_iff_findIdx_eq.1 found
      refine .inr ⟨index, slice[index], rfl, ?_, ?_, less⟩
      · rw [same, List.drop_eq_getElem_cons less]
      · intro walker
        rw [Walk.tokenAt, List.getElem?_eq_getElem less]
        rfl

/-- Both find the same arrow, or both refuse the line. -/
theorem lineArrow_cases (line : List Token) :
    (∃ arrow, lineArrow line = .ok arrow ∧
      ∀ walker, Walk.lineArrow line walker = (.ok arrow, walker)) ∨
    ∃ cause position, lineArrow line = .error ⟨cause, position⟩ ∧
      ∀ walker, Walk.lineArrow line walker = Walk.refuse cause position walker := by
  unfold lineArrow Walk.lineArrow
  rcases arrow_cases line .output with
    ⟨noPrint, noPrintRest⟩ | ⟨printIndex, print, isPrint, printRest, printAt, printLess⟩
  · rcases arrow_cases line .flowOut with
      ⟨noReturn, noReturnRest⟩ | ⟨index, arrow, isReturn, returnRest, returnAt, less⟩
    · refine .inl ⟨none, ?_, ?_⟩
      · simp only [noPrintRest, noReturnRest]
      · simp only [noPrint, noReturn]
        exact fun _ => rfl
    · by_cases last : index + 1 = line.length
      · refine .inl ⟨some .flowOut, ?_, ?_⟩
        · rw [last, List.drop_length] at returnRest
          simp only [noPrintRest, returnRest]
        · simp only [noPrint, isReturn, last, ne_eq, not_true_eq_false, if_false]
          exact fun _ => rfl
      · refine .inr ⟨.returnNotAtLineEnd, arrow.position, ?_, ?_⟩
        · rw [List.drop_eq_getElem_cons (by omega)] at returnRest
          simp only [noPrintRest, returnRest]
        · simp only [noPrint, isReturn, last, ne_eq, not_false_eq_true, if_true]
          intro walker
          rw [Walk.bind_of_ok (returnAt walker)]
  · rcases arrow_cases line .flowOut with
      ⟨noReturn, noReturnRest⟩ | ⟨index, arrow, isReturn, returnRest, returnAt, less⟩
    · by_cases last : printIndex + 1 = line.length
      · refine .inl ⟨some .output, ?_, ?_⟩
        · rw [last, List.drop_length] at printRest
          simp only [noReturnRest, printRest]
        · simp only [isPrint, noReturn, last, ne_eq, not_true_eq_false, if_false]
          exact fun _ => rfl
      · refine .inr ⟨.printNotAtLineEnd, print.position, ?_, ?_⟩
        · rw [List.drop_eq_getElem_cons (by omega)] at printRest
          simp only [noReturnRest, printRest]
        · simp only [isPrint, noReturn, last, ne_eq, not_false_eq_true, if_true]
          intro walker
          rw [Walk.bind_of_ok (printAt walker)]
    · refine .inr ⟨.printAndReturn, arrow.position, ?_, ?_⟩
      · simp only [printRest, returnRest]
      · simp only [isPrint, isReturn]
        intro walker
        rw [Walk.bind_of_ok (returnAt walker)]

theorem lineStatement_settles
    {fuel : Nat} (within : current ≤ tokens.length) (enough : tokens.length < current + fuel) :
    Settles tokens current loops blocks 1
      (lineStatement (finishOf tokens) (tokens.drop current))
      (Walk.lineStatement tokens fuel ⟨current, loops, blocks⟩) := by
  obtain ⟨last, inOrder, inRange, line, reached⟩ := lineStop_reached within
  rw [Walk.lineStatement, reached, Walk.cursor_bind, Walk.slice_bind inOrder inRange, line,
    lineStatement]
  rcases lineArrow_cases ((tokens.drop current).takeWhile fun token => !endsLine token) with
    ⟨arrow, found, walks⟩ | ⟨cause, position, refused, walks⟩
  · rw [found, Outcome.ok_bind, Walk.bind_of_ok (walks _)]
    refine (expression_settles within enough).bind ?_
    intro value later _ withinLater
    cases arrow with
    | none => exact .stay _ withinLater
    | some kind =>
        simp only [Walk.errorPosition_bind _ withinLater, Walk.peek_bind, Walk.expectKind, expectKind,
          List.head?_drop]
        rcases expect_cases (fun token => token.kind == kind) withinLater with
          ⟨token, rest, withinNext, taken⟩ | refused
        · rw [(taken _ loops blocks).1, Walk.bind_of_ok (taken _ loops blocks).2, Outcome.ok_bind, rest]
          dsimp only
          split <;> exact .ok (Nat.le_succ _) withinNext
        · rw [(refused _ loops blocks).1, Walk.bind_of_error (refused _ loops blocks).2,
            Outcome.error_bind]
          exact .refuse _ _ (Nat.le_refl _) withinLater
  · rw [refused, Outcome.error_bind, Walk.bind_of_error (walks _)]
    exact .refuse _ _ (Nat.le_refl _) within

/-! ## Statements one after another -/

/-- The place of a statement in so many loops and so many bodies. -/
def placeIn (loops blocks : Nat) : Place :=
  if blocks = 0 then .top else if loops = 0 then .body else .loop

theorem placeIn_deeper {loops blocks : Nat} (balanced : loops ≤ blocks) :
    placeIn loops (blocks + 1) = (placeIn loops blocks).inside := by
  unfold placeIn
  rw [if_neg (Nat.succ_ne_zero blocks)]
  by_cases atTop : blocks = 0
  · have noLoop : loops = 0 := by omega
    rw [if_pos atTop, if_pos noLoop]
    rfl
  · rw [if_neg atTop]
    split <;> rfl

theorem placeIn_eq_top : placeIn loops blocks = .top ↔ blocks = 0 := by
  unfold placeIn
  split
  · next atTop => simp [atTop]
  · next deeper => split <;> simp [deeper]

theorem placeIn_eq_loop (balanced : loops ≤ blocks) : placeIn loops blocks = .loop ↔ loops ≠ 0 := by
  unfold placeIn
  split
  · next atTop =>
      have noLoop : loops = 0 := by omega
      simp [noLoop]
  · split
    · next noLoop => simp [noLoop]
    · next inLoop => simp [inLoop]

/-- A walk of statements does as a parser of them does, in the place that the counters say. -/
def StatementFollows (tokens : List Token) (size : Nat) (walk : Walk Statement)
    (nested : StatementParser) : Prop :=
  ∀ current loops blocks : Nat, loops ≤ blocks → current ≤ tokens.length →
    tokens.length < current + size →
    Settles tokens current loops blocks 1
      (nested (placeIn loops blocks) (tokens.drop current)) (walk ⟨current, loops, blocks⟩)

/-- What is done next where statements are read one after another: a line feed is left out, the reading
stops, or one statement is read. -/
inductive Round (tokens : List Token) (current loops blocks : Nat)
    (walk : Walk Statement) (nested : Parser Statement)
    (walkAll : Nat → Walk (List Statement)) (parseAll : Nat → Parser (List Statement))
    (fuel bound : Nat) : Prop where
  | skips
      (less : current < tokens.length)
      (parses :
        parseAll (bound + 1) (tokens.drop current) = parseAll (bound + 1) (tokens.drop (current + 1)))
      (walks :
        walkAll (fuel + 1) ⟨current, loops, blocks⟩ = walkAll fuel ⟨current + 1, loops, blocks⟩)
  | stops
      (settles : Settles tokens current loops blocks 0
        (parseAll (bound + 1) (tokens.drop current)) (walkAll (fuel + 1) ⟨current, loops, blocks⟩))
  | takes
      (parses :
        parseAll (bound + 1) (tokens.drop current) = do
          let (first, rest) ← nested (tokens.drop current)
          let (others, rest) ← parseAll bound rest
          return (first :: others, rest))
      (walks :
        walkAll (fuel + 1) ⟨current, loops, blocks⟩ =
          (do
            let first ← walk
            let others ← walkAll fuel
            return first :: others : Walk (List Statement)) ⟨current, loops, blocks⟩)

/-- Each round that goes on takes a token, so the rounds come to an end. -/
theorem rounds_settle
    {size : Nat} {walk : Walk Statement} {nested : StatementParser}
    (nestedFollows : StatementFollows tokens size walk nested) (balanced : loops ≤ blocks)
    {walkAll : Nat → Walk (List Statement)} {parseAll : Nat → Parser (List Statement)}
    (round : ∀ fuel bound current, current ≤ tokens.length →
      Round tokens current loops blocks walk (nested (placeIn loops blocks)) walkAll parseAll
        fuel bound)
    (fuel : Nat) :
    ∀ bound current, current ≤ tokens.length → tokens.length < current + size →
      tokens.length < current + fuel → tokens.length < current + bound →
      Settles tokens current loops blocks 0
        (parseAll bound (tokens.drop current)) (walkAll fuel ⟨current, loops, blocks⟩) := by
  induction fuel with
  | zero =>
      intro bound current within _ enough _
      omega
  | succ fuel inductionHypothesis =>
      intro bound current within inSize enough covered
      cases bound with
      | zero => omega
      | succ bound =>
          cases round fuel bound current within with
          | skips less parses walks =>
              rw [parses, walks]
              exact (inductionHypothesis (bound + 1) (current + 1) less (by omega) (by omega)
                (by omega)).of_next.weaken
          | stops settles => exact settles
          | takes parses walks =>
              rw [parses, walks]
              refine ((nestedFollows current loops blocks balanced within inSize).bind ?_).weaken
              intro first later forward withinLater
              exact .map (first :: ·)
                (inductionHypothesis bound later withinLater (by omega) (by omega) (by omega))

theorem skipNewLines_of_newLine
    {token : Token} (isNewLine : token.kind = .newLine) (rest : List Token) :
    skipNewLines (token :: rest) = skipNewLines rest := by
  simp [skipNewLines, isNewLine]

theorem skipNewLines_of_other
    {token : Token} (notNewLine : token.kind ≠ .newLine) (rest : List Token) :
    skipNewLines (token :: rest) = token :: rest := by
  simp [skipNewLines, notNewLine]

/-! ## Counters -/

namespace Settles

variable {least : Nat} {parsed : Outcome SyntaxError (α × List Token)} {walk : Walk α}

/-- Behind a body the counter is what it was before, and after an error it is no less. -/
theorem leaveBlock
    (settles :
      Settles tokens current loops (blocks + 1) least parsed (walk ⟨current, loops, blocks + 1⟩)) :
    Settles tokens current loops blocks least parsed
      (walk.thenAlways Walk.leaveBlock ⟨current, loops, blocks + 1⟩) := by
  rcases ends : walk ⟨current, loops, blocks + 1⟩ with ⟨outcome, after⟩
  rw [ends] at settles
  rw [Walk.thenAlways, ends]
  cases settles with
  | ok forward within => exact .ok forward within
  | error forward within inLoops inBlocks =>
      obtain ⟨later, afterLoops, afterBlocks⟩ := after
      cases afterBlocks with
      | zero => exact absurd inBlocks (Nat.not_succ_le_zero _)
      | succ afterBlocks =>
          exact .error forward within inLoops (Nat.le_of_succ_le_succ inBlocks)

theorem leaveLoop
    (settles :
      Settles tokens current (loops + 1) blocks least parsed (walk ⟨current, loops + 1, blocks⟩)) :
    Settles tokens current loops blocks least parsed
      (walk.thenAlways Walk.leaveLoop ⟨current, loops + 1, blocks⟩) := by
  rcases ends : walk ⟨current, loops + 1, blocks⟩ with ⟨outcome, after⟩
  rw [ends] at settles
  rw [Walk.thenAlways, ends]
  cases settles with
  | ok forward within => exact .ok forward within
  | error forward within inLoops inBlocks =>
      obtain ⟨later, afterLoops, afterBlocks⟩ := after
      cases afterLoops with
      | zero => exact absurd inLoops (Nat.not_succ_le_zero _)
      | succ afterLoops =>
          exact .error forward within (Nat.le_of_succ_le_succ inLoops) inBlocks

/-- A scope block sets its counter back only where it ends without an error. -/
theorem closeBlock
    (make : α → β)
    (settles :
      Settles tokens current loops (blocks + 1) least parsed (walk ⟨current, loops, blocks + 1⟩)) :
    Settles tokens current loops blocks least
      (parsed >>= fun pair => .ok (make pair.1, pair.2))
      ((do
        let value ← walk
        Walk.leaveBlock
        return make value : Walk β) ⟨current, loops, blocks + 1⟩) := by
  rcases ends : walk ⟨current, loops, blocks + 1⟩ with ⟨outcome, after⟩
  rw [ends] at settles
  cases settles with
  | ok forward within =>
      rw [Walk.bind_of_ok ends]
      exact .ok forward within
  | error forward within inLoops inBlocks =>
      rw [Walk.bind_of_error ends]
      exact .error forward within inLoops (Nat.le_of_succ_le inBlocks)

end Settles

section Nested

variable
    {size : Nat} {walk : Walk Statement} {nested : StatementParser}
    (nestedFollows : StatementFollows tokens size walk nested)

omit nestedFollows in
theorem blockStatements_round
    (opening : Position) (fuel bound : Nat) (within : current ≤ tokens.length) :
    Round tokens current loops blocks walk (nested (placeIn loops blocks))
      (Walk.blockStatements tokens walk opening)
      (blockStatements nested opening (placeIn loops blocks)) fuel bound := by
  rcases next_cases within with ⟨rest, here, atEnd⟩ | ⟨token, rest, here, less⟩
  · apply Round.stops
    rw [Walk.blockStatements, Walk.matchKind_passed (by simp [here]), rest]
    simp only [Bool.false_eq_true, if_false]
    rw [Walk.matchKind_passed (by simp [here])]
    simp only [Bool.false_eq_true, if_false]
    rw [Walk.isAtEnd_of_le (Nat.le_of_eq atEnd.symm)]
    exact .refuse _ _ (Nat.le_refl _) within
  · by_cases isNewLine : token.kind = .newLine
    · apply Round.skips less
      · rw [blockStatements, blockStatements, rest, skipNewLines_of_newLine isNewLine]
      · rw [Walk.blockStatements, Walk.matchKind_taken here isNewLine]
        rfl
    · have walks : Walk.blockStatements tokens walk opening (fuel + 1) ⟨current, loops, blocks⟩ = _ :=
        Walk.matchKind_passed (by simp [here, isNewLine]) _
      have parses :
          blockStatements nested opening (placeIn loops blocks) (bound + 1)
            (tokens.drop current) = _ :=
        blockStatements_succ _ _ _ _ _ _ _ (by rw [rest, skipNewLines_of_other isNewLine])
      simp only [Bool.false_eq_true, if_false] at walks
      by_cases closes : token.kind = .blockClose
      · apply Round.stops
        rw [walks, parses, Walk.matchKind_taken here closes, if_pos (by simp [closes])]
        exact .ok (Nat.le_succ _) less
      · apply Round.takes
        · rw [parses, if_neg (by simp [closes]), rest]
        · rw [walks, Walk.matchKind_passed (by simp [here, closes])]
          simp only [Bool.false_eq_true, if_false]
          rw [Walk.isAtEnd_of_less less]
          rfl

omit nestedFollows in
theorem closedStatements_round
    (construct : Construct) (opening : Position) (fuel bound : Nat) (within : current ≤ tokens.length) :
    Round tokens current loops blocks walk (nested (placeIn loops blocks))
      (Walk.closedStatements tokens walk construct opening)
      (bodyStatements nested construct opening (placeIn loops blocks)) fuel bound := by
  rcases next_cases within with ⟨rest, here, atEnd⟩ | ⟨token, rest, here, less⟩
  · apply Round.stops
    rw [Walk.closedStatements, Walk.matchKind_passed (by simp [here]), rest]
    simp only [Bool.false_eq_true, if_false]
    rw [Walk.isAtEnd_of_le (Nat.le_of_eq atEnd.symm)]
    exact .refuse _ _ (Nat.le_refl _) within
  · by_cases isNewLine : token.kind = .newLine
    · apply Round.skips less
      · rw [bodyStatements, bodyStatements, rest, skipNewLines_of_newLine isNewLine]
      · rw [Walk.closedStatements, Walk.matchKind_taken here isNewLine]
        rfl
    · have walks :
          Walk.closedStatements tokens walk construct opening (fuel + 1) ⟨current, loops, blocks⟩ = _ :=
        Walk.matchKind_passed (by simp [here, isNewLine]) _
      have parses :
          bodyStatements nested construct opening (placeIn loops blocks) (bound + 1)
            (tokens.drop current) = _ :=
        bodyStatements_succ _ _ _ _ _ _ _ _ (by rw [rest, skipNewLines_of_other isNewLine])
      simp only [Bool.false_eq_true, if_false] at walks
      rw [Walk.isAtEnd_of_less less] at walks
      simp only [Bool.false_eq_true, if_false] at walks
      rw [Walk.peek_bind, here, Option.any_some] at walks
      cases closes : token.isKeyword construct.closing with
      | true =>
          apply Round.stops
          rw [walks, parses, closes]
          simp only [if_true]
          rw [Walk.advance_bind here]
          exact .ok (Nat.le_succ _) less
      | false =>
          apply Round.takes
          · rw [parses, closes, rest]
            rfl
          · rw [walks, closes]
            rfl

/-! ## Bodies -/

omit nestedFollows in
theorem lineEnd_settles (construct : Construct) (within : current ≤ tokens.length) :
    Settles tokens current loops blocks 0
      (do
        let rest ← lineEnd construct (tokens.drop current)
        return ((), rest))
      (Walk.lineEnd tokens construct ⟨current, loops, blocks⟩) := by
  have stays : Settles tokens current loops blocks 0 _ _ := .stay () within
  rw [Walk.lineEnd]
  rcases next_cases within with ⟨rest, here, atEnd⟩ | ⟨token, rest, here, less⟩
  · rw [rest] at stays ⊢
    rw [Walk.isAtEnd_of_le (Nat.le_of_eq atEnd.symm)]
    exact stays
  · rw [Walk.isAtEnd_of_less less, rest, lineEnd]
    simp only [Bool.false_eq_true, if_false]
    by_cases isNewLine : token.kind = .newLine
    · rw [Walk.matchKind_taken here isNewLine, if_pos isNewLine]
      exact .ok (Nat.le_succ _) less
    · rw [Walk.matchKind_passed (by simp [here, isNewLine]), if_neg isNewLine]
      simp only [Bool.false_eq_true, if_false]
      rw [Walk.errorPosition_bind _ within, rest]
      exact .refuse _ _ (Nat.le_refl _) within

include nestedFollows

theorem bodyStatements_settles
    {fuel : Nat} (construct : Construct) (opening : Position) (balanced : loops ≤ blocks)
    (within : current ≤ tokens.length) (inSize : tokens.length < current + size)
    (enough : tokens.length < current + fuel) :
    Settles tokens current loops blocks 0
      (body nested construct opening (placeIn loops blocks) (tokens.drop current))
      (Walk.bodyStatements tokens walk fuel construct opening ⟨current, loops, blocks⟩) := by
  rw [Walk.bodyStatements, Walk.matchKind_bind _ within, body]
  split
  · next direct =>
      have withinNext : current + 1 ≤ tokens.length := less_of_nextIs direct
      rw [List.tail_drop]
      have first := nestedFollows (current + 1) loops blocks balanced withinNext (by omega)
      refine (first.bind ?_).of_next.weaken
      intro single later _ withinLater
      obtain ⟨next, forward, withinRest, skipped, moves⟩ := skipKind_moves .newLine withinLater
      simp only [skipped, moves]
      exact .ok forward withinRest
  · have covered := length_le_add_drop tokens current
    simp only [Bool.false_eq_true, if_false]
    refine (rounds_settle nestedFollows balanced
      (fun fuel bound current within => closedStatements_round construct opening fuel bound within)
      fuel _ current within inSize enough (by omega)).bind ?_
    intro statements later _ withinLater
    have settles : Settles tokens later loops blocks 0 _ _ :=
      (lineEnd_settles construct withinLater).map fun _ => statements
    rw [bind_assoc] at settles
    exact settles

/-- The body is read one body deeper, which may be the first body of a loop. -/
theorem body_settles
    {fuel : Nat} (construct : Construct) (opening : Position) (balanced : loops ≤ blocks + 1)
    (within : current ≤ tokens.length) (inSize : tokens.length < current + size)
    (enough : tokens.length < current + fuel) :
    Settles tokens current loops blocks 0
      (body nested construct opening (placeIn loops (blocks + 1)) (tokens.drop current))
      (Walk.body tokens walk fuel construct opening ⟨current, loops, blocks⟩) :=
  (bodyStatements_settles nestedFollows construct opening balanced within inSize enough).leaveBlock

theorem scopeBlock_settles
    {fuel : Nat} {token : Token} (here : tokens[current]? = some token) (balanced : loops ≤ blocks)
    (inSize : tokens.length < current + (size + 1)) (enough : tokens.length < current + fuel) :
    Settles tokens current loops blocks 1
      (do
        let (statements, rest) ←
          blockStatements nested token.position (placeIn loops blocks).inside
            ((tokens.drop (current + 1)).length + 1) (tokens.drop (current + 1))
        return (.block token.position statements, rest))
      (Walk.scopeBlock tokens walk fuel ⟨current, loops, blocks⟩) := by
  have withinNext : current + 1 ≤ tokens.length := (List.getElem?_eq_some_iff.1 here).1
  have covered := length_le_add_drop tokens (current + 1)
  rw [Walk.scopeBlock, Walk.position_bind here, Walk.advance_bind here, ← placeIn_deeper balanced]
  have settles : Settles tokens (current + 1) loops (blocks + 1) 0
      (blockStatements nested token.position (placeIn loops (blocks + 1))
        ((tokens.drop (current + 1)).length + 1) (tokens.drop (current + 1))) _ :=
    rounds_settle nestedFollows (Nat.le_succ_of_le balanced)
      (fun fuel bound current within => blockStatements_round token.position fuel bound within)
      fuel _ _ withinNext (by omega) (by omega) (by omega)
  exact (settles.closeBlock (Statement.block token.position)).of_next

/-! ## Conditions and loops -/

theorem branch_settles
    {fuel : Nat} {token : Token} (construct : Construct) (here : tokens[current]? = some token)
    (balanced : loops ≤ blocks)
    (inSize : tokens.length < current + (size + 1)) (enough : tokens.length < current + fuel) :
    Settles tokens current loops blocks 1
      (branch (finishOf tokens) nested construct token.position (placeIn loops (blocks + 1))
        (tokens.drop (current + 1)))
      (Walk.branch tokens walk fuel construct ⟨current, loops, blocks⟩) := by
  have withinNext : current + 1 ≤ tokens.length := (List.getElem?_eq_some_iff.1 here).1
  rw [Walk.branch, Walk.position_bind here, Walk.advance_bind here]
  refine ((expression_settles withinNext (by omega)).bind ?_).of_next
  intro guard later _ withinLater
  exact (body_settles nestedFollows construct token.position (Nat.le_succ_of_le balanced) withinLater
    (by omega) (by omega)).map (Branch.mk token.position guard)

theorem elifBranches_settles {fuel : Nat} (balanced : loops ≤ blocks) (rounds : Nat) :
    ∀ bound current, current ≤ tokens.length → tokens.length < current + (size + 1) →
      tokens.length < current + fuel → tokens.length < current + rounds →
      tokens.length ≤ current + bound →
      Settles tokens current loops blocks 0
        (elifBranches (finishOf tokens) nested (placeIn loops (blocks + 1)) bound
          (tokens.drop current))
        (Walk.elifBranches tokens walk fuel rounds ⟨current, loops, blocks⟩) := by
  induction rounds with
  | zero =>
      intro bound current within _ _ enough _
      omega
  | succ rounds inductionHypothesis =>
      intro bound current within inSize enough enoughRounds covered
      have stays : Settles tokens current loops blocks 0 _ _ := .stay ([] : List Branch) within
      rw [Walk.elifBranches, Walk.peek_bind]
      rcases next_cases within with ⟨rest, here, _⟩ | ⟨token, rest, here, less⟩
      · rw [rest] at stays ⊢
        rw [here, elifBranches.eq_def]
        exact stays
      · rw [rest] at stays ⊢
        rw [here, elifBranches.eq_def, Option.any_some]
        dsimp only
        split
        · cases bound with
          | zero => omega
          | succ bound =>
              have first := branch_settles nestedFollows .elifBranch here balanced inSize enough
              refine (first.bind ?_).weaken
              intro first later _ withinLater
              exact .map (first :: ·)
                (inductionHypothesis bound later withinLater (by omega) (by omega) (by omega)
                  (by omega))
        · exact stays

theorem elseBody_settles
    {fuel : Nat} (balanced : loops ≤ blocks) (within : current ≤ tokens.length)
    (inSize : tokens.length < current + (size + 1)) (enough : tokens.length < current + fuel) :
    Settles tokens current loops blocks 0
      (elseBody nested (placeIn loops (blocks + 1)) (tokens.drop current))
      (Walk.elseBody tokens walk fuel ⟨current, loops, blocks⟩) := by
  have stays : Settles tokens current loops blocks 0 _ _ :=
    .stay (none : Option (List Statement)) within
  rw [Walk.elseBody, Walk.peek_bind]
  rcases next_cases within with ⟨rest, here, _⟩ | ⟨token, rest, here, less⟩
  · rw [rest] at stays ⊢
    rw [here, elseBody]
    exact stays
  · rw [rest] at stays
    rw [here, Option.any_some]
    split
    · next isElse =>
        rw [Walk.errorPosition_bind _ within, Walk.advance_bind here, rest, elseBody, if_pos isElse]
        have withinNext : current + 1 ≤ tokens.length := less
        exact ((body_settles nestedFollows .elseBranch token.position (Nat.le_succ_of_le balanced)
          withinNext (by omega) (by omega)).map some).of_next.weaken
    · next isElse =>
        rw [rest, elseBody, if_neg isElse]
        exact stays

theorem condition_settles
    {fuel : Nat} {token : Token} (here : tokens[current]? = some token) (balanced : loops ≤ blocks)
    (inSize : tokens.length < current + (size + 1)) (enough : tokens.length < current + fuel) :
    Settles tokens current loops blocks 1
      (condition (finishOf tokens) nested token.position (placeIn loops blocks).inside
        (tokens.drop (current + 1)))
      (Walk.condition tokens walk fuel ⟨current, loops, blocks⟩) := by
  rw [Walk.condition, Walk.position_bind here, ← placeIn_deeper balanced]
  refine (branch_settles nestedFollows .ifBranch here balanced inSize enough).bind ?_
  intro first afterFirst _ withinFirst
  refine (elifBranches_settles nestedFollows balanced fuel _ afterFirst withinFirst (by omega)
    (by omega) (by omega) (length_le_add_drop tokens afterFirst)).bind ?_
  intro others afterOthers _ withinOthers
  exact (elseBody_settles nestedFollows balanced withinOthers (by omega) (by omega)).map
    (Statement.condition token.position first others)

theorem loop_settles
    {fuel : Nat} {token : Token} (here : tokens[current]? = some token) (balanced : loops ≤ blocks)
    (inSize : tokens.length < current + (size + 1)) (enough : tokens.length < current + fuel) :
    Settles tokens current loops blocks 1
      (do
        let (statements, rest) ← body nested .loop token.position .loop (tokens.drop (current + 1))
        return (.loop token.position statements, rest))
      (Walk.loop tokens walk fuel ⟨current, loops, blocks⟩) := by
  have withinNext : current + 1 ≤ tokens.length := (List.getElem?_eq_some_iff.1 here).1
  have inLoop : placeIn (loops + 1) (blocks + 1) = .loop := rfl
  rw [Walk.loop, Walk.position_bind here, Walk.advance_bind here, ← inLoop]
  have settles : Settles tokens (current + 1) (loops + 1) blocks 0 _
      (Walk.body tokens walk fuel .loop token.position ⟨current + 1, loops + 1, blocks⟩) :=
    body_settles nestedFollows .loop token.position (Nat.succ_le_succ balanced) withinNext
      (by omega) (by omega)
  exact (settles.leaveLoop.map (Statement.loop token.position)).of_next

/-! ## Zoops -/

omit nestedFollows in
theorem parameter_settles (within : current ≤ tokens.length) :
    Settles tokens current loops blocks 1
      (parameter (finishOf tokens) (tokens.drop current))
      (Walk.parameter tokens ⟨current, loops, blocks⟩) := by
  refine (expectKind_settles .variable .invalidParameter within).bind ?_
  intro token later _ withinLater
  dsimp only
  rcases variableOf_cases token .invalidParameter with ⟨subject, named, walks⟩ | ⟨unnamed, walks⟩
  · rw [named, Outcome.ok_bind, Walk.bind_of_ok (walks _)]
    split
    · exact .refuse _ _ (Nat.le_refl _) withinLater
    · refine ((expectKind_settles _ _ withinLater).bind ?_).weaken
      intro _ afterColon _ withinColon
      exact ((expectType_settles _ withinColon).map (Parameter.mk subject.name)).weaken
  · rw [unnamed, Outcome.error_bind, Walk.bind_of_error (walks _)]
    exact .refuse _ _ (Nat.le_refl _) withinLater

omit nestedFollows in
theorem parameters_settle (fuel : Nat) :
    ∀ bound current, current ≤ tokens.length → tokens.length < current + fuel →
      tokens.length ≤ current + bound →
      Settles tokens current loops blocks 0
        (parameters (finishOf tokens) bound (tokens.drop current))
        (Walk.parameters tokens fuel ⟨current, loops, blocks⟩) := by
  induction fuel with
  | zero =>
      intro bound current within enough _
      omega
  | succ fuel inductionHypothesis =>
      intro bound current within enough covered
      have stays : Settles tokens current loops blocks 0 _ _ := .stay ([] : List Parameter) within
      rw [Walk.parameters, Walk.peek_bind]
      rcases next_cases within with ⟨rest, here, _⟩ | ⟨token, rest, here, less⟩
      · rw [rest] at stays ⊢
        rw [here, parameters.eq_def]
        exact stays
      · rw [rest] at stays ⊢
        rw [here, parameters.eq_def]
        dsimp only
        split
        · exact stays
        · cases bound with
          | zero => omega
          | succ bound =>
              rw [← rest]
              refine ((parameter_settles within).bind ?_).weaken
              intro first later _ withinLater
              exact .map (first :: ·)
                (inductionHypothesis bound later withinLater (by omega) (by omega))

omit nestedFollows in
theorem returnType_settles (within : current ≤ tokens.length) :
    Settles tokens current loops blocks 0
      (returnType (finishOf tokens) (tokens.drop current))
      (Walk.returnType tokens ⟨current, loops, blocks⟩) := by
  rw [Walk.returnType, Walk.matchKind_bind _ within, returnType]
  split
  · next colon =>
      rw [List.tail_drop]
      exact ((expectType_settles _ (less_of_nextIs colon)).map some).of_next.weaken
  · exact .stay none within

omit nestedFollows in
theorem routineLabel_settles (within : current ≤ tokens.length) :
    Settles tokens current loops blocks 1
      (routineLabel (finishOf tokens) (tokens.drop current))
      (Walk.routineLabel tokens ⟨current, loops, blocks⟩) := by
  refine (expect_settles Token.isLabel .invalidRoutineLabel within).bind ?_
  intro token later _ withinLater
  dsimp only
  cases token.value with
  | none => exact .refuse _ _ (Nat.le_refl _) withinLater
  | some value => exact .stay value.text withinLater

theorem routine_settles
    {fuel : Nat} {token : Token} (here : tokens[current]? = some token)
    (inSize : tokens.length < current + (size + 1)) (enough : tokens.length < current + fuel) :
    Settles tokens current 0 0 1
      (routine (finishOf tokens) nested token.position (tokens.drop (current + 1)))
      (Walk.routine tokens walk fuel ⟨current, 0, 0⟩) := by
  have withinNext : current + 1 ≤ tokens.length := (List.getElem?_eq_some_iff.1 here).1
  rw [Walk.routine, Walk.position_bind here, Walk.advance_bind here]
  refine ((returnType_settles withinNext).bind ?_).of_next
  intro type afterType _ withinType
  refine ((routineLabel_settles withinType).bind ?_).weaken
  intro label afterLabel _ withinLabel
  refine ((expectKind_settles _ _ withinLabel).bind ?_).weaken
  intro _ afterArrow _ withinArrow
  refine (parameters_settle fuel _ afterArrow withinArrow (by omega)
    (length_le_add_drop tokens afterArrow)).bind ?_
  intro taken afterTaken _ withinTaken
  have settles : Settles tokens afterTaken 0 0 0
      (body nested .zoop token.position .body (tokens.drop afterTaken))
      (Walk.body tokens walk fuel .zoop token.position ⟨afterTaken, 0, 0⟩) :=
    body_settles nestedFollows .zoop token.position (Nat.zero_le _) withinTaken
      (by omega) (by omega)
  exact settles.map (Statement.routine token.position label taken type)

/-! ## Statements -/

/-- The counters tell the same places apart that the grammar does. -/
theorem statementWith_follows {fuel : Nat} (enough : size < fuel) :
    StatementFollows tokens (size + 1) (Walk.statementWith tokens walk fuel)
      (statementWith (finishOf tokens) nested) := by
  intro current loops blocks balanced within inSize
  have enoughHere : tokens.length < current + fuel := by omega
  have noFault : ¬ blocks < loops := Nat.not_lt_of_le balanced
  rcases next_cases within with ⟨rest, here, _⟩ | ⟨token, rest, here, less⟩
  · simp only [Walk.statementWith, noFault, if_false, here, Walk.errorPosition_bind _ within, rest]
    exact .refuse _ _ (Nat.le_refl _) within
  · have withinNext : current + 1 ≤ tokens.length := less
    simp only [Walk.statementWith, noFault, if_false, here]
    rw [rest, statementWith]
    split
    · exact scopeBlock_settles nestedFollows here balanced inSize enoughHere
    split
    · by_cases atTop : blocks = 0
      · obtain rfl : loops = 0 := by omega
        rw [if_pos (placeIn_eq_top.2 atTop), atTop, if_neg (Nat.lt_irrefl 0)]
        exact routine_settles nestedFollows here inSize enoughHere
      · rw [if_neg (mt placeIn_eq_top.1 atTop), if_pos (Nat.pos_of_ne_zero atTop)]
        exact .refuse _ _ (Nat.le_refl _) within
    split
    · exact condition_settles nestedFollows here balanced inSize enoughHere
    split
    · exact loop_settles nestedFollows here balanced inSize enoughHere
    split
    · by_cases noLoop : loops = 0
      · rw [if_neg fun inLoop => (placeIn_eq_loop balanced).1 inLoop noLoop, if_pos noLoop]
        exact .refuse _ _ (Nat.le_refl _) within
      · rw [if_pos ((placeIn_eq_loop balanced).2 noLoop), if_neg noLoop, Walk.advance_bind here]
        exact .ok (Nat.le_refl _) withinNext
    split
    · exact .refuse _ _ (Nat.le_refl _) within
    split
    · rw [Walk.advance_bind here]
      exact .ok (Nat.le_refl _) withinNext
    · rw [← rest]
      exact lineStatement_settles within enoughHere

end Nested

theorem nestedStatement_follows (size : Nat) :
    ∀ fuel depth, size ≤ fuel → size ≤ depth →
      StatementFollows tokens size (Walk.statement tokens fuel)
        (nestedStatement (finishOf tokens) depth) := by
  induction size with
  | zero =>
      intro fuel depth _ _ current loops blocks _ within inSize
      omega
  | succ size inductionHypothesis =>
      intro fuel depth enough deep
      cases fuel with
      | zero => omega
      | succ fuel =>
          cases depth with
          | zero => omega
          | succ depth =>
              exact statementWith_follows
                (inductionHypothesis fuel depth (Nat.le_of_succ_le_succ enough)
                  (Nat.le_of_succ_le_succ deep)) enough

theorem statement_settles
    {fuel : Nat} (balanced : loops ≤ blocks) (within : current ≤ tokens.length)
    (enough : tokens.length < current + fuel) :
    Settles tokens current loops blocks 1
      (statement (finishOf tokens) (placeIn loops blocks) (tokens.drop current))
      (Walk.statement tokens fuel ⟨current, loops, blocks⟩) := by
  have covered := length_le_add_drop tokens current
  apply nestedStatement_follows (tokens.length - current + 1) fuel
  · omega
  · omega
  · exact balanced
  · exact within
  · omega

end Zoop.Grammar
