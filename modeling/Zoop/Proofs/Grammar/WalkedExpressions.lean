import Zoop.Proofs.Grammar.Continuation
import Zoop.Proofs.Grammar.Walk

/-!
# Expressions by a cursor

A walk settles as a parser does where both end alike: with the same value, where the cursor stands in
front of the tokens that the parser leaves, or with the same error.  How far the cursor moves is part of
it, so that what a walk takes bounds how often the loop around it goes on.  With more fuel than tokens
the walk of an expression settles as the grammar does, at least one token further.
-/

namespace Zoop.Grammar

variable {α β : Type} {tokens : List Token} {current loops blocks : Nat}

/-! ## The token at the cursor -/

/-- The cursor stands behind the last token, or on a token. -/
theorem next_cases (within : current ≤ tokens.length) :
    (tokens.drop current = [] ∧ tokens[current]? = none ∧ current = tokens.length) ∨
      ∃ token, tokens.drop current = token :: tokens.drop (current + 1) ∧
        tokens[current]? = some token ∧ current < tokens.length := by
  rcases Nat.lt_or_eq_of_le within with less | same
  · refine .inr ⟨tokens[current], ?_, ?_, less⟩
    · exact List.drop_eq_getElem_cons less
    · exact List.getElem?_eq_getElem less
  · refine .inl ⟨?_, ?_, same⟩
    · rw [List.drop_eq_nil_iff]
      omega
    · rw [List.getElem?_eq_none_iff]
      omega

/-- Where a token is next, the cursor can move behind it. -/
theorem next_of_drop {token : Token} {rest : List Token} (next : tokens.drop current = token :: rest) :
    tokens[current]? = some token ∧ current < tokens.length ∧ rest = tokens.drop (current + 1) := by
  have less : current < tokens.length := by
    have nonempty : tokens.drop current ≠ [] := by simp [next]
    rwa [ne_eq, List.drop_eq_nil_iff, Nat.not_le] at nonempty
  rw [List.drop_eq_getElem_cons less, List.cons.injEq] at next
  exact ⟨by rw [List.getElem?_eq_getElem less, next.1], less, next.2.symm⟩

theorem length_le_add_drop (tokens : List Token) (current : Nat) :
    tokens.length ≤ current + (tokens.drop current).length := by
  rw [List.length_drop]
  omega

namespace Walk

theorem bind_of_ok
    {walk : Walk α} {next : α → Walk β} {walker after : Walker} {value : α}
    (ends : walk walker = (.ok value, after)) : (walk >>= next) walker = next value after := by
  show Walk.bind walk next walker = _
  rw [Walk.bind, ends]

theorem bind_of_error
    {walk : Walk α} {next : α → Walk β} {walker after : Walker} {error : SyntaxError}
    (ends : walk walker = (.error error, after)) :
    (walk >>= next) walker = (.error error, after) := by
  show Walk.bind walk next walker = _
  rw [Walk.bind, ends]

theorem pure_walker (value : α) (walker : Walker) :
    (pure value : Walk α) walker = (.ok value, walker) :=
  rfl

theorem lookAhead_bind (offset : Nat) (next : Option Token → Walk α) :
    (lookAhead tokens offset >>= next) ⟨current, loops, blocks⟩ =
      next tokens[current + offset]? ⟨current, loops, blocks⟩ :=
  rfl

/-- The next token, where there is nothing to add to the cursor. -/
theorem peek_bind (next : Option Token → Walk α) :
    (lookAhead tokens 0 >>= next) ⟨current, loops, blocks⟩ =
      next tokens[current]? ⟨current, loops, blocks⟩ :=
  rfl

theorem cursor_bind (next : Nat → Walk α) :
    (cursor >>= next) ⟨current, loops, blocks⟩ = next current ⟨current, loops, blocks⟩ :=
  rfl

theorem isAtEnd_bind (next : Bool → Walk α) :
    (isAtEnd tokens >>= next) ⟨current, loops, blocks⟩ =
      next (decide (tokens.length ≤ current)) ⟨current, loops, blocks⟩ :=
  rfl

theorem isAtEnd_of_less (less : current < tokens.length) (next : Bool → Walk α) :
    (isAtEnd tokens >>= next) ⟨current, loops, blocks⟩ = next false ⟨current, loops, blocks⟩ := by
  rw [isAtEnd_bind, decide_eq_false (Nat.not_le_of_lt less)]

theorem isAtEnd_of_le (atEnd : tokens.length ≤ current) (next : Bool → Walk α) :
    (isAtEnd tokens >>= next) ⟨current, loops, blocks⟩ = next true ⟨current, loops, blocks⟩ := by
  rw [isAtEnd_bind, decide_eq_true atEnd]

theorem step_of_less (less : current < tokens.length) :
    step tokens ⟨current, loops, blocks⟩ = (.ok (), ⟨current + 1, loops, blocks⟩) := by
  rw [step, if_pos less]

theorem advance_bind
    {token : Token} (here : tokens[current]? = some token) (next : Option Token → Walk α) :
    (advance tokens >>= next) ⟨current, loops, blocks⟩ =
      next (some token) ⟨current + 1, loops, blocks⟩ := by
  have less : current < tokens.length := (List.getElem?_eq_some_iff.1 here).1
  apply bind_of_ok
  rw [advance, peek_bind, here]
  exact bind_of_ok (step_of_less less)

theorem errorPosition_bind (next : Position → Walk α) (within : current ≤ tokens.length) :
    (errorPosition tokens >>= next) ⟨current, loops, blocks⟩ =
      next (nextPosition (finishOf tokens) (tokens.drop current)) ⟨current, loops, blocks⟩ := by
  apply bind_of_ok
  rw [errorPosition]
  rcases next_cases within with ⟨rest, here, _⟩ | ⟨token, rest, here, _⟩
  · rw [rest, here]
    rfl
  · rw [rest, here]
    rfl

theorem position_bind
    {token : Token} (here : tokens[current]? = some token) (next : Position → Walk α) :
    (errorPosition tokens >>= next) ⟨current, loops, blocks⟩ =
      next token.position ⟨current, loops, blocks⟩ := by
  apply bind_of_ok
  rw [errorPosition, here]
  rfl

end Walk

/-! ## Walks that do as parsers do -/

/-- A walk has ended as a parser of the tokens from the cursor on ends: with the same value, some tokens
further and with the counters as they were, or with the same error, not further back and in no fewer
loops and bodies. -/
inductive Settles (tokens : List Token) (current loops blocks least : Nat) :
    Outcome SyntaxError (α × List Token) → Outcome SyntaxError α × Walker → Prop where
  | ok {value : α} {next : Nat}
      (forward : current + least ≤ next)
      (within : next ≤ tokens.length) :
      Settles tokens current loops blocks least
        (.ok (value, tokens.drop next)) (.ok value, ⟨next, loops, blocks⟩)
  | error {error : SyntaxError} {after : Walker}
      (forward : current ≤ after.current)
      (within : after.current ≤ tokens.length)
      (inLoops : loops ≤ after.loopDepth)
      (inBlocks : blocks ≤ after.blockDepth) :
      Settles tokens current loops blocks least (.error error) (.error error, after)

namespace Settles

variable {parsed : Outcome SyntaxError (α × List Token)} {least further : Nat}

theorem refuse
    (cause : SyntaxCause) (position : Position) {next : Nat}
    (forward : current ≤ next) (within : next ≤ tokens.length) :
    Settles tokens current loops blocks least
      (.error ⟨cause, position⟩ : Outcome SyntaxError (α × List Token))
      (Walk.refuse cause position ⟨next, loops, blocks⟩) :=
  .error forward within (Nat.le_refl _) (Nat.le_refl _)

theorem stay (value : α) (within : current ≤ tokens.length) :
    Settles tokens current loops blocks 0
      (.ok (value, tokens.drop current)) (.ok value, ⟨current, loops, blocks⟩) :=
  .ok (Nat.le_refl _) within

/-- A walk from further on is one from here. -/
theorem of_later
    {ending : Outcome SyntaxError α × Walker} {next : Nat}
    (settles : Settles tokens next loops blocks further parsed ending)
    (forward : current + least ≤ next) :
    Settles tokens current loops blocks least parsed ending := by
  cases settles with
  | ok moved within => exact .ok (Nat.le_trans forward (Nat.le_of_add_right_le moved)) within
  | error moved within inLoops inBlocks =>
      exact .error (Nat.le_trans (Nat.le_of_add_right_le forward) moved) within inLoops inBlocks

theorem of_next
    {ending : Outcome SyntaxError α × Walker}
    (settles : Settles tokens (current + 1) loops blocks further parsed ending) :
    Settles tokens current loops blocks 1 parsed ending :=
  settles.of_later (Nat.le_refl _)

theorem weaken
    {ending : Outcome SyntaxError α × Walker}
    (settles : Settles tokens current loops blocks least parsed ending) :
    Settles tokens current loops blocks 0 parsed ending :=
  settles.of_later (Nat.le_refl _)

theorem bind
    {walk : Walk α} {next : α → Walk β} {start : Walker}
    {continued : α × List Token → Outcome SyntaxError (β × List Token)}
    (first : Settles tokens current loops blocks least parsed (walk start))
    (rest : ∀ value later,
      current + least ≤ later → later ≤ tokens.length →
      Settles tokens later loops blocks 0
        (continued (value, tokens.drop later)) (next value ⟨later, loops, blocks⟩)) :
    Settles tokens current loops blocks least
      (parsed >>= continued) ((walk >>= next) start) := by
  rcases ends : walk start with ⟨outcome, after⟩
  rw [ends] at first
  cases first with
  | @ok value later forward within =>
      rw [Walk.bind_of_ok ends]
      exact (rest value later forward within).of_later forward
  | error forward within inLoops inBlocks =>
      rw [Walk.bind_of_error ends]
      exact .error forward within inLoops inBlocks

/-- What is made of the value takes no token. -/
theorem map
    {walk : Walk α} {start : Walker} (make : α → β)
    (settles : Settles tokens current loops blocks least parsed (walk start)) :
    Settles tokens current loops blocks least
      (parsed >>= fun pair => .ok (make pair.1, pair.2))
      ((walk >>= fun value => pure (make value)) start) :=
  settles.bind fun value _ _ within => .stay (make value) within

end Settles

/-- A walk does as a parser does wherever the cursor has less than so many tokens before it. -/
def Follows (tokens : List Token) (size least : Nat) (walk : Walk α) (parser : Parser α) : Prop :=
  ∀ current loops blocks : Nat, current ≤ tokens.length → tokens.length < current + size →
    Settles tokens current loops blocks least
      (parser (tokens.drop current)) (walk ⟨current, loops, blocks⟩)

/-! ## Tokens that have to be there -/

namespace Walk

theorem expect_of_accepts
    {accepts : Token → Bool} {token : Token} (here : tokens[current]? = some token)
    (accepted : accepts token = true) (cause : SyntaxCause) :
    expect tokens accepts cause ⟨current, loops, blocks⟩ =
      (.ok token, ⟨current + 1, loops, blocks⟩) := by
  have less : current < tokens.length := (List.getElem?_eq_some_iff.1 here).1
  rw [expect, errorPosition_bind _ (Nat.le_of_lt less), peek_bind, here]
  simp only [accepted, if_true]
  exact bind_of_ok (step_of_less less)

theorem expect_of_refuses
    {accepts : Token → Bool} (within : current ≤ tokens.length)
    (refused : ∀ token, tokens[current]? = some token → accepts token = false)
    (cause : SyntaxCause) :
    expect tokens accepts cause ⟨current, loops, blocks⟩ =
      refuse cause (nextPosition (finishOf tokens) (tokens.drop current))
        ⟨current, loops, blocks⟩ := by
  rw [expect, errorPosition_bind _ within, peek_bind]
  rcases next_cases within with ⟨_, here, _⟩ | ⟨token, _, here, _⟩
  · rw [here]
  · rw [here]
    simp [refused token here]

end Walk

/-- Both take the token at the cursor, or both refuse what is there. -/
theorem expect_cases (accepts : Token → Bool) (within : current ≤ tokens.length) :
    (∃ token, tokens.drop current = token :: tokens.drop (current + 1) ∧
      current + 1 ≤ tokens.length ∧
      ∀ cause loops blocks,
        expect (finishOf tokens) accepts cause (tokens.drop current) =
            .ok (token, tokens.drop (current + 1)) ∧
          Walk.expect tokens accepts cause ⟨current, loops, blocks⟩ =
            (.ok token, ⟨current + 1, loops, blocks⟩)) ∨
    ∀ cause loops blocks,
      expect (finishOf tokens) accepts cause (tokens.drop current) =
          .error ⟨cause, nextPosition (finishOf tokens) (tokens.drop current)⟩ ∧
        Walk.expect tokens accepts cause ⟨current, loops, blocks⟩ =
          Walk.refuse cause (nextPosition (finishOf tokens) (tokens.drop current))
            ⟨current, loops, blocks⟩ := by
  rcases next_cases within with ⟨rest, here, _⟩ | ⟨token, rest, here, less⟩
  · refine .inr fun cause loops blocks => ⟨?_, ?_⟩
    · rw [rest]
      rfl
    · exact Walk.expect_of_refuses within (by simp [here]) cause
  · cases accepted : accepts token with
    | true =>
        refine .inl ⟨token, rest, less, fun cause loops blocks => ⟨?_, ?_⟩⟩
        · rw [rest, expect, if_pos accepted]
        · exact Walk.expect_of_accepts here accepted cause
    | false =>
        refine .inr fun cause loops blocks => ⟨?_, ?_⟩
        · rw [rest, expect, if_neg (by simp [accepted])]
          rfl
        · exact Walk.expect_of_refuses within (by simp [here, accepted]) cause

theorem expect_settles
    (accepts : Token → Bool) (cause : SyntaxCause) (within : current ≤ tokens.length) :
    Settles tokens current loops blocks 1
      (expect (finishOf tokens) accepts cause (tokens.drop current))
      (Walk.expect tokens accepts cause ⟨current, loops, blocks⟩) := by
  rcases expect_cases accepts within with ⟨token, _, withinNext, taken⟩ | refused
  · rw [(taken cause loops blocks).1, (taken cause loops blocks).2]
    exact .ok (Nat.le_refl _) withinNext
  · rw [(refused cause loops blocks).1, (refused cause loops blocks).2]
    exact .refuse _ _ (Nat.le_refl _) within

theorem expectKind_settles
    (kind : TokenKind) (cause : SyntaxCause) (within : current ≤ tokens.length) :
    Settles tokens current loops blocks 1
      (expectKind (finishOf tokens) kind cause (tokens.drop current))
      (Walk.expectKind tokens kind cause ⟨current, loops, blocks⟩) :=
  expect_settles _ cause within

theorem Walk.expectType_of_type
    {token : Token} {type : DataType} (here : tokens[current]? = some token)
    (isType : token.typeKeyword? = some type) (cause : SyntaxCause) :
    Walk.expectType tokens cause ⟨current, loops, blocks⟩ =
      (.ok type, ⟨current + 1, loops, blocks⟩) := by
  have accepted : token.isTypeKeyword = true := by
    rw [Token.isTypeKeyword, isType, Option.isSome_some]
  have named : DataType.ofKeyword? token.lexeme = some type := by
    unfold Token.typeKeyword? at isType
    split at isType
    · exact isType
    · cases isType
  rw [Walk.expectType, Walk.bind_of_ok (Walk.expect_of_accepts here accepted cause), named]
  rfl

theorem expectType_settles (cause : SyntaxCause) (within : current ≤ tokens.length) :
    Settles tokens current loops blocks 1
      (expectType (finishOf tokens) cause (tokens.drop current))
      (Walk.expectType tokens cause ⟨current, loops, blocks⟩) := by
  have refuses (noType : ∀ token, tokens[current]? = some token → token.isTypeKeyword = false) :
      Walk.expectType tokens cause ⟨current, loops, blocks⟩ =
        Walk.refuse cause (nextPosition (finishOf tokens) (tokens.drop current))
          ⟨current, loops, blocks⟩ :=
    Walk.bind_of_error (Walk.expect_of_refuses within noType cause)
  rcases next_cases within with ⟨rest, here, _⟩ | ⟨token, rest, here, less⟩
  · rw [refuses (by simp [here]), rest]
    exact .refuse _ _ (Nat.le_refl _) within
  · cases isType : token.typeKeyword? with
    | some type =>
        rw [Walk.expectType_of_type here isType, rest, expectType, isType]
        exact .ok (Nat.le_refl _) less
    | none =>
        rw [refuses (by simp [here, Token.isTypeKeyword, isType]), rest, expectType, isType]
        exact .refuse _ _ (Nat.le_refl _) within

/-! ## Operators -/

theorem chainRest_follows
    {size : Nat} {walk : Walk Expression} {operand : Parser Expression} (level : Nat)
    (operandFollows : Follows tokens size 1 walk operand) (fuel : Nat) :
    ∀ (bound : Nat) (left : Expression) (current : Nat),
      current ≤ tokens.length → tokens.length < current + size →
      tokens.length < current + fuel → tokens.length ≤ current + bound →
      Settles tokens current loops blocks 0
        (chainRest level operand bound left (tokens.drop current))
        (Walk.chainRest tokens level walk fuel left ⟨current, loops, blocks⟩) := by
  induction fuel with
  | zero =>
      intro bound left current within _ enough _
      omega
  | succ fuel inductionHypothesis =>
      intro bound left current within inSize enough covered
      have stays : Settles tokens current loops blocks 0 _ _ := .stay left within
      rw [Walk.chainRest, Walk.peek_bind]
      rcases next_cases within with ⟨rest, here, _⟩ | ⟨token, rest, here, less⟩
      · rw [rest] at stays ⊢
        rw [here, chainRest]
        exact stays
      · rw [rest] at stays ⊢
        rw [here, chainRest]
        cases isOperator : operatorAt? level token with
        | none =>
            simp only [isOperator]
            exact stays
        | some operator =>
            cases bound with
            | zero => omega
            | succ bound =>
                simp only [isOperator, Walk.advance_bind here]
                refine ((operandFollows _ loops blocks less (by omega)).bind ?_).of_next.weaken
                intro right later forward withinLater
                exact inductionHypothesis bound _ later withinLater (by omega) (by omega) (by omega)

theorem tier_follows
    {size fuel : Nat} {walk : Walk Expression} {operand : Parser Expression}
    (enough : size ≤ fuel) (operandFollows : Follows tokens size 1 walk operand) (tiers : Nat) :
    Follows tokens size 1 (Walk.tier tokens fuel walk tiers) (tier operand tiers) := by
  induction tiers with
  | zero => exact operandFollows
  | succ tiers inductionHypothesis =>
      intro current loops blocks within inSize
      rw [Walk.tier, tier, chain]
      refine (inductionHypothesis current loops blocks within inSize).bind ?_
      intro left later forward withinLater
      exact chainRest_follows (6 - tiers) inductionHypothesis fuel _ left later withinLater (by omega)
        (by omega) (length_le_add_drop tokens later)

/-! ## Casts and prefix operators -/

theorem startsCast_eq_true {rest : List Token} (casting : startsCast rest = true) :
    ∃ mark word others type,
      rest = mark :: word :: others ∧ mark.lexeme = "~" ∧ word.typeKeyword? = some type := by
  rcases rest with _ | ⟨mark, _ | ⟨word, others⟩⟩
  · cases casting
  · cases casting
  · rw [startsCast, Bool.and_eq_true, beq_iff_eq, Token.isTypeKeyword,
      Option.isSome_iff_exists] at casting
    obtain ⟨isMark, type, isType⟩ := casting
    exact ⟨mark, word, others, type, rfl, isMark, isType⟩

namespace Walk

theorem isCast_bind (next : Bool → Walk α) :
    (isCast tokens >>= next) ⟨current, loops, blocks⟩ =
      next (startsCast (tokens.drop current)) ⟨current, loops, blocks⟩ := by
  apply bind_of_ok
  have first : tokens[current]? = (tokens.drop current)[0]? := by rw [List.getElem?_drop, Nat.add_zero]
  rw [isCast, peek_bind, lookAhead_bind, first, ← List.getElem?_drop, pure_walker]
  rcases tokens.drop current with _ | ⟨mark, _ | ⟨word, others⟩⟩ <;> simp [startsCast]

end Walk

theorem unary_follows
    {size : Nat} {walk : Walk Expression} {operand : Parser Expression}
    (operandFollows : Follows tokens size 1 walk operand) (fuel : Nat) :
    ∀ current, current ≤ tokens.length → tokens.length < current + size →
      tokens.length < current + fuel →
      Settles tokens current loops blocks 1
        (unary operand (tokens.drop current))
        (Walk.unary tokens walk fuel ⟨current, loops, blocks⟩) := by
  induction fuel with
  | zero =>
      intro current within _ enough
      omega
  | succ fuel inductionHypothesis =>
      intro current within inSize enough
      have operandSettles := operandFollows current loops blocks within inSize
      rw [Walk.unary, Walk.isCast_bind, Walk.peek_bind]
      rcases next_cases within with ⟨rest, here, _⟩ | ⟨token, rest, here, less⟩
      · rw [rest] at operandSettles ⊢
        rw [here, unary]
        exact operandSettles
      · rw [rest] at operandSettles ⊢
        rw [here, unary]
        dsimp only
        split
        · cases UnaryOperator.ofLexeme? token.lexeme with
          | none => exact .refuse _ _ (Nat.le_refl _) within
          | some operator =>
              simp only [Walk.advance_bind here]
              exact (Settles.map (Expression.unary token.position operator)
                (inductionHypothesis _ less (by omega) (by omega))).of_next
        · exact operandSettles

/-- Casts never fail, and take two tokens each. -/
theorem casts_settles (fuel : Nat) :
    ∀ (inner : Expression) (current : Nat), current ≤ tokens.length →
      tokens.length < current + fuel →
      Settles tokens current loops blocks 0
        (.ok (casts inner (tokens.drop current)))
        (Walk.casts tokens fuel inner ⟨current, loops, blocks⟩) := by
  induction fuel with
  | zero =>
      intro inner current within enough
      omega
  | succ fuel inductionHypothesis =>
      intro inner current within enough
      have stays : Settles tokens current loops blocks 0 _ _ := .stay inner within
      rw [Walk.casts, Walk.isCast_bind]
      cases casting : startsCast (tokens.drop current) with
      | false =>
          rw [casts_of_not_startsCast inner casting]
          exact stays
      | true =>
          obtain ⟨mark, word, others, type, rest, isMark, isType⟩ := startsCast_eq_true casting
          obtain ⟨here, less, restBehind⟩ := next_of_drop rest
          obtain ⟨wordHere, wordLess, othersBehind⟩ := next_of_drop restBehind.symm
          rw [rest, casts, othersBehind]
          simp only [isMark, isType, beq_self_eq_true, if_true]
          rw [Walk.advance_bind here, Walk.errorPosition_bind _ less, ← restBehind,
            Walk.bind_of_ok (Walk.expectType_of_type wordHere isType _)]
          exact (inductionHypothesis _ _ wordLess (by omega)).of_later (by omega)

/-! ## Primary expressions -/

theorem less_of_nextIs {kind : TokenKind} (isNext : nextIs kind (tokens.drop current) = true) :
    current < tokens.length := by
  rcases Nat.lt_or_ge current tokens.length with less | atEnd
  · exact less
  · rw [List.drop_eq_nil_of_le atEnd] at isNext
    cases isNext

theorem Walk.matchKind_taken
    {token : Token} {kind : TokenKind} (here : tokens[current]? = some token)
    (isKind : token.kind = kind) (next : Bool → Walk α) :
    (matchKind tokens kind >>= next) ⟨current, loops, blocks⟩ =
      next true ⟨current + 1, loops, blocks⟩ := by
  have less : current < tokens.length := (List.getElem?_eq_some_iff.1 here).1
  apply bind_of_ok
  rw [matchKind, peek_bind, here]
  simp only [isKind, if_true]
  exact bind_of_ok (step_of_less less)

theorem Walk.matchKind_passed
    {kind : TokenKind} (other : ∀ token, tokens[current]? = some token → token.kind ≠ kind)
    (next : Bool → Walk α) :
    (matchKind tokens kind >>= next) ⟨current, loops, blocks⟩ =
      next false ⟨current, loops, blocks⟩ := by
  apply bind_of_ok
  rw [matchKind, peek_bind]
  cases here : tokens[current]? with
  | none => rfl
  | some token =>
      simp only [other token here, if_false]
      rfl

theorem Walk.matchKind_bind
    (kind : TokenKind) (within : current ≤ tokens.length) (next : Bool → Walk α) :
    (matchKind tokens kind >>= next) ⟨current, loops, blocks⟩ =
      if nextIs kind (tokens.drop current) then
        next true ⟨current + 1, loops, blocks⟩
      else
        next false ⟨current, loops, blocks⟩ := by
  rcases next_cases within with ⟨rest, here, _⟩ | ⟨token, rest, here, less⟩
  · rw [matchKind_passed (by simp [here]), rest]
    rfl
  · by_cases isKind : token.kind = kind
    · rw [matchKind_taken here isKind, rest, if_pos (by simp [nextIs, isKind])]
    · rw [matchKind_passed (by simp [here, isKind]), rest, if_neg (by simp [nextIs, isKind])]

/-- Leaving out a token of a kind moves the cursor over it, if it is there. -/
theorem skipKind_moves (kind : TokenKind) (within : current ≤ tokens.length) :
    ∃ next, current ≤ next ∧ next ≤ tokens.length ∧
      skipKind kind (tokens.drop current) = tokens.drop next ∧
      ∀ (α : Type) (loops blocks : Nat) (walk : Walk α),
        (Walk.matchKind tokens kind >>= fun _ => walk) ⟨current, loops, blocks⟩ =
          walk ⟨next, loops, blocks⟩ := by
  cases isNext : nextIs kind (tokens.drop current) with
  | true =>
      refine ⟨current + 1, Nat.le_succ _, less_of_nextIs isNext, ?_, ?_⟩
      · rw [skipKind, if_pos isNext, List.tail_drop]
      · intro α loops blocks walk
        rw [Walk.matchKind_bind _ within, if_pos isNext]
  | false =>
      have notNext : ¬ nextIs kind (tokens.drop current) = true := by simp [isNext]
      refine ⟨current, Nat.le_refl _, within, ?_, ?_⟩
      · rw [skipKind, if_neg notNext]
      · intro α loops blocks walk
        rw [Walk.matchKind_bind _ within, if_neg notNext]

/-- A name is there for both, or for neither. -/
theorem variableOf_cases (token : Token) (cause : SyntaxCause) :
    (∃ subject, variableOf token cause = .ok subject ∧
      ∀ walker, Walk.variableOf token cause walker = (.ok subject, walker)) ∨
    variableOf token cause = .error ⟨cause, token.position⟩ ∧
      ∀ walker, Walk.variableOf token cause walker = Walk.refuse cause token.position walker := by
  unfold variableOf Walk.variableOf
  cases Variable.ofText? token.lexeme with
  | none => exact .inr ⟨rfl, fun _ => rfl⟩
  | some subject =>
      by_cases empty : subject.name.isEmpty = true
      · exact .inr ⟨by simp [empty], by simp [Option.filter, empty]⟩
      · exact .inl ⟨subject, by simp [empty], by simp [Option.filter, empty, Walk.pure_walker]⟩

theorem Walk.isAssignment_bind (next : Bool → Walk α) :
    (isAssignment tokens >>= next) ⟨current, loops, blocks⟩ =
      next (startsAssignment (tokens.drop (current + 1))) ⟨current, loops, blocks⟩ := by
  apply bind_of_ok
  have first : tokens[current + 1]? = (tokens.drop (current + 1))[0]? := by
    rw [List.getElem?_drop]
  have second : tokens[current + 2]? = (tokens.drop (current + 1))[1]? := by
    rw [List.getElem?_drop]
  have third : tokens[current + 3]? = (tokens.drop (current + 1))[2]? := by
    rw [List.getElem?_drop]
  rw [isAssignment, lookAhead_bind, lookAhead_bind, lookAhead_bind, first, second, third, pure_walker]
  rcases tokens.drop (current + 1) with _ | ⟨one, _ | ⟨two, _ | ⟨three, others⟩⟩⟩ <;>
    simp [startsAssignment, Bool.and_assoc]

section Primary

variable
    {size : Nat} {walk : Walk Expression} {nested : Parser Expression}
    (nestedFollows : Follows tokens size 1 walk nested)

include nestedFollows

theorem arguments_settles (fuel : Nat) :
    ∀ bound current, current ≤ tokens.length → tokens.length < current + size →
      tokens.length < current + fuel → tokens.length < current + bound →
      Settles tokens current loops blocks 0
        (arguments nested bound (tokens.drop current))
        (Walk.arguments tokens walk fuel ⟨current, loops, blocks⟩) := by
  induction fuel with
  | zero =>
      intro bound current within _ enough _
      omega
  | succ fuel inductionHypothesis =>
      intro bound current within inSize enough covered
      cases bound with
      | zero => omega
      | succ bound =>
          have first : tokens[current]? = (tokens.drop current).head? := by
            rw [List.head?_drop]
          rw [Walk.arguments, Walk.peek_bind, first, arguments]
          split
          · refine ((nestedFollows current loops blocks within inSize).bind ?_).weaken
            intro value later forward withinLater
            exact .map (value :: ·)
              (inductionHypothesis bound later withinLater (by omega) (by omega) (by omega))
          · exact .stay [] within

theorem call_settles
    {fuel : Nat} (enough : size ≤ fuel) {label : Token} (here : tokens[current]? = some label)
    (inSize : tokens.length < current + (size + 1))
    (isCall : nextIsKeyword "de" (tokens.drop (current + 1)) = true) :
    Settles tokens current loops blocks 1
      (call nested label (tokens.drop (current + 1)).tail)
      (Walk.call tokens walk fuel label ⟨current, loops, blocks⟩) := by
  obtain ⟨word, others, rest⟩ : ∃ word others, tokens.drop (current + 1) = word :: others := by
    cases behind : tokens.drop (current + 1) with
    | nil =>
        rw [behind] at isCall
        cases isCall
    | cons word others => exact ⟨word, others, rfl⟩
  obtain ⟨wordHere, wordLess, othersBehind⟩ := next_of_drop rest
  rw [Walk.call, Walk.advance_bind here, Walk.advance_bind wordHere, rest, List.tail_cons,
    othersBehind, call]
  have covered := length_le_add_drop tokens (current + 1 + 1)
  have settles : Settles tokens (current + 1 + 1) loops blocks 0
      (arguments nested ((tokens.drop (current + 1 + 1)).length + 1) _) _ :=
    arguments_settles nestedFollows fuel _ _ wordLess (by omega) (by omega) (by omega)
  exact (settles.map (Expression.call label.position _)).of_later (by omega)

omit nestedFollows in
theorem inputType_settles (within : current ≤ tokens.length) :
    Settles tokens current loops blocks 0
      (if nextIs .colon (tokens.drop current) then
        expectType (finishOf tokens) .invalidDataType (tokens.drop current).tail
      else
        .ok (.string, tokens.drop current))
      (Walk.inputType tokens ⟨current, loops, blocks⟩) := by
  rw [Walk.inputType, Walk.matchKind_bind _ within]
  split
  · next colon =>
      rw [List.tail_drop]
      exact (expectType_settles _ (less_of_nextIs colon)).of_next.weaken
  · exact .stay _ within

omit nestedFollows in
theorem promptLabel_settles (within : current ≤ tokens.length) :
    Settles tokens current loops blocks 0
      (match promptLabel? (tokens.drop current) with
        | some (prompt, rest) => .ok (some prompt, rest)
        | none => .ok (none, tokens.drop current))
      (Walk.promptLabel tokens ⟨current, loops, blocks⟩) := by
  have stays : Settles tokens current loops blocks 0 _ _ := .stay (none : Option String) within
  rw [Walk.promptLabel, Walk.peek_bind]
  rcases next_cases within with ⟨rest, here, _⟩ | ⟨token, rest, here, less⟩
  · rw [rest] at stays ⊢
    rw [here]
    exact stays
  · rw [rest] at stays ⊢
    rw [here, promptLabel?]
    cases isLabel : token.isLabel with
    | false =>
        simp only [Option.filter, isLabel]
        exact stays
    | true =>
        simp only [Option.filter, isLabel, if_true, Option.bind_some]
        cases token.value with
        | none => exact stays
        | some value =>
            simp only [Option.map_some, Walk.advance_bind here]
            exact .ok (by omega) less

omit nestedFollows in
theorem input_settles {token : Token} (here : tokens[current]? = some token) :
    Settles tokens current loops blocks 1
      (input (finishOf tokens) token.position (tokens.drop (current + 1)))
      (Walk.input tokens ⟨current, loops, blocks⟩) := by
  have withinNext : current + 1 ≤ tokens.length := (List.getElem?_eq_some_iff.1 here).1
  have joined (rest : List Token) :
      input (finishOf tokens) token.position rest =
        (if nextIs .colon rest then
          expectType (finishOf tokens) .invalidDataType rest.tail
        else
          .ok (.string, rest)) >>= fun pair =>
            match promptLabel? pair.2 with
            | some (prompt, rest) => .ok (.input token.position pair.1 (some prompt), rest)
            | none => .ok (.input token.position pair.1 none, pair.2) := by
    unfold input
    split <;> rfl
  rw [Walk.input, Walk.position_bind here, Walk.advance_bind here, joined]
  refine ((inputType_settles withinNext).bind ?_).of_next
  intro type later forward within
  have settles : Settles tokens later loops blocks 0 _ _ :=
    (promptLabel_settles within).map (Expression.input token.position type)
  cases prompted : promptLabel? (tokens.drop later) with
  | none =>
      simp only [prompted] at settles ⊢
      exact settles
  | some found =>
      simp only [prompted] at settles ⊢
      exact settles

theorem assignment_settles
    {token : Token} (here : tokens[current]? = some token)
    (inSize : tokens.length < current + (size + 1)) :
    Settles tokens current loops blocks 1
      (assignment (finishOf tokens) nested token (tokens.drop (current + 1)))
      (Walk.assignment tokens walk ⟨current, loops, blocks⟩) := by
  have withinNext : current + 1 ≤ tokens.length := (List.getElem?_eq_some_iff.1 here).1
  rw [Walk.assignment, Walk.position_bind here, Walk.advance_bind here, assignment]
  dsimp only
  rcases variableOf_cases token .invalidIdentifier with ⟨subject, named, walks⟩ | ⟨unnamed, walks⟩
  · simp only [named, Outcome.ok_bind, Walk.bind_of_ok (walks _), Walk.matchKind_bind _ withinNext]
    split
    · next stored =>
        have withinValue : current + 1 + 1 ≤ tokens.length := less_of_nextIs stored
        simp only [if_true]
        split
        · rw [List.tail_drop]
          exact ((nestedFollows _ loops blocks withinValue (by omega)).map
            (Expression.reassign token.position subject.name)).of_later (by omega)
        · exact .refuse _ _ (by omega) withinValue
    · obtain ⟨next, forward, within, skipped, moves⟩ := skipKind_moves .colon withinNext
      simp only [Bool.false_eq_true, if_false, skipped, moves]
      refine ((expectType_settles _ within).bind ?_).of_later forward
      intro type afterType _ withinType
      refine ((expectKind_settles _ _ withinType).bind ?_).weaken
      intro _ afterArrow _ withinArrow
      exact ((nestedFollows _ loops blocks withinArrow (by omega)).map
        (Expression.declare token.position subject type)).weaken
  · simp only [unnamed, Walk.bind_of_error (walks _)]
    exact .refuse _ _ (by omega) withinNext

theorem primary_follows {fuel : Nat} (enough : size ≤ fuel) :
    Follows tokens (size + 1) 1 (Walk.primary tokens walk fuel)
      (primary (finishOf tokens) nested) := by
  intro current loops blocks within inSize
  rw [Walk.primary, Walk.errorPosition_bind _ within, Walk.peek_bind]
  rcases next_cases within with ⟨rest, here, _⟩ | ⟨token, rest, here, less⟩
  · rw [here, rest]
    exact .refuse _ _ (Nat.le_refl _) within
  · have withinNext : current + 1 ≤ tokens.length := less
    rw [here, rest, primary]
    dsimp only
    generalize token.kind = kind
    cases kind with
    | literal =>
        simp only [Walk.lookAhead_bind, ← List.head?_drop]
        rw [← nextIsKeyword]
        split
        · next isCall =>
            rw [Bool.and_eq_true] at isCall
            exact call_settles nestedFollows enough here inSize isCall.2
        · simp only [Walk.advance_bind here]
          cases Literal.ofToken? token with
          | none => exact .refuse _ _ (Nat.le_succ _) withinNext
          | some value => exact .ok (Nat.le_refl _) withinNext
    | input => exact input_settles here
    | «variable» =>
        simp only [Walk.isAssignment_bind]
        split
        · exact assignment_settles nestedFollows here inSize
        · simp only [Walk.advance_bind here]
          rcases variableOf_cases token .invalidIdentifier with
            ⟨subject, named, walks⟩ | ⟨unnamed, walks⟩
          · simp only [named, Outcome.ok_bind, Walk.bind_of_ok (walks _)]
            exact .ok (Nat.le_refl _) withinNext
          · simp only [unnamed, Outcome.error_bind, Walk.bind_of_error (walks _)]
            exact .refuse _ _ (Nat.le_succ _) withinNext
    | parenOpen =>
        simp only [Walk.advance_bind here]
        refine ((nestedFollows _ loops blocks withinNext (by omega)).bind ?_).of_next
        intro inner later _ withinLater
        exact ((expectKind_settles _ _ withinLater).map fun _ =>
          Expression.grouping token.position inner).weaken
    | _ => exact .refuse _ _ (Nat.le_refl _) within

theorem castable_follows {fuel : Nat} (enough : size < fuel) :
    Follows tokens (size + 1) 1 (Walk.castable tokens walk fuel)
      (castable (finishOf tokens) nested) := by
  intro current loops blocks within inSize
  refine (primary_follows nestedFollows (Nat.le_of_lt enough) current loops blocks within
    inSize).bind ?_
  intro inner later _ withinLater
  exact casts_settles fuel inner later withinLater (by omega)

end Primary

/-! ## Whole expressions -/

theorem nestedExpression_follows (size : Nat) :
    ∀ fuel depth, size ≤ fuel → size ≤ depth →
      Follows tokens size 1 (Walk.expression tokens fuel)
        (nestedExpression (finishOf tokens) depth) := by
  induction size with
  | zero =>
      intro fuel depth _ _ current loops blocks within inSize
      omega
  | succ size inductionHypothesis =>
      intro fuel depth enough deep
      cases fuel with
      | zero => omega
      | succ fuel =>
          cases depth with
          | zero => omega
          | succ depth =>
              have nestedFollows :=
                inductionHypothesis fuel depth (Nat.le_of_succ_le_succ enough)
                  (Nat.le_of_succ_le_succ deep)
              apply tier_follows enough
              intro current loops blocks within inSize
              exact unary_follows (castable_follows nestedFollows enough) (fuel + 1) current within
                inSize (by omega)

theorem expression_settles
    {fuel : Nat} (within : current ≤ tokens.length) (enough : tokens.length < current + fuel) :
    Settles tokens current loops blocks 1
      (expression (finishOf tokens) (tokens.drop current))
      (Walk.expression tokens fuel ⟨current, loops, blocks⟩) := by
  have covered := length_le_add_drop tokens current
  apply nestedExpression_follows (tokens.length - current + 1) fuel
  · omega
  · omega
  · exact within
  · omega

end Zoop.Grammar
