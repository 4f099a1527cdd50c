import Zoop.Proofs.Grammar.TokensTaken
import Zoop.Proofs.Program.Moved

/-!
# Tokens at other places, with more tokens behind them

A parser that accepts tokens accepts them at other places as well, with a larger bound, and also if a
line feed and more tokens come after them.  What it gives is the same at its other place.  Expressions
leave what comes after alone; a statement at the very end may take line feeds from it, as it takes
those that are its own.
-/

namespace Zoop

/-! ## What comes after -/

/-- Tokens at their other places, with others behind them. -/
def Move.tokens (move : Move) (tokens tail : List Token) : List Token :=
  tokens.map (Token.moved move) ++ tail

namespace Move

variable (move : Move) (tail : List Token)

@[simp]
theorem tokens_nil : move.tokens [] tail = tail :=
  rfl

@[simp]
theorem tokens_cons (token : Token) (tokens : List Token) :
    move.tokens (token :: tokens) tail = token.moved move :: move.tokens tokens tail :=
  rfl

@[simp]
theorem length_tokens (tokens : List Token) :
    (move.tokens tokens tail).length = tokens.length + tail.length := by
  rw [Move.tokens, List.length_append, List.length_map]

end Move

namespace Grammar

/-- Tokens that may come after those of a source: none, or a line feed and then the tokens of another
source, which do not go on with the branches of a condition. -/
structure Trailing (tail : List Token) : Prop where
  newLine : ∀ token ∈ tail.head?, token.kind = .newLine ∧ token.lexeme ≠ "~"
  noBranch : ∀ token ∈ (skipNewLines tail).head?,
    token.isKeyword "elif" = false ∧ token.isKeyword "else" = false

theorem trailing_nil : Trailing [] :=
  ⟨nofun, nofun⟩

/-- There is nothing, or a line feed. -/
theorem Trailing.nil_or_newLine {tail : List Token} (trailing : Trailing tail) :
    tail = [] ∨ ∃ token others, tail = token :: others ∧ token.kind = .newLine ∧
      token.lexeme ≠ "~" := by
  cases tail with
  | nil => exact .inl rfl
  | cons token others => exact .inr ⟨token, others, rfl, trailing.newLine token rfl⟩

/-- A parser gives the same for tokens at their other places, and leaves what comes after them. -/
def Parser.Continues
    {α : Type} (move : Move) (tail : List Token) (old new : Parser α) (moved : α → α) : Prop :=
  ∀ {tokens rest : List Token} {value : α}, old tokens = .ok (value, rest) →
    new (move.tokens tokens tail) = .ok (moved value, move.tokens rest tail)

section Continues

variable {move : Move} {tail : List Token} (trailing : Trailing tail)

/-! ## Cursors -/

theorem expect_continues
    {finish newFinish : Position} {accepts : Token → Bool} {cause newCause : SyntaxCause}
    (accepted : ∀ token : Token, accepts (token.moved move) = accepts token) :
    Parser.Continues move tail (expect finish accepts cause) (expect newFinish accepts newCause)
      (Token.moved move) := by
  intro tokens rest token parsed
  obtain ⟨rfl, isAccepted⟩ := expect_eq_ok parsed
  rw [Move.tokens_cons, expect, accepted, if_pos isAccepted]

theorem expectKind_continues
    {finish newFinish : Position} {kind : TokenKind} {cause newCause : SyntaxCause} :
    Parser.Continues move tail (expectKind finish kind cause) (expectKind newFinish kind newCause)
      (Token.moved move) :=
  expect_continues fun _ => rfl

theorem expectType_continues {finish newFinish : Position} {cause newCause : SyntaxCause} :
    Parser.Continues move tail (expectType finish cause) (expectType newFinish newCause) id := by
  intro tokens rest type parsed
  obtain ⟨word, rfl, isType⟩ := expectType_eq_ok parsed
  rw [Move.tokens_cons, expectType, Token.typeKeyword?_moved, isType]
  rfl

theorem variableOf_moved
    {token : Token} {cause : SyntaxCause} {subject : Variable}
    (found : variableOf token cause = .ok subject) :
    variableOf (token.moved move) cause = .ok subject := by
  unfold variableOf at found ⊢
  rw [Token.lexeme_moved]
  split at found
  · cases found
  · split at found
    · cases found
    · next nonempty =>
        cases found
        rw [if_neg nonempty]

include trailing

theorem nextIs_continues {kind : TokenKind} (differs : kind ≠ .newLine) (tokens : List Token) :
    nextIs kind (move.tokens tokens tail) = nextIs kind tokens := by
  cases tokens with
  | nil =>
      rcases trailing.nil_or_newLine with rfl | ⟨token, others, rfl, isNewLine, _⟩
      · rfl
      · simp [nextIs, isNewLine, differs.symm]
  | cons token tokens => rfl

theorem nextIsKeyword_continues (word : String) (tokens : List Token) :
    nextIsKeyword word (move.tokens tokens tail) = nextIsKeyword word tokens := by
  cases tokens with
  | nil =>
      rcases trailing.nil_or_newLine with rfl | ⟨token, others, rfl, isNewLine, _⟩
      · rfl
      · simp [nextIsKeyword, Token.isKeyword, isNewLine]
  | cons token tokens => rfl

omit trailing in
theorem tail_of_nextIs
    {kind : TokenKind} {tokens : List Token} (next : nextIs kind tokens = true) :
    (move.tokens tokens tail).tail = move.tokens tokens.tail tail := by
  obtain ⟨token, rest, rfl, _⟩ := nextIs_eq_true next
  rfl

theorem skipKind_continues {kind : TokenKind} (differs : kind ≠ .newLine) (tokens : List Token) :
    skipKind kind (move.tokens tokens tail) = move.tokens (skipKind kind tokens) tail := by
  unfold skipKind
  rw [nextIs_continues trailing differs]
  split
  · next next => exact tail_of_nextIs next
  · rfl

/-! ## Operators -/

section Operators

variable
    {operand newOperand : Parser Expression}
    (operandContinues : operand.Continues move tail newOperand (Expression.moved move.place))

include operandContinues

theorem chainRest_continues
    {level bound newBound : Nat} {left value : Expression} {tokens rest : List Token}
    (larger : bound ≤ newBound)
    (parsed : chainRest level operand bound left tokens = .ok (value, rest)) :
    chainRest level newOperand newBound (left.moved move.place) (move.tokens tokens tail) =
      .ok (value.moved move.place, move.tokens rest tail) := by
  fun_induction chainRest level operand bound left tokens generalizing newBound with
  | case1 bound left =>
      cases parsed
      rcases trailing.nil_or_newLine with rfl | ⟨token, others, rfl, isNewLine, _⟩
      · rw [Move.tokens_nil, chainRest]
      · have noOperator : operatorAt? level token = none := by simp [operatorAt?, isNewLine]
        rw [Move.tokens_nil, chainRest.eq_2, noOperator]
  | case2 bound left token tokens noOperator =>
      cases parsed
      have noOperator : operatorAt? level (token.moved move) = none := noOperator
      rw [Move.tokens_cons, chainRest.eq_2, noOperator]
  | case3 left token tokens operator found => cases parsed
  | case4 left token tokens operator found bound inductionHypothesis =>
      obtain ⟨⟨right, remaining⟩, rightParsed, parsed⟩ := Outcome.bind_eq_ok_iff.mp parsed
      have found : operatorAt? level (token.moved move) = some operator := found
      obtain ⟨newBound, rfl⟩ := Nat.exists_eq_add_of_le' (Nat.lt_of_lt_of_le bound.succ_pos larger)
      have later := inductionHypothesis right remaining (Nat.le_of_succ_le_succ larger) parsed
      rw [Move.tokens_cons, chainRest.eq_2, found]
      dsimp only
      rw [operandContinues rightParsed, Outcome.ok_bind]
      simpa [Expression.moved] using later

theorem chain_continues (level : Nat) :
    (chain level operand).Continues move tail (chain level newOperand)
      (Expression.moved move.place) := by
  intro tokens rest value parsed
  obtain ⟨⟨left, remaining⟩, leftParsed, parsed⟩ := Outcome.bind_eq_ok_iff.mp parsed
  have larger : remaining.length ≤ (move.tokens remaining tail).length := by simp
  unfold chain
  rw [operandContinues leftParsed, Outcome.ok_bind]
  exact chainRest_continues trailing operandContinues larger parsed

theorem tier_continues (tiers : Nat) :
    (tier operand tiers).Continues move tail (tier newOperand tiers)
      (Expression.moved move.place) := by
  induction tiers with
  | zero => exact operandContinues
  | succ tiers inductionHypothesis =>
      exact chain_continues trailing inductionHypothesis (6 - tiers)

omit operandContinues in
theorem startsCast_continues (tokens : List Token) :
    startsCast (move.tokens tokens tail) = startsCast tokens := by
  rcases tokens with _ | ⟨mark, _ | ⟨word, rest⟩⟩
  · rcases trailing.nil_or_newLine with rfl | ⟨token, others, rfl, _, noMark⟩
    · rfl
    · cases others <;> simp [startsCast, noMark]
  · rcases trailing.nil_or_newLine with rfl | ⟨token, others, rfl, isNewLine, _⟩
    · rfl
    · simp [startsCast, Token.isTypeKeyword, Token.typeKeyword?, isNewLine]
  · rfl

theorem unary_continues :
    (unary operand).Continues move tail (unary newOperand) (Expression.moved move.place) := by
  intro tokens
  induction tokens with
  | nil =>
      intro rest value parsed
      have continued := operandContinues parsed
      rcases trailing.nil_or_newLine with rfl | ⟨token, others, rfl, isNewLine, _⟩
      · exact continued
      · rw [Move.tokens_nil, unary, if_neg (by simp [isNewLine])]
        exact continued
  | cons token tokens inductionHypothesis =>
      intro rest value parsed
      have sameMark : startsCast (token.moved move :: move.tokens tokens tail) =
          startsCast (token :: tokens) :=
        startsCast_continues trailing (token :: tokens)
      rw [unary] at parsed
      rw [Move.tokens_cons, unary, Token.kind_moved, sameMark, Token.lexeme_moved]
      split at parsed
      · next isPrefix =>
          rw [if_pos isPrefix]
          split at parsed
          · cases parsed
          · obtain ⟨⟨inner, remaining⟩, innerParsed, parsed⟩ := Outcome.bind_eq_ok_iff.mp parsed
            cases parsed
            rw [inductionHypothesis innerParsed]
            rfl
      · next noPrefix =>
          rw [if_neg noPrefix]
          exact operandContinues parsed

end Operators

omit trailing in
theorem casts_of_not_startsCast
    (inner : Expression) {tokens : List Token} (noCast : startsCast tokens = false) :
    casts inner tokens = (inner, tokens) := by
  fun_cases casts inner tokens with
  | case1 _ mark word others type isType isMark =>
      simp [startsCast, isMark, Token.isTypeKeyword, isType] at noCast
  | case2 => rfl
  | case3 => rfl

theorem casts_continues
    {inner value : Expression} {tokens rest : List Token}
    (parsed : casts inner tokens = (value, rest)) :
    casts (inner.moved move.place) (move.tokens tokens tail) =
      (value.moved move.place, move.tokens rest tail) := by
  fun_induction casts inner tokens with
  | case1 inner mark word others type isType isMark inductionHypothesis =>
      have later := inductionHypothesis parsed
      rw [Move.tokens_cons, Move.tokens_cons, casts.eq_1, Token.lexeme_moved,
        Token.typeKeyword?_moved, isMark, isType]
      simpa [Expression.moved] using later
  | case2 inner mark word others noCast =>
      cases parsed
      rw [Move.tokens_cons, Move.tokens_cons, casts.eq_1, Token.lexeme_moved,
        Token.typeKeyword?_moved]
      split
      · next type isMark isType => exact absurd isType (noCast type isMark)
      · rfl
  | case3 inner tokens short =>
      have noCast : startsCast tokens = false := by
        rcases tokens with _ | ⟨mark, _ | ⟨word, others⟩⟩
        · rfl
        · rfl
        · exact (short mark word others rfl).elim
      cases parsed
      apply casts_of_not_startsCast
      rw [startsCast_continues trailing, noCast]

/-! ## Primary expressions -/

section Primary

variable
    {finish newFinish : Position} {nested newNested : Parser Expression}
    (nestedContinues : nested.Continues move tail newNested (Expression.moved move.place))

theorem promptLabel?_continues (tokens : List Token) :
    promptLabel? (move.tokens tokens tail) =
      (promptLabel? tokens).map fun found => (found.1, move.tokens found.2 tail) := by
  cases tokens with
  | nil =>
      rcases trailing.nil_or_newLine with rfl | ⟨token, others, rfl, isNewLine, _⟩
      · rfl
      · simp [promptLabel?, Token.isLabel, isNewLine]
  | cons token tokens =>
      rw [Move.tokens_cons, promptLabel?, promptLabel?, Token.isLabel_moved, Token.value_moved]
      split
      · cases token.value <;> rfl
      · rfl

theorem input_continues {position : Position} :
    (input finish position).Continues move tail (input newFinish (move.place position))
      (Expression.moved move.place) := by
  intro tokens rest value parsed
  unfold input at parsed
  extract_lets withPrompt at parsed
  unfold input
  extract_lets newWithPrompt
  -- however the data type is given, the rest of the input is the same
  have prompted : ∀ type remaining, withPrompt (type, remaining) = .ok (value, rest) →
      newWithPrompt (type, move.tokens remaining tail) =
        .ok (value.moved move.place, move.tokens rest tail) := by
    intro type remaining ends
    have samePrompt : promptLabel? (move.tokens remaining tail) = _ :=
      promptLabel?_continues trailing remaining
    cases found : promptLabel? remaining with
    | none =>
        rw [found] at samePrompt
        simp only [withPrompt, found] at ends
        cases ends
        simp only [newWithPrompt, samePrompt]
        rfl
    | some prompt =>
        rw [found] at samePrompt
        simp only [withPrompt, found] at ends
        cases ends
        simp only [newWithPrompt, samePrompt]
        rfl
  rw [nextIs_continues trailing (by decide)]
  split at parsed
  · next hasColon =>
      obtain ⟨⟨type, remaining⟩, typeParsed, ends⟩ := Outcome.bind_eq_ok_iff.mp parsed
      rw [if_pos hasColon, tail_of_nextIs hasColon, expectType_continues typeParsed]
      exact prompted type remaining ends
  · next noColon =>
      rw [if_neg noColon]
      exact prompted .string tokens parsed

theorem startsArgument_continues (tokens : List Token) :
    (move.tokens tokens tail).head?.any startsArgument = tokens.head?.any startsArgument := by
  cases tokens with
  | nil =>
      rcases trailing.nil_or_newLine with rfl | ⟨token, others, rfl, isNewLine, _⟩
      · rfl
      · simp [startsArgument, isNewLine]
  | cons token tokens => rfl

theorem startsAssignment_continues (tokens : List Token) :
    startsAssignment (move.tokens tokens tail) = startsAssignment tokens := by
  match tokens with
  | first :: second :: third :: rest => rfl
  | [first, second] | [first] | [] =>
      rcases trailing.nil_or_newLine with rfl | ⟨token, others, rfl, isNewLine, _⟩
      · rfl
      · cases others <;> simp [startsAssignment, isNewLine]

include nestedContinues

theorem arguments_continues {bound newBound : Nat} (larger : bound ≤ newBound) :
    (arguments nested bound).Continues move tail (arguments newNested newBound)
      (Expression.movedAll move.place) := by
  induction bound generalizing newBound with
  | zero => exact nofun
  | succ bound inductionHypothesis =>
      intro tokens rest values parsed
      obtain ⟨newBound, rfl⟩ := Nat.exists_eq_add_of_le' (Nat.lt_of_lt_of_le bound.succ_pos larger)
      rw [arguments] at parsed ⊢
      rw [startsArgument_continues trailing]
      split at parsed
      · next starts =>
          obtain ⟨⟨first, remaining⟩, firstParsed, parsed⟩ := Outcome.bind_eq_ok_iff.mp parsed
          obtain ⟨⟨others, remaining⟩, othersParsed, parsed⟩ := Outcome.bind_eq_ok_iff.mp parsed
          cases parsed
          have later := inductionHypothesis (Nat.le_of_succ_le_succ larger) othersParsed
          rw [if_pos starts, nestedContinues firstParsed, Outcome.ok_bind]
          dsimp only
          rw [later]
          rfl
      · next ends =>
          cases parsed
          rw [if_neg ends]
          rfl

theorem call_continues (label : Token) :
    (call nested label).Continues move tail (call newNested (label.moved move))
      (Expression.moved move.place) := by
  intro tokens rest value parsed
  obtain ⟨⟨values, remaining⟩, valuesParsed, parsed⟩ := Outcome.bind_eq_ok_iff.mp parsed
  cases parsed
  have larger : tokens.length + 1 ≤ (move.tokens tokens tail).length + 1 := by simp
  unfold call
  rw [arguments_continues trailing nestedContinues larger valuesParsed, Outcome.ok_bind]
  rfl

theorem assignment_continues (name : Token) :
    (assignment finish nested name).Continues move tail
      (assignment newFinish newNested (name.moved move)) (Expression.moved move.place) := by
  intro tokens rest value parsed
  unfold assignment at parsed ⊢
  obtain ⟨subject, named, parsed⟩ := Outcome.bind_eq_ok_iff.mp parsed
  rw [variableOf_moved named, Outcome.ok_bind, nextIs_continues trailing (by decide)]
  split at parsed
  · next isReassigned =>
      rw [if_pos isReassigned]
      split at parsed
      · next mutable =>
          obtain ⟨⟨inner, remaining⟩, innerParsed, parsed⟩ := Outcome.bind_eq_ok_iff.mp parsed
          cases parsed
          rw [if_pos mutable, tail_of_nextIs isReassigned, nestedContinues innerParsed]
          rfl
      · cases parsed
  · next notReassigned =>
      obtain ⟨⟨type, remaining⟩, typeParsed, parsed⟩ := Outcome.bind_eq_ok_iff.mp parsed
      obtain ⟨⟨arrow, remaining⟩, arrowParsed, parsed⟩ := Outcome.bind_eq_ok_iff.mp parsed
      obtain ⟨⟨inner, remaining⟩, innerParsed, parsed⟩ := Outcome.bind_eq_ok_iff.mp parsed
      cases parsed
      rw [if_neg notReassigned, skipKind_continues trailing (by decide),
        expectType_continues typeParsed, Outcome.ok_bind]
      dsimp only
      rw [expectKind_continues arrowParsed, Outcome.ok_bind]
      dsimp only
      rw [nestedContinues innerParsed]
      rfl

theorem primary_continues :
    (primary finish nested).Continues move tail (primary newFinish newNested)
      (Expression.moved move.place) := by
  intro tokens rest value parsed
  cases tokens with
  | nil => cases parsed
  | cons token tokens =>
      rw [Move.tokens_cons, primary, Token.kind_moved, Token.isLabel_moved,
        nextIsKeyword_continues trailing, startsAssignment_continues trailing,
        Token.ofToken?_moved]
      rw [primary] at parsed
      split at parsed
      · split at parsed
        · next isCall =>
            have isDe : nextIsKeyword "de" tokens = true := (Bool.and_eq_true_iff.mp isCall).2
            obtain ⟨word, others, rfl, _⟩ := nextIsKeyword_eq_true isDe
            rw [if_pos isCall]
            exact call_continues trailing nestedContinues token parsed
        · next noCall =>
            rw [if_neg noCall]
            split at parsed
            · cases parsed
              rfl
            · cases parsed
      · exact input_continues trailing parsed
      · split at parsed
        · next starts =>
            rw [if_pos starts]
            exact assignment_continues trailing nestedContinues token parsed
        · next noStart =>
            obtain ⟨subject, named, parsed⟩ := Outcome.bind_eq_ok_iff.mp parsed
            cases parsed
            rw [if_neg noStart, variableOf_moved named]
            rfl
      · obtain ⟨⟨inner, remaining⟩, innerParsed, parsed⟩ := Outcome.bind_eq_ok_iff.mp parsed
        obtain ⟨⟨closing, remaining⟩, closingParsed, parsed⟩ := Outcome.bind_eq_ok_iff.mp parsed
        cases parsed
        dsimp only
        rw [nestedContinues innerParsed, Outcome.ok_bind]
        dsimp only
        rw [expectKind_continues closingParsed]
        rfl
      · cases parsed

theorem castable_continues :
    (castable finish nested).Continues move tail (castable newFinish newNested)
      (Expression.moved move.place) := by
  intro tokens rest value parsed
  obtain ⟨⟨inner, remaining⟩, innerParsed, parsed⟩ := Outcome.bind_eq_ok_iff.mp parsed
  have casted : casts inner remaining = (value, rest) := by
    injection parsed
  unfold castable
  rw [primary_continues trailing nestedContinues innerParsed, Outcome.ok_bind]
  exact congrArg Outcome.ok (casts_continues trailing casted)

end Primary

/-! ## Whole expressions -/

theorem nestedExpression_continues
    (finish newFinish : Position) {depth newDepth : Nat} (deeper : depth ≤ newDepth) :
    (nestedExpression finish depth).Continues move tail (nestedExpression newFinish newDepth)
      (Expression.moved move.place) := by
  induction depth generalizing newDepth with
  | zero => exact nofun
  | succ depth inductionHypothesis =>
      obtain ⟨newDepth, rfl⟩ := Nat.exists_eq_add_of_le' (Nat.lt_of_lt_of_le depth.succ_pos deeper)
      apply tier_continues trailing
      apply unary_continues trailing
      apply castable_continues trailing
      exact inductionHypothesis (Nat.le_of_succ_le_succ deeper)

theorem expression_continues (finish newFinish : Position) :
    (expression finish).Continues move tail (expression newFinish)
      (Expression.moved move.place) := by
  intro tokens rest value parsed
  have deeper : tokens.length + 1 ≤ (move.tokens tokens tail).length + 1 := by simp
  exact nestedExpression_continues trailing finish newFinish deeper parsed

end Continues

end Grammar

end Zoop
