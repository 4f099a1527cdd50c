import Zoop.Proofs.Grammar.Canonical
import Zoop.Proofs.Grammar.Continuation

/-!
# Precedence

An expression that keeps to the levels of precedence is parsed from its tokens: the grammar puts every
operand back where it was, and stops behind the last token.
-/

namespace Zoop

/-! ## Written expressions -/

/-- An expression of literals, variables, groupings, operators and casts is written with these tokens,
from left to right.  Where its nodes are placed does not matter. -/
inductive Expression.Written : Expression → List Token → Prop
  | literal {position : Position} {token : Token} {value : Literal}
      (stands : Literal.ofToken? token = some value) :
      Written (.literal position value) [token]
  | reference {position : Position} {token : Token} {subject : Variable}
      (names : token.Names subject) :
      Written (.variable position subject) [token]
  | grouping {position : Position} {opening closing : Token} {inner : Expression}
      {tokens : List Token}
      (opens : opening.kind = .parenOpen) (innerWritten : inner.Written tokens)
      (closes : closing.kind = .parenClose) (noMark : closing.lexeme ≠ "~") :
      Written (.grouping position inner) (opening :: (tokens ++ [closing]))
  | unary {position : Position} {mark : Token} {operator : UnaryOperator} {operand : Expression}
      {tokens : List Token}
      (isOperator : mark.IsUnary operator) (operandWritten : operand.Written tokens) :
      Written (.unary position operator operand) (mark :: tokens)
  | binary {position operatorPosition : Position} {mark : Token} {operator : BinaryOperator}
      {left right : Expression} {leftTokens rightTokens : List Token}
      (leftWritten : left.Written leftTokens) (isOperator : mark.IsBinary operator)
      (rightWritten : right.Written rightTokens) :
      Written (.binary position operator operatorPosition left right)
        (leftTokens ++ mark :: rightTokens)
  | cast {position : Position} {mark word : Token} {type : DataType} {inner : Expression}
      {tokens : List Token}
      (innerWritten : inner.Written tokens)
      (isOperator : mark.kind = .binaryOperator ∨ mark.kind = .unaryOperator)
      (isMark : mark.lexeme = "~") (isType : word.typeKeyword? = some type) :
      Written (.cast position type inner) (tokens ++ [mark, word])

/-- The token is one of those that an expression ends before: a line feed, an arrow that prints, hands
back or opens a body, or a closing bracket. -/
def Token.EndsExpression (token : Token) : Prop :=
  (token.kind = .newLine ∨ token.kind = .output ∨ token.kind = .flowOut ∨ token.kind = .direct ∨
    token.kind = .parenClose) ∧
  token.lexeme ≠ "~"

/-- The expression without its places. -/
def Expression.unplaced (tree : Expression) : Expression :=
  tree.moved fun _ => .start

theorem Token.kind_of_ofToken?
    {token : Token} {value : Literal} (stands : Literal.ofToken? token = some value) :
    token.kind = .literal := by
  unfold Literal.ofToken? at stands
  split at stands
  · next isLiteral => exact isLiteral
  · cases stands

/-- The first token of an expression is no keyword, and no operator if the root binds most tightly. -/
theorem Expression.Written.head
    {tree : Expression} {taken : List Token} (written : tree.Written taken) :
    ∃ first others, taken = first :: others ∧ first.kind ≠ .keyword ∧
      (tree.isCanonical = true → 7 < tree.tightness → first.kind ≠ .unaryOperator) := by
  induction written with
  | @literal _ token _ stands =>
      have isLiteral := Token.kind_of_ofToken? stands
      exact ⟨token, [], rfl, by simp [isLiteral], fun _ _ => by simp [isLiteral]⟩
  | @reference _ token _ names =>
      exact ⟨token, [], rfl, by simp [names.kind], fun _ _ => by simp [names.kind]⟩
  | @grouping _ opening closing _ tokens opens =>
      exact ⟨opening, tokens ++ [closing], rfl, by simp [opens], fun _ _ => by simp [opens]⟩
  | @unary _ mark _ _ tokens isOperator =>
      refine ⟨mark, tokens, rfl, by simp [isOperator.1], fun _ tight => ?_⟩
      exact absurd tight (Nat.lt_irrefl 7)
  | @binary _ _ mark operator _ _ _ rightTokens _ _ _ leftHead =>
      obtain ⟨first, others, rfl, notKeyword, _⟩ := leftHead
      refine ⟨first, others ++ mark :: rightTokens, rfl, notKeyword, fun _ tight => ?_⟩
      have low : operator.level ≤ 6 := operator.level_bounds.2
      have high : 7 < operator.level := tight
      omega
  | @cast _ mark word _ _ _ _ _ _ _ innerHead =>
      obtain ⟨first, others, rfl, notKeyword, notOperator⟩ := innerHead
      refine ⟨first, others ++ [mark, word], rfl, notKeyword, fun canonical _ => ?_⟩
      obtain ⟨innerTight, innerCanonical⟩ := Expression.isCanonical_cast_iff.mp canonical
      exact notOperator innerCanonical innerTight

namespace Grammar

open Expression

/-! ## What stands behind an operand -/

/-- The tokens do not go on with a primary expression. -/
def EndsPrimary (rest : List Token) : Prop :=
  ∀ token ∈ rest.head?, token.kind ≠ .keyword ∧ token.kind ≠ .flowIn ∧ token.kind ≠ .colon

/-- The tokens do not go on with an operand of some tiers: no cast follows and no operator of these
tiers. -/
structure EndsOperand (tiers : Nat) (rest : List Token) : Prop where
  primary : EndsPrimary rest
  noMark : ∀ token ∈ rest.head?, token.lexeme ≠ "~"
  noOperator : ∀ token ∈ rest.head?, ∀ level, 6 - tiers < level → operatorAt? level token = none

theorem EndsPrimary.of_operator
    {mark : Token} (isOperator : mark.kind = .binaryOperator ∨ mark.kind = .unaryOperator)
    (rest : List Token) : EndsPrimary (mark :: rest) := by
  intro token isHead
  obtain rfl : mark = token := by simpa using isHead
  rcases isOperator with kind | kind <;> simp [kind]

theorem EndsOperand.of_succ
    {tiers : Nat} {rest : List Token} (ends : EndsOperand (tiers + 1) rest) :
    EndsOperand tiers rest where
  primary := ends.primary
  noMark := ends.noMark
  noOperator token isHead level higher := ends.noOperator token isHead level (by omega)

theorem EndsOperand.not_startsCast
    {tiers : Nat} {rest : List Token} (ends : EndsOperand tiers rest) :
    startsCast rest = false := by
  rcases rest with _ | ⟨mark, _ | ⟨word, others⟩⟩
  · rfl
  · rfl
  · have noMark := ends.noMark mark rfl
    simp [startsCast, noMark]

theorem ofLexeme?_ne_mark
    {text : String} {operator : BinaryOperator}
    (found : BinaryOperator.ofLexeme? text = some operator) : text ≠ "~" := by
  rintro rfl
  have notFound : BinaryOperator.ofLexeme? "~" = none := by decide
  rw [notFound] at found
  cases found

theorem operatorAt?_level
    {mark : Token} {operator : BinaryOperator} (isOperator : mark.IsBinary operator) :
    operatorAt? operator.level mark = some operator := by
  rw [operatorAt?, if_pos isOperator.1, isOperator.2]
  simp

theorem operatorAt?_other_level
    {mark : Token} {operator : BinaryOperator} (isOperator : mark.IsBinary operator) {level : Nat}
    (differs : operator.level ≠ level) : operatorAt? level mark = none := by
  rw [operatorAt?, if_pos isOperator.1, isOperator.2]
  simp [differs]

/-- An operator ends the operands of all tiers above its own. -/
theorem EndsOperand.of_isBinary
    {mark : Token} {operator : BinaryOperator} (isOperator : mark.IsBinary operator)
    (rest : List Token) : EndsOperand (6 - operator.level) (mark :: rest) where
  primary := .of_operator isOperator.1 rest
  noMark := by
    intro token isHead
    obtain rfl : mark = token := by simpa using isHead
    exact ofLexeme?_ne_mark isOperator.2
  noOperator := by
    intro token isHead level higher
    obtain rfl : mark = token := by simpa using isHead
    have low := operator.level_bounds.2
    exact operatorAt?_other_level isOperator (by omega)

theorem EndsOperand.of_endsExpression
    {rest : List Token} (ends : ∀ token ∈ rest.head?, token.EndsExpression) (tiers : Nat) :
    EndsOperand tiers rest where
  primary := by
    intro token isHead
    rcases (ends token isHead).1 with kind | kind | kind | kind | kind <;> simp [kind]
  noMark token isHead := (ends token isHead).2
  noOperator := by
    intro token isHead level _
    rw [operatorAt?, if_neg]
    rcases (ends token isHead).1 with kind | kind | kind | kind | kind <;> simp [kind]

/-! ## Parsers that read an expression back -/

/-- On the tokens of an expression and a rest that ends it, the parser gives that expression and leaves
the rest. -/
def Parser.Recovers
    (parser : Parser Expression) (tree : Expression) (taken : List Token)
    (Ends : List Token → Prop) : Prop :=
  ∀ rest, Ends rest →
    ∃ parsed, parser (taken ++ rest) = .ok (parsed, rest) ∧ parsed.unplaced = tree.unplaced

/-- A chain of operands comes to the point where the expression is its left operand and the rest is
still to be read. -/
def Reaches
    (operand : Parser Expression) (tiers : Nat) (tree : Expression) (taken : List Token) : Prop :=
  ∀ rest, EndsOperand tiers rest →
    ∃ parsed bound, rest.length ≤ bound ∧
      chain (6 - tiers) (tier operand tiers) (taken ++ rest) =
        chainRest (6 - tiers) (tier operand tiers) bound parsed rest ∧
      parsed.unplaced = tree.unplaced

section Operators

variable {operand : Parser Expression} {tree : Expression} {taken : List Token} {tiers : Nat}

theorem Reaches.of_recovers
    (recovers : (tier operand tiers).Recovers tree taken (EndsOperand tiers)) :
    Reaches operand tiers tree taken := by
  intro rest ends
  obtain ⟨parsed, read, same⟩ := recovers rest ends
  refine ⟨parsed, rest.length, Nat.le_refl _, ?_, same⟩
  rw [chain, read, Outcome.ok_bind]

theorem chainRest_of_none
    {level bound : Nat} {left : Expression} {rest : List Token}
    (noOperator : ∀ token ∈ rest.head?, operatorAt? level token = none) :
    chainRest level operand bound left rest = .ok (left, rest) := by
  cases rest with
  | nil => rw [chainRest]
  | cons token others => rw [chainRest.eq_2, noOperator token rfl]

theorem Reaches.recovers (reaches : Reaches operand tiers tree taken) (few : tiers < 6) :
    (tier operand (tiers + 1)).Recovers tree taken (EndsOperand (tiers + 1)) := by
  intro rest ends
  obtain ⟨parsed, bound, _, read, same⟩ := reaches rest ends.of_succ
  refine ⟨parsed, ?_, same⟩
  have noOperator : ∀ token ∈ rest.head?, operatorAt? (6 - tiers) token = none :=
    fun token isHead => ends.noOperator token isHead (6 - tiers) (by omega)
  rw [tier, read, chainRest_of_none noOperator]

theorem recovers_of_le
    {lower : Nat} (recovers : (tier operand lower).Recovers tree taken (EndsOperand lower))
    (fewer : lower ≤ tiers) (few : tiers ≤ 6) :
    (tier operand tiers).Recovers tree taken (EndsOperand tiers) := by
  induction fewer with
  | refl => exact recovers
  | step _ inductionHypothesis =>
      exact (Reaches.of_recovers (inductionHypothesis (Nat.le_of_succ_le few))).recovers few

end Operators

/-! ## Primary expressions -/

section Primary

variable {finish : Position} {nested : Parser Expression} {rest : List Token}

theorem primary_of_literal
    {token : Token} {value : Literal} (stands : Literal.ofToken? token = some value)
    (ends : EndsPrimary rest) :
    primary finish nested (token :: rest) = .ok (.literal token.position value, rest) := by
  have noCall : nextIsKeyword "de" rest = false := by
    cases rest with
    | nil => rfl
    | cons next others => simp [nextIsKeyword, Token.isKeyword, (ends next rfl).1]
  rw [primary, Token.kind_of_ofToken? stands]
  simp [noCall, stands]

theorem primary_of_variable
    {token : Token} {subject : Variable} (names : token.Names subject) (ends : EndsPrimary rest) :
    primary finish nested (token :: rest) = .ok (.variable token.position subject, rest) := by
  have noAssignment : startsAssignment rest = false := by
    cases rest with
    | nil => rfl
    | cons next others =>
        obtain ⟨_, notArrow, notColon⟩ := ends next rfl
        simp [startsAssignment, notArrow, notColon]
  have named : variableOf token .invalidIdentifier = .ok subject := by
    simp [variableOf, names.text, names.nonempty]
  rw [primary, names.kind]
  simp [noAssignment, named]

theorem primary_of_grouping
    {opening closing : Token} {inner : Expression} {tokens : List Token}
    (opens : opening.kind = .parenOpen) (closes : closing.kind = .parenClose)
    (read : nested (tokens ++ closing :: rest) = .ok (inner, closing :: rest)) :
    primary finish nested (opening :: (tokens ++ closing :: rest)) =
      .ok (.grouping opening.position inner, rest) := by
  have closed : expectKind finish .parenClose .unclosedGrouping (closing :: rest) =
      .ok (closing, rest) := by
    simp [expectKind, expect, closes]
  rw [primary, opens]
  simp [read, closed]

theorem castable_of_primary
    {tokens : List Token} {inner : Expression}
    (read : primary finish nested tokens = .ok (inner, rest)) :
    castable finish nested tokens = .ok (casts inner rest) := by
  rw [castable, read, Outcome.ok_bind]
  rfl

theorem casts_of_mark
    {inner : Expression} {mark word : Token} {type : DataType} (isMark : mark.lexeme = "~")
    (isType : word.typeKeyword? = some type) :
    casts inner (mark :: word :: rest) = casts (.cast word.position type inner) rest := by
  rw [casts.eq_1, isMark, isType]
  rfl

end Primary

/-! ## Whole expressions -/

section Whole

variable (finish : Position) (depth : Nat) (tree : Expression) (taken : List Token)

/-- The operands below all operators, with a given bound on the nesting inside them. -/
def operandWith : Parser Expression :=
  unary (castable finish (nestedExpression finish depth))

/-- The parser of primary expressions comes to the point where the expression has been read and the
casts behind it have not. -/
def ReachesCasts : Prop :=
  ∀ rest, EndsPrimary rest →
    ∃ parsed,
      castable finish (nestedExpression finish depth) (taken ++ rest) = .ok (casts parsed rest) ∧
      parsed.unplaced = tree.unplaced

/-- The expression is read back by every parser that may meet it. -/
structure Recovered : Prop where
  /-- Before the casts behind it, if a cast may follow it. -/
  beforeCasts : 7 < tree.tightness → ReachesCasts finish depth tree taken
  /-- As an operand of every operator that binds less than its root. -/
  atTier : ∀ tiers ≤ 6, 6 - tiers < tree.tightness →
    (tier (operandWith finish depth) tiers).Recovers tree taken (EndsOperand tiers)
  /-- As a left operand also of an operator that binds as tightly as its root. -/
  inChain : ∀ tiers < 6, 6 - tiers ≤ tree.tightness →
    Reaches (operandWith finish depth) tiers tree taken

end Whole

namespace Recovered

variable {finish : Position} {depth : Nat} {tree : Expression} {taken : List Token}

/-- All tiers together are the parser of expressions, one level of nesting further up. -/
theorem whole (recovered : Recovered finish depth tree taken) :
    (nestedExpression finish (depth + 1)).Recovers tree taken (EndsOperand 6) :=
  recovered.atTier 6 (Nat.le_refl 6) tree.tightness_pos

theorem of_operand
    (beforeCasts : 7 < tree.tightness → ReachesCasts finish depth tree taken)
    (recovers : (operandWith finish depth).Recovers tree taken (EndsOperand 0)) :
    Recovered finish depth tree taken where
  beforeCasts := beforeCasts
  atTier tiers few _ := recovers_of_le recovers (Nat.zero_le tiers) few
  inChain tiers few _ :=
    .of_recovers (recovers_of_le recovers (Nat.zero_le tiers) (Nat.le_of_lt few))

theorem of_reachesCasts
    (written : tree.Written taken) (canonical : tree.isCanonical = true)
    (tight : 7 < tree.tightness) (reaches : ReachesCasts finish depth tree taken) :
    Recovered finish depth tree taken := by
  refine of_operand (fun _ => reaches) ?_
  intro rest ends
  obtain ⟨parsed, read, same⟩ := reaches rest ends.primary
  refine ⟨parsed, ?_, same⟩
  obtain ⟨first, others, rfl, _, notOperator⟩ := written.head
  rw [casts_of_not_startsCast parsed ends.not_startsCast] at read
  rw [List.cons_append, operandWith, unary, if_neg (by simp [notOperator canonical tight])]
  exact read

theorem of_chain
    (operator : BinaryOperator) (levelIs : tree.tightness = operator.level)
    (reaches : Reaches (operandWith finish depth) (6 - operator.level) tree taken) :
    Recovered finish depth tree taken := by
  obtain ⟨positive, low⟩ := operator.level_bounds
  have recovers := reaches.recovers (by omega)
  refine ⟨by omega, fun tiers few tight => ?_, fun tiers few tight => ?_⟩
  · exact recovers_of_le recovers (by omega) few
  · by_cases own : tiers = 6 - operator.level
    · rw [own]
      exact reaches
    · exact .of_recovers (recovers_of_le recovers (by omega) (Nat.le_of_lt few))

theorem unary
    {position : Position} {operator : UnaryOperator} {mark : Token}
    (isOperator : mark.IsUnary operator) (written : tree.Written taken)
    (operandTight : 6 < tree.tightness) (operandRecovered : Recovered finish depth tree taken) :
    Recovered finish depth (.unary position operator tree) (mark :: taken) := by
  refine of_operand (fun tight => absurd tight (Nat.lt_irrefl 7)) ?_
  intro rest ends
  obtain ⟨parsed, read, same⟩ := operandRecovered.atTier 0 (Nat.zero_le 6) operandTight rest ends
  obtain ⟨first, others, rfl, notKeyword, _⟩ := written.head
  -- the operand starts with no keyword, so the mark is not that of a cast
  have noCast : startsCast (mark :: (first :: others ++ rest)) = false := by
    simp [startsCast, Token.isTypeKeyword, Token.typeKeyword?, notKeyword]
  have isPrefix : mark.kind = .unaryOperator && !startsCast (mark :: (first :: others ++ rest)) := by
    rw [isOperator.1, noCast]
    rfl
  refine ⟨.unary mark.position operator parsed, ?_, ?_⟩
  · rw [List.cons_append, operandWith, Grammar.unary, if_pos isPrefix, isOperator.2]
    have read : Grammar.unary (castable finish (nestedExpression finish depth))
        (first :: others ++ rest) = .ok (parsed, rest) := read
    dsimp only
    rw [read, Outcome.ok_bind]
    rfl
  · simp only [unplaced, moved] at same ⊢
    rw [same]

theorem binary
    {position operatorPosition : Position} {operator : BinaryOperator} {mark : Token}
    {right : Expression} {rightTaken : List Token} (isOperator : mark.IsBinary operator)
    (leftTight : operator.level ≤ tree.tightness) (rightTight : operator.level < right.tightness)
    (leftRecovered : Recovered finish depth tree taken)
    (rightRecovered : Recovered finish depth right rightTaken) :
    Recovered finish depth (.binary position operator operatorPosition tree right)
      (taken ++ mark :: rightTaken) := by
  obtain ⟨positive, low⟩ := operator.level_bounds
  have sameLevel : 6 - (6 - operator.level) = operator.level := by omega
  refine of_chain operator rfl ?_
  intro rest ends
  -- the left operand is read up to the mark, the right one up to the rest
  obtain ⟨left, bound, enough, leftRead, leftSame⟩ :=
    leftRecovered.inChain (6 - operator.level) (by omega) (by omega)
      (mark :: (rightTaken ++ rest)) (.of_isBinary isOperator _)
  obtain ⟨parsed, rightRead, rightSame⟩ :=
    rightRecovered.atTier (6 - operator.level) (by omega) (by omega) rest ends
  obtain ⟨bound, rfl⟩ : ∃ smaller, bound = smaller + 1 := Nat.exists_eq_add_one.mpr (by
    simp only [List.length_cons] at enough
    omega)
  refine ⟨.binary left.position operator mark.position left parsed, bound, ?_, ?_, ?_⟩
  · simp only [List.length_cons, List.length_append] at enough
    omega
  · rw [List.append_assoc, List.cons_append, leftRead, sameLevel, chainRest.eq_2,
      operatorAt?_level isOperator]
    dsimp only
    rw [rightRead, Outcome.ok_bind]
  · simp only [unplaced, moved] at leftSame rightSame ⊢
    rw [leftSame, rightSame]

end Recovered

/-- Every canonical expression is read back, under any bound on its nesting that its tokens cover. -/
theorem recovered_of_written
    (finish : Position) {tree : Expression} {taken : List Token} (written : tree.Written taken)
    (canonical : tree.isCanonical = true) {depth : Nat} (deep : taken.length ≤ depth) :
    Recovered finish depth tree taken := by
  induction written generalizing depth with
  | @literal position token value stands =>
      refine .of_reachesCasts (.literal stands) canonical (Nat.le_refl 8) ?_
      intro rest ends
      exact ⟨_, castable_of_primary (primary_of_literal stands ends), rfl⟩
  | @reference position token subject names =>
      refine .of_reachesCasts (.reference names) canonical (Nat.le_refl 8) ?_
      intro rest ends
      exact ⟨_, castable_of_primary (primary_of_variable names ends), rfl⟩
  | @grouping position opening closing inner tokens opens innerWritten closes noMark
      inductionHypothesis =>
      refine .of_reachesCasts (.grouping opens innerWritten closes noMark) canonical
        (Nat.le_refl 8) ?_
      intro rest ends
      obtain ⟨depth, rfl⟩ : ∃ smaller, depth = smaller + 1 := Nat.exists_eq_add_one.mpr (by
        simp only [List.length_cons] at deep
        omega)
      have innerDeep : tokens.length ≤ depth := by
        simp only [List.length_cons, List.length_append] at deep
        omega
      have closingEnds : EndsOperand 6 (closing :: rest) := by
        apply EndsOperand.of_endsExpression
        intro token isHead
        obtain rfl : closing = token := by simpa using isHead
        exact ⟨by simp [closes], noMark⟩
      obtain ⟨parsed, read, same⟩ := (inductionHypothesis canonical innerDeep).whole _ closingEnds
      refine ⟨.grouping opening.position parsed, ?_, ?_⟩
      · rw [List.cons_append, List.append_assoc, List.singleton_append]
        exact castable_of_primary (primary_of_grouping opens closes read)
      · simp only [unplaced, moved] at same ⊢
        rw [same]
  | @unary position mark operator operand tokens isOperator operandWritten inductionHypothesis =>
      obtain ⟨operandTight, operandCanonical⟩ := isCanonical_unary_iff.mp canonical
      have operandDeep : tokens.length ≤ depth := Nat.le_of_succ_le deep
      exact .unary isOperator operandWritten operandTight
        (inductionHypothesis operandCanonical operandDeep)
  | @binary position operatorPosition mark operator left right leftTokens rightTokens leftWritten
      isOperator rightWritten leftHypothesis rightHypothesis =>
      obtain ⟨⟨leftTight, rightTight⟩, leftCanonical, rightCanonical⟩ :=
        isCanonical_binary_iff.mp canonical
      simp only [List.length_append, List.length_cons] at deep
      exact .binary isOperator leftTight rightTight (leftHypothesis leftCanonical (by omega))
        (rightHypothesis rightCanonical (by omega))
  | @cast position mark word type inner tokens innerWritten isOperator isMark isType
      inductionHypothesis =>
      refine .of_reachesCasts (.cast innerWritten isOperator isMark isType) canonical
        (Nat.le_refl 8) ?_
      obtain ⟨innerTight, innerCanonical⟩ := isCanonical_cast_iff.mp canonical
      have innerDeep : tokens.length ≤ depth := by
        simp only [List.length_append] at deep
        omega
      intro rest ends
      obtain ⟨parsed, read, same⟩ :=
        (inductionHypothesis innerCanonical innerDeep).beforeCasts innerTight
          (mark :: word :: rest) (.of_operator isOperator _)
      refine ⟨.cast word.position type parsed, ?_, ?_⟩
      · rw [List.append_assoc, ← casts_of_mark isMark isType]
        exact read
      · simp only [unplaced, moved] at same ⊢
        rw [same]

end Grammar

open Grammar

/-- The grammar of expressions is that of the six levels of precedence.  Every expression that is
parsed, from whatever tokens, is canonical; and every canonical expression of literals, variables,
groupings, operators and casts is what its tokens are parsed to, up to its places, with everything from
the first token that ends it on left over. -/
theorem expression_is_precedence_grammar (finish : Position) :
    (∀ tokens tree rest, expression finish tokens = .ok (tree, rest) → tree.isCanonical = true) ∧
    ∀ tree taken rest, tree.isCanonical = true → Expression.Written tree taken →
      (∀ token ∈ rest.head?, token.EndsExpression) →
      ∃ parsed, expression finish (taken ++ rest) = .ok (parsed, rest) ∧
        parsed.unplaced = tree.unplaced := by
  refine ⟨?_, ?_⟩
  · intro tokens tree rest parsed
    exact nestedExpression_canonical finish _ parsed
  · intro tree taken rest canonical written ends
    have deep : taken.length ≤ (taken ++ rest).length := by simp
    exact (recovered_of_written finish written canonical deep).whole rest (.of_endsExpression ends 6)

/-- A token of a given kind and text at the start of a source. -/
def Token.ofText (kind : TokenKind) (lexeme : String) : Token :=
  ⟨kind, lexeme, .start, ⟨0, lexeme.length⟩, none⟩

/-- The expression `-$x ~int - "a" * ($x - $x)`, whose nodes are placed nowhere in particular. -/
def differenceTree : Expression :=
  let subject := Expression.variable .start ⟨false, "x"⟩
  .binary .start .sub .start
    (.unary .start .negate (.cast .start .int subject))
    (.binary .start .mul .start
      (.literal .start (.string "a"))
      (.grouping .start (.binary .start .sub .start subject subject)))

/-- Its tokens.  All three marks `-` have been read as prefix operators, also those that subtract. -/
def differenceTokens : List Token :=
  let subject := Token.ofText .variable "$x"
  let minus := Token.ofText .unaryOperator "-"
  [minus, subject, .ofText .binaryOperator "~", .ofText .keyword "int", minus,
    { Token.ofText .literal "\"a\"" with value := some (.string "a") },
    .ofText .binaryOperator "*", .ofText .parenOpen "(", subject, minus, subject,
    .ofText .parenClose ")"]

theorem differenceTree_written : differenceTree.Written differenceTokens := by
  have names : (Token.ofText .variable "$x").Names ⟨false, "x"⟩ := ⟨rfl, by decide, by decide⟩
  have negates : (Token.ofText .unaryOperator "-").IsUnary .negate := ⟨rfl, by decide⟩
  have subtracts : (Token.ofText .unaryOperator "-").IsBinary .sub := ⟨.inr rfl, by decide⟩
  have multiplies : (Token.ofText .binaryOperator "*").IsBinary .mul := ⟨.inl rfl, by decide⟩
  have subject : Expression.Written (.variable .start ⟨false, "x"⟩) [.ofText .variable "$x"] :=
    .reference names
  have casted :
      Expression.Written (.cast .start .int (.variable .start ⟨false, "x"⟩))
        ([.ofText .variable "$x"] ++ [.ofText .binaryOperator "~", .ofText .keyword "int"]) :=
    .cast subject (.inl rfl) rfl (by decide)
  have difference :
      Expression.Written
        (.binary .start .sub .start (.variable .start ⟨false, "x"⟩) (.variable .start ⟨false, "x"⟩))
        ([.ofText .variable "$x"] ++ .ofText .unaryOperator "-" :: [.ofText .variable "$x"]) :=
    .binary subject subtracts subject
  exact (casted.unary negates).binary subtracts
    (.binary (.literal (by rfl)) multiplies (.grouping rfl difference rfl (by decide)))

theorem differenceTree_is_parsed :
    differenceTree.isCanonical = true ∧ differenceTree.Written differenceTokens ∧
    (Token.ofText .output "->|").EndsExpression ∧
    ∃ parsed,
      expression .start (differenceTokens ++ [.ofText .output "->|"]) =
        .ok (parsed, [.ofText .output "->|"]) ∧
      parsed.unplaced = differenceTree.unplaced ∧ parsed.isCanonical = true := by
  have canonical : differenceTree.isCanonical = true := by decide
  have ends : (Token.ofText .output "->|").EndsExpression := ⟨by decide, by decide⟩
  obtain ⟨isCanonical, recovers⟩ := expression_is_precedence_grammar .start
  obtain ⟨parsed, read, same⟩ :=
    recovers differenceTree differenceTokens [.ofText .output "->|"] canonical
      differenceTree_written (by simpa using ends)
  exact ⟨canonical, differenceTree_written, ends, parsed, read, same, isCanonical _ _ _ read⟩

end Zoop
