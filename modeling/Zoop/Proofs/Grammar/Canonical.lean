import Zoop.Proofs.Grammar.Placement
import Zoop.Proofs.Grammar.TokensTaken
import Zoop.Proofs.Program.Occurrence

/-!
# Canonical expressions

Six levels of precedence say which operands an operator may have without brackets.  An expression is
canonical if it keeps to this at every node; only such expressions are parsed, whatever the tokens.
-/

namespace Zoop

/-! ## The shape -/

namespace Expression

/-- The level of precedence of the operator at the root, if it stands between two operands. -/
def rootLevel? : Expression → Option Nat
  | .binary _ operator _ _ _ => some operator.level
  | _ => none

/-- Whether a prefix operator stands at the root. -/
def isUnary : Expression → Bool
  | .unary _ _ _ => true
  | _ => false

/-- Whether the operands of the root may stand there without brackets.  To the left of an operator no
other one binds less, to its right every other one binds more; behind a prefix operator there is no
operator between operands, and a cast follows no operator at all. -/
def isCanonicalAtRoot : Expression → Bool
  | .binary _ operator _ left right =>
      left.rootLevel?.all (operator.level ≤ ·) && right.rootLevel?.all (operator.level < ·)
  | .unary _ _ operand => operand.rootLevel?.isNone
  | .cast _ _ inner => inner.rootLevel?.isNone && !inner.isUnary
  | .literal _ _ | .variable _ _ | .declare _ _ _ _ | .reassign _ _ _ | .grouping _ _
  | .input _ _ _ | .call _ _ _ => true

end Expression

/-- Every expression has at its root the operands that it may have. -/
def Condition.canonical : Condition :=
  ⟨Expression.isCanonicalAtRoot, fun _ => true⟩

namespace Expression

/-- Whether an expression keeps to the levels of precedence at every node. -/
def isCanonical (tree : Expression) : Bool :=
  Condition.canonical.inExpression tree

/-- How tightly the root binds: operators between operands by their level, prefix operators more than
these, and everything else most. -/
def tightness : Expression → Nat
  | .binary _ operator _ _ _ => operator.level
  | .unary _ _ _ => 7
  | _ => 8

end Expression

theorem BinaryOperator.level_bounds (operator : BinaryOperator) :
    1 ≤ operator.level ∧ operator.level ≤ 6 := by
  cases operator <;> decide

namespace Expression

theorem tightness_pos (tree : Expression) : 0 < tree.tightness := by
  cases tree with
  | binary position operator operatorPosition left right => exact operator.level_bounds.1
  | _ => simp [tightness]

theorem rootLevel?_all_iff (tree : Expression) {level : Nat} (low : level ≤ 6) :
    tree.rootLevel?.all (level ≤ ·) = true ↔ level ≤ tree.tightness := by
  cases tree <;> simp [rootLevel?, tightness] <;> omega

theorem rootLevel?_all_lt_iff (tree : Expression) {level : Nat} (low : level ≤ 6) :
    tree.rootLevel?.all (level < ·) = true ↔ level < tree.tightness := by
  cases tree <;> simp [rootLevel?, tightness] <;> omega

theorem rootLevel?_isNone_iff (tree : Expression) :
    tree.rootLevel?.isNone = true ↔ 6 < tree.tightness := by
  cases tree with
  | binary position operator operatorPosition left right =>
      have low := operator.level_bounds.2
      simp [rootLevel?, tightness]
      omega
  | _ => simp [rootLevel?, tightness]

theorem isUnary_eq_false_iff (tree : Expression) :
    tree.rootLevel?.isNone = true ∧ tree.isUnary = false ↔ 7 < tree.tightness := by
  cases tree with
  | binary position operator operatorPosition left right =>
      have low := operator.level_bounds.2
      simp [rootLevel?, isUnary, tightness]
      omega
  | _ => simp [rootLevel?, isUnary, tightness]

theorem isCanonical_binary_iff
    {position operatorPosition : Position} {operator : BinaryOperator} {left right : Expression} :
    (binary position operator operatorPosition left right).isCanonical = true ↔
      (operator.level ≤ left.tightness ∧ operator.level < right.tightness) ∧
        left.isCanonical = true ∧ right.isCanonical = true := by
  have low := operator.level_bounds.2
  rw [← rootLevel?_all_iff left low, ← rootLevel?_all_lt_iff right low, ← Bool.and_eq_true,
    ← Bool.and_eq_true, ← Bool.and_eq_true]
  exact Iff.rfl

theorem isCanonical_unary_iff
    {position : Position} {operator : UnaryOperator} {operand : Expression} :
    (unary position operator operand).isCanonical = true ↔
      6 < operand.tightness ∧ operand.isCanonical = true := by
  rw [isCanonical, Condition.inExpression, Bool.and_eq_true, ← rootLevel?_isNone_iff operand]
  rfl

theorem isCanonical_cast_iff {position : Position} {type : DataType} {inner : Expression} :
    (cast position type inner).isCanonical = true ↔
      7 < inner.tightness ∧ inner.isCanonical = true := by
  rw [isCanonical, Condition.inExpression, Bool.and_eq_true, ← isUnary_eq_false_iff inner]
  simp [Condition.canonical, isCanonicalAtRoot, isCanonical]

end Expression

namespace Grammar

open Expression

/-! ## What is parsed -/

/-- An expression is canonical, and its root binds at least so tightly. -/
structure CanonicalFrom (least : Nat) (tree : Expression) : Prop where
  canonical : tree.isCanonical = true
  tight : least ≤ tree.tightness

theorem CanonicalFrom.of_le
    {least lower : Nat} {tree : Expression} (higher : CanonicalFrom least tree)
    (lessTight : lower ≤ least) : CanonicalFrom lower tree :=
  ⟨higher.canonical, Nat.le_trans lessTight higher.tight⟩

theorem level_of_operatorAt?
    {level : Nat} {token : Token} {operator : BinaryOperator}
    (found : operatorAt? level token = some operator) : operator.level = level := by
  unfold operatorAt? at found
  split at found
  · simpa using (Option.filter_eq_some_iff.mp found).2
  · cases found

section Operators

variable {operand : Parser Expression}

theorem chainRest_canonical
    {level bound : Nat} {left value : Expression} {tokens rest : List Token}
    (operandGives : operand.Gives (CanonicalFrom (level + 1))) (leftIs : CanonicalFrom level left)
    (parsed : chainRest level operand bound left tokens = .ok (value, rest)) :
    CanonicalFrom level value := by
  fun_induction chainRest level operand bound left tokens with
  | case1 bound left =>
      cases parsed
      exact leftIs
  | case2 bound left token tokens noOperator =>
      cases parsed
      exact leftIs
  | case3 left token tokens operator found => cases parsed
  | case4 left token tokens operator found bound inductionHypothesis =>
      obtain ⟨⟨right, remaining⟩, rightParsed, parsed⟩ := Outcome.bind_eq_ok_iff.mp parsed
      have rightIs := operandGives rightParsed
      have sameLevel := level_of_operatorAt? found
      refine inductionHypothesis right remaining ⟨?_, Nat.le_of_eq sameLevel.symm⟩ parsed
      rw [isCanonical_binary_iff, sameLevel]
      exact ⟨⟨leftIs.tight, rightIs.tight⟩, leftIs.canonical, rightIs.canonical⟩

theorem chain_canonical
    {level : Nat} (operandGives : operand.Gives (CanonicalFrom (level + 1))) :
    (chain level operand).Gives (CanonicalFrom level) := by
  intro tokens rest value parsed
  obtain ⟨⟨left, remaining⟩, leftParsed, parsed⟩ := Outcome.bind_eq_ok_iff.mp parsed
  have leftIs := (operandGives leftParsed).of_le (Nat.le_succ level)
  exact chainRest_canonical operandGives leftIs parsed

theorem tier_canonical
    (operandGives : operand.Gives (CanonicalFrom 7)) {tiers : Nat} (few : tiers ≤ 6) :
    (tier operand tiers).Gives (CanonicalFrom (7 - tiers)) := by
  induction tiers with
  | zero => exact operandGives
  | succ tiers inductionHypothesis =>
      have lower : (tier operand tiers).Gives (CanonicalFrom (7 - tiers)) :=
        inductionHypothesis (Nat.le_of_succ_le few)
      rw [show 7 - tiers = 6 - tiers + 1 by omega] at lower
      rw [show 7 - (tiers + 1) = 6 - tiers by omega]
      intro tokens rest value parsed
      exact chain_canonical lower parsed

theorem unary_canonical (operandGives : operand.Gives (CanonicalFrom 8)) :
    (unary operand).Gives (CanonicalFrom 7) := by
  intro tokens
  induction tokens with
  | nil =>
      intro rest value parsed
      exact (operandGives parsed).of_le (Nat.le_succ 7)
  | cons token tokens inductionHypothesis =>
      intro rest value parsed
      rw [unary] at parsed
      split at parsed
      · split at parsed
        · cases parsed
        · obtain ⟨⟨inner, remaining⟩, innerParsed, parsed⟩ := Outcome.bind_eq_ok_iff.mp parsed
          cases parsed
          have innerIs := inductionHypothesis innerParsed
          exact ⟨isCanonical_unary_iff.mpr ⟨innerIs.tight, innerIs.canonical⟩, Nat.le_refl 7⟩
      · exact (operandGives parsed).of_le (Nat.le_succ 7)

end Operators

theorem casts_canonical
    {inner value : Expression} {tokens rest : List Token} (innerIs : CanonicalFrom 8 inner)
    (parsed : casts inner tokens = (value, rest)) : CanonicalFrom 8 value := by
  fun_induction casts inner tokens with
  | case1 inner mark word others type isType isMark inductionHypothesis =>
      refine inductionHypothesis ⟨?_, Nat.le_refl 8⟩ parsed
      exact isCanonical_cast_iff.mpr ⟨innerIs.tight, innerIs.canonical⟩
  | case2 inner mark word others noCast =>
      cases parsed
      exact innerIs
  | case3 inner tokens short =>
      cases parsed
      exact innerIs

section Primary

variable
    {finish : Position} {nested : Parser Expression}
    (nestedGives : nested.Gives fun value => value.isCanonical = true)

theorem input_canonical (position : Position) :
    (input finish position).Gives (CanonicalFrom 8) := by
  intro tokens rest value parsed
  unfold input at parsed
  extract_lets withPrompt at parsed
  have prompted : ∀ type remaining, withPrompt (type, remaining) = .ok (value, rest) →
      CanonicalFrom 8 value := by
    intro type remaining ends
    dsimp only [withPrompt] at ends
    split at ends <;>
    · cases ends
      exact ⟨rfl, Nat.le_refl 8⟩
  split at parsed
  · obtain ⟨⟨type, remaining⟩, _, ends⟩ := Outcome.bind_eq_ok_iff.mp parsed
    exact prompted type remaining ends
  · exact prompted .string tokens parsed

include nestedGives

theorem arguments_canonical (bound : Nat) :
    (arguments nested bound).Gives fun values =>
      Condition.canonical.inArguments values = true := by
  induction bound with
  | zero => exact nofun
  | succ bound inductionHypothesis =>
      intro tokens rest values parsed
      rw [arguments] at parsed
      split at parsed
      · obtain ⟨⟨first, remaining⟩, firstParsed, parsed⟩ := Outcome.bind_eq_ok_iff.mp parsed
        obtain ⟨⟨others, remaining⟩, othersParsed, parsed⟩ := Outcome.bind_eq_ok_iff.mp parsed
        cases parsed
        have firstIs : Condition.canonical.inExpression first = true := nestedGives firstParsed
        rw [Condition.inArguments, firstIs, inductionHypothesis othersParsed, Bool.and_self]
      · cases parsed
        rfl

theorem assignment_canonical (token : Token) :
    (assignment finish nested token).Gives (CanonicalFrom 8) := by
  intro tokens rest value parsed
  obtain ⟨subject, _, parsed⟩ := Outcome.bind_eq_ok_iff.mp parsed
  dsimp only at parsed
  split at parsed
  · split at parsed
    · obtain ⟨⟨inner, remaining⟩, innerParsed, parsed⟩ := Outcome.bind_eq_ok_iff.mp parsed
      cases parsed
      have innerIs : Condition.canonical.inExpression inner = true := nestedGives innerParsed
      exact ⟨innerIs, Nat.le_refl 8⟩
    · cases parsed
  · obtain ⟨⟨type, remaining⟩, _, parsed⟩ := Outcome.bind_eq_ok_iff.mp parsed
    obtain ⟨⟨arrow, remaining⟩, _, parsed⟩ := Outcome.bind_eq_ok_iff.mp parsed
    obtain ⟨⟨inner, remaining⟩, innerParsed, parsed⟩ := Outcome.bind_eq_ok_iff.mp parsed
    cases parsed
    have innerIs : Condition.canonical.inExpression inner = true := nestedGives innerParsed
    exact ⟨innerIs, Nat.le_refl 8⟩

theorem primary_canonical : (primary finish nested).Gives (CanonicalFrom 8) := by
  intro tokens rest value parsed
  cases tokens with
  | nil => cases parsed
  | cons token tokens =>
      rw [primary] at parsed
      split at parsed
      · split at parsed
        · obtain ⟨⟨values, remaining⟩, valuesParsed, parsed⟩ := Outcome.bind_eq_ok_iff.mp parsed
          cases parsed
          exact ⟨arguments_canonical nestedGives _ valuesParsed, Nat.le_refl 8⟩
        · split at parsed
          · cases parsed
            exact ⟨rfl, Nat.le_refl 8⟩
          · cases parsed
      · exact input_canonical _ parsed
      · split at parsed
        · exact assignment_canonical nestedGives token parsed
        · obtain ⟨subject, _, parsed⟩ := Outcome.bind_eq_ok_iff.mp parsed
          cases parsed
          exact ⟨rfl, Nat.le_refl 8⟩
      · obtain ⟨⟨inner, remaining⟩, innerParsed, parsed⟩ := Outcome.bind_eq_ok_iff.mp parsed
        obtain ⟨⟨closing, remaining⟩, _, parsed⟩ := Outcome.bind_eq_ok_iff.mp parsed
        cases parsed
        have innerIs : Condition.canonical.inExpression inner = true := nestedGives innerParsed
        exact ⟨innerIs, Nat.le_refl 8⟩
      · cases parsed

theorem castable_canonical : (castable finish nested).Gives (CanonicalFrom 8) := by
  intro tokens rest value parsed
  obtain ⟨⟨inner, remaining⟩, innerParsed, parsed⟩ := Outcome.bind_eq_ok_iff.mp parsed
  have casted : casts inner remaining = (value, rest) := by
    injection parsed
  exact casts_canonical (primary_canonical nestedGives innerParsed) casted

end Primary

theorem nestedExpression_canonical (finish : Position) (depth : Nat) :
    (nestedExpression finish depth).Gives fun tree => tree.isCanonical = true := by
  induction depth with
  | zero => exact nofun
  | succ depth inductionHypothesis =>
      intro tokens rest tree parsed
      have operandGives :
          (unary (castable finish (nestedExpression finish depth))).Gives (CanonicalFrom 7) :=
        unary_canonical (castable_canonical inductionHypothesis)
      exact (tier_canonical operandGives (Nat.le_refl 6) parsed).canonical

end Grammar

end Zoop
