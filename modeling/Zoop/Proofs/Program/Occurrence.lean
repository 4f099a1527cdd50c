import Zoop.Proofs.Program.Condition

/-!
# What occurs in a program

A statement occurs in a program at its top or in another statement that occurs there.  Its path are the
statements that it stands in.  A condition that holds everywhere in a program holds of all that occurs
there.
-/

namespace Zoop

/-! ## Parts -/

namespace Branch

def guard : Branch → Expression
  | .mk _ guard _ => guard

def body : Branch → List Statement
  | .mk _ _ body => body

end Branch

/-- The expressions that stand directly in an expression. -/
def Expression.parts : Expression → List Expression
  | .literal _ _ | .variable _ _ | .input _ _ _ => []
  | .declare _ _ _ value | .reassign _ _ value => [value]
  | .grouping _ inner | .cast _ _ inner => [inner]
  | .unary _ _ operand => [operand]
  | .binary _ _ _ left right => [left, right]
  | .call _ _ arguments => arguments

namespace Statement

/-- The expressions that stand directly in a statement. -/
def expressions : Statement → List Expression
  | .expression _ value | .print _ value | .giveBack _ (some value) => [value]
  | .condition _ first others _ => first.guard :: others.map Branch.guard
  | .block _ _ | .routine _ _ _ _ _ | .giveBack _ none | .loop _ _ | .leave _ => []

/-- The statements that stand directly in a statement. -/
def parts : Statement → List Statement
  | .block _ body | .routine _ _ _ _ body | .loop _ body => body
  | .condition _ first others otherwise =>
      first.body ++ (others.flatMap Branch.body ++ otherwise.getD [])
  | .expression _ _ | .print _ _ | .giveBack _ _ | .leave _ => []

end Statement

/-! ## Occurrences -/

namespace Program

/-- A statement occurs in a program.  The path are the statements that it stands in, from the innermost
to the one at the top. -/
inductive Has (program : Program) : List Statement → Statement → Prop where
  | top {statement} (member : statement ∈ program.statements) : Has program [] statement
  | inside {path outer statement}
      (has : Has program path outer) (member : statement ∈ outer.parts) :
      Has program (outer :: path) statement

/-- An expression occurs in a program, in a statement or in another expression. -/
inductive HasExpression (program : Program) : Expression → Prop where
  | direct {path statement value}
      (has : program.Has path statement) (member : value ∈ statement.expressions) :
      HasExpression program value
  | inside {outer value}
      (has : HasExpression program outer) (member : value ∈ outer.parts) :
      HasExpression program value

end Program

/-! ## Conditions -/

namespace Condition

theorem inArguments_eq_all (condition : Condition) (values : List Expression) :
    condition.inArguments values = values.all condition.inExpression := by
  induction values with
  | nil => rfl
  | cons first others inductionHypothesis => rw [inArguments, inductionHypothesis, List.all_cons]

theorem inStatements_eq_all (condition : Condition) (body : List Statement) :
    condition.inStatements body = body.all condition.inStatement := by
  induction body with
  | nil => rfl
  | cons first others inductionHypothesis => rw [inStatements, inductionHypothesis, List.all_cons]

theorem inBranches_eq_all (condition : Condition) (branches : List Branch) :
    condition.inBranches branches = branches.all condition.inBranch := by
  induction branches with
  | nil => rfl
  | cons first others inductionHypothesis => rw [inBranches, inductionHypothesis, List.all_cons]

variable {condition : Condition}

theorem inBranch_eq_true {branch : Branch} (holds : condition.inBranch branch = true) :
    condition.inExpression branch.guard = true ∧ condition.inStatements branch.body = true := by
  cases branch
  rwa [inBranch, Bool.and_eq_true] at holds

theorem expression_of_inExpression
    {value : Expression} (holds : condition.inExpression value = true) :
    condition.expression value = true := by
  cases value <;> simp_all [inExpression]

theorem inExpression_part
    {outer value : Expression} (holds : condition.inExpression outer = true)
    (member : value ∈ outer.parts) : condition.inExpression value = true := by
  have partsHold : condition.inArguments outer.parts = true := by
    cases outer <;> simp_all [inExpression, inArguments, Expression.parts]
  rw [inArguments_eq_all, List.all_eq_true] at partsHold
  exact partsHold value member

theorem statement_of_inStatement
    {statement : Statement} (holds : condition.inStatement statement = true) :
    condition.statement statement = true := by
  cases statement with
  | giveBack position value => cases value <;> simp_all [inStatement]
  | _ => simp_all [inStatement]

theorem inStatement_part
    {outer statement : Statement} (holds : condition.inStatement outer = true)
    (member : statement ∈ outer.parts) : condition.inStatement statement = true := by
  have ofBody : ∀ {body : List Statement},
      condition.inStatements body = true → statement ∈ body →
      condition.inStatement statement = true := by
    intro body bodyHolds inBody
    rw [inStatements_eq_all, List.all_eq_true] at bodyHolds
    exact bodyHolds statement inBody
  cases outer with
  | expression | print | giveBack | leave => cases member
  | block | routine | loop =>
      rw [inStatement, Bool.and_eq_true] at holds
      exact ofBody holds.2 member
  | condition position first others otherwise =>
      simp only [inStatement, Bool.and_eq_true] at holds
      obtain ⟨_, firstHolds, othersHold, otherwiseHolds⟩ := holds
      rcases List.mem_append.mp member with inFirst | later
      · exact ofBody (inBranch_eq_true firstHolds).2 inFirst
      rcases List.mem_append.mp later with inOthers | inOtherwise
      · obtain ⟨branch, isBranch, inBranch⟩ := List.mem_flatMap.mp inOthers
        rw [inBranches_eq_all, List.all_eq_true] at othersHold
        exact ofBody (inBranch_eq_true (othersHold branch isBranch)).2 inBranch
      · cases otherwise with
        | none => cases inOtherwise
        | some body => exact ofBody otherwiseHolds inOtherwise

theorem inExpression_direct
    {statement : Statement} {value : Expression} (holds : condition.inStatement statement = true)
    (member : value ∈ statement.expressions) : condition.inExpression value = true := by
  cases statement with
  | block | routine | loop | leave => cases member
  | expression | print =>
      rw [inStatement, Bool.and_eq_true] at holds
      rw [List.mem_singleton.mp member]
      exact holds.2
  | giveBack position returned =>
      cases returned with
      | none => cases member
      | some returned =>
          rw [inStatement, Bool.and_eq_true] at holds
          rw [List.mem_singleton.mp member]
          exact holds.2
  | condition position first others otherwise =>
      simp only [inStatement, Bool.and_eq_true] at holds
      obtain ⟨_, firstHolds, othersHold, _⟩ := holds
      rcases List.mem_cons.mp member with rfl | inOthers
      · exact (inBranch_eq_true firstHolds).1
      · obtain ⟨branch, isBranch, rfl⟩ := List.mem_map.mp inOthers
        rw [inBranches_eq_all, List.all_eq_true] at othersHold
        exact (inBranch_eq_true (othersHold branch isBranch)).1

/-! ## Programs -/

variable {program : Program} (holds : condition.inProgram program = true)

include holds

theorem inStatement_of_has
    {path : List Statement} {statement : Statement} (has : program.Has path statement) :
    condition.inStatement statement = true := by
  induction has with
  | top member =>
      rw [inProgram, inStatements_eq_all, List.all_eq_true] at holds
      exact holds _ member
  | inside _ member inductionHypothesis => exact inStatement_part inductionHypothesis member

theorem inExpression_of_hasExpression
    {value : Expression} (has : program.HasExpression value) :
    condition.inExpression value = true := by
  induction has with
  | direct has member => exact inExpression_direct (inStatement_of_has holds has) member
  | inside _ member inductionHypothesis => exact inExpression_part inductionHypothesis member

end Condition

end Zoop
