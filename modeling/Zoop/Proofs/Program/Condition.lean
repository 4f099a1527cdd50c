import Zoop.Proofs.Environment.Changes

/-!
# Conditions on programs

A condition tests every expression and every statement of a program, at any depth.  The bodies of zoops
are part of the program, so a condition on a program is also one on the zoops that it declares.
-/

namespace Zoop

/-- A test for expressions and a test for statements. -/
structure Condition where
  /-- The test for each expression. -/
  expression : Expression → Bool
  /-- The test for each statement. -/
  statement : Statement → Bool

namespace Condition

/-- The condition that always holds. -/
def trivial : Condition :=
  ⟨fun _ => true, fun _ => true⟩

variable (condition : Condition)

/-! ## Expressions -/

mutual

/-- Whether the condition holds of an expression and of all that is inside it. -/
def inExpression : Expression → Bool
  | .literal position value => condition.expression (.literal position value)
  | .variable position subject => condition.expression (.variable position subject)
  | .declare position subject type value =>
      condition.expression (.declare position subject type value) && inExpression value
  | .reassign position name value =>
      condition.expression (.reassign position name value) && inExpression value
  | .grouping position inner =>
      condition.expression (.grouping position inner) && inExpression inner
  | .unary position operator operand =>
      condition.expression (.unary position operator operand) && inExpression operand
  | .binary position operator operatorPosition left right =>
      condition.expression (.binary position operator operatorPosition left right) &&
        (inExpression left && inExpression right)
  | .cast position type inner =>
      condition.expression (.cast position type inner) && inExpression inner
  | .input position type prompt => condition.expression (.input position type prompt)
  | .call position label arguments =>
      condition.expression (.call position label arguments) && inArguments arguments

/-- Whether the condition holds of all arguments of a call. -/
def inArguments : List Expression → Bool
  | [] => true
  | argument :: arguments => inExpression argument && inArguments arguments

end

/-! ## Statements -/

mutual

/-- Whether the condition holds of a statement and of all that is inside it. -/
def inStatement : Statement → Bool
  | .expression position value =>
      condition.statement (.expression position value) && condition.inExpression value
  | .print position value =>
      condition.statement (.print position value) && condition.inExpression value
  | .block position body => condition.statement (.block position body) && inStatements body
  | .condition position first others otherwise =>
      condition.statement (.condition position first others otherwise) &&
        (inBranch first && (inBranches others && inOtherwise otherwise))
  | .routine position label parameters returnType body =>
      condition.statement (.routine position label parameters returnType body) &&
        inStatements body
  | .giveBack position none => condition.statement (.giveBack position none)
  | .giveBack position (some value) =>
      condition.statement (.giveBack position (some value)) && condition.inExpression value
  | .loop position body => condition.statement (.loop position body) && inStatements body
  | .leave position => condition.statement (.leave position)

/-- Whether the condition holds of all statements of a body. -/
def inStatements : List Statement → Bool
  | [] => true
  | statement :: rest => inStatement statement && inStatements rest

/-- Whether the condition holds of a guard and of its body. -/
def inBranch : Branch → Bool
  | .mk _ guard body => condition.inExpression guard && inStatements body

/-- Whether the condition holds of guards and of their bodies. -/
def inBranches : List Branch → Bool
  | [] => true
  | branch :: rest => inBranch branch && inBranches rest

/-- Whether the condition holds of the body for when no guard passes. -/
def inOtherwise : Option (List Statement) → Bool
  | none => true
  | some body => inStatements body

end

/-- Whether the condition holds everywhere in a program. -/
def inProgram (program : Program) : Bool :=
  condition.inStatements program.statements

/-! ## Zoops -/

/-- The condition holds of the declaration of a zoop, wherever it stands, and everywhere in its
body. -/
def Admits (routine : Routine) : Prop :=
  (∃ position,
      condition.statement
        (.routine position routine.label routine.parameters routine.returnType routine.body) =
          true) ∧
    condition.inStatements routine.body = true

/-- The condition holds of all zoops that have been declared. -/
def AdmitsAll (environment : Environment) : Prop :=
  ∀ routine ∈ environment.routines, condition.Admits routine

theorem admitsAll_initial : condition.AdmitsAll .initial := by
  intro routine member
  simp [Environment.initial] at member

/-- A zoop that is found has been declared. -/
theorem AdmitsAll.of_routine
    {condition : Condition} {environment : Environment} {label : String} {routine : Routine}
    (admits : condition.AdmitsAll environment)
    (found : environment.routine label = .ok routine) :
    condition.Admits routine := by
  apply admits
  unfold Environment.routine at found
  split at found
  · next candidate present =>
      injection found with same
      subst same
      exact List.mem_of_find?_eq_some present
  · cases found

theorem AdmitsAll.of_routines_eq
    {condition : Condition} {before after : Environment} (admits : condition.AdmitsAll before)
    (same : after.routines = before.routines) : condition.AdmitsAll after := by
  intro routine member
  rw [same] at member
  exact admits routine member

theorem AdmitsAll.of_apply
    {condition : Condition} {before after : Environment} {change : Change}
    (admits : condition.AdmitsAll before)
    (declaredAdmits : ∀ routine, change = .declared routine → condition.Admits routine)
    (applied : change.apply before = .ok after) : condition.AdmitsAll after := by
  cases change with
  | opened kind =>
      injection applied with equality
      exact admits.of_routines_eq (by rw [← equality]; rfl)
  | closed =>
      injection applied with equality
      refine admits.of_routines_eq ?_
      rw [← equality, Environment.popScope]
      split <;> rfl
  | defined subject type value =>
      obtain ⟨_, shape⟩ := Environment.define_eq_ok applied
      exact admits.of_routines_eq (by rw [shape])
  | assigned name type value => exact admits.of_routines_eq (Environment.assign_eq_ok applied).1
  | declared declared =>
      obtain ⟨_, shape⟩ := Environment.declareRoutine_eq_ok applied
      intro routine member
      rw [shape] at member
      rcases List.mem_cons.mp member with same | earlier
      · exact declaredAdmits routine (by rw [same])
      · exact admits routine earlier
  | entered context =>
      obtain ⟨_, _, _, shape⟩ := Environment.pushContext_eq_ok applied
      exact admits.of_routines_eq (by rw [shape])
  | left =>
      injection applied with equality
      exact admits.of_routines_eq (by rw [← equality]; rfl)

/-! ## Conditions without a test for expressions -/

section Expressions

variable {condition : Condition}

mutual

theorem inExpression_of_always
    (always : ∀ expression, condition.expression expression = true) :
    ∀ expression, condition.inExpression expression = true
  | .literal _ _ | .variable _ _ | .input _ _ _ => by simp [inExpression, always]
  | .declare _ _ _ value | .reassign _ _ value | .grouping _ value | .unary _ _ value
  | .cast _ _ value => by
      simp [inExpression, always, inExpression_of_always always value]
  | .binary _ _ _ left right => by
      simp [inExpression, always, inExpression_of_always always left, inExpression_of_always always right]
  | .call _ _ arguments => by simp [inExpression, always, inArguments_of_always always arguments]

theorem inArguments_of_always
    (always : ∀ expression, condition.expression expression = true) :
    ∀ arguments, condition.inArguments arguments = true
  | [] => rfl
  | argument :: arguments => by
      rw [inArguments, inExpression_of_always always argument, inArguments_of_always always arguments,
        Bool.and_self]

end

end Expressions

/-! ## The trivial condition -/

@[simp]
theorem trivial_inExpression (expression : Expression) : trivial.inExpression expression = true :=
  inExpression_of_always (fun _ => rfl) expression

@[simp]
theorem trivial_inArguments (arguments : List Expression) : trivial.inArguments arguments = true :=
  inArguments_of_always (fun _ => rfl) arguments

@[simp]
theorem trivial_statement (statement : Statement) : trivial.statement statement = true :=
  rfl

mutual

@[simp]
theorem trivial_inStatement : ∀ statement, trivial.inStatement statement = true
  | .expression _ _ | .print _ _ | .giveBack _ none | .giveBack _ (some _) | .leave _ => by
      simp [inStatement]
  | .block _ body | .routine _ _ _ _ body | .loop _ body => by
      simp [inStatement, trivial_inStatements body]
  | .condition _ first others otherwise => by
      simp [inStatement, trivial_inBranch first, trivial_inBranches others,
        trivial_inOtherwise otherwise]

@[simp]
theorem trivial_inStatements : ∀ body, trivial.inStatements body = true
  | [] => rfl
  | statement :: rest => by
      rw [inStatements, trivial_inStatement statement, trivial_inStatements rest, Bool.and_self]

@[simp]
theorem trivial_inBranch : ∀ branch, trivial.inBranch branch = true
  | .mk _ guard body => by
      rw [inBranch, trivial_inExpression guard, trivial_inStatements body, Bool.and_self]

@[simp]
theorem trivial_inBranches : ∀ branches, trivial.inBranches branches = true
  | [] => rfl
  | branch :: rest => by
      rw [inBranches, trivial_inBranch branch, trivial_inBranches rest, Bool.and_self]

@[simp]
theorem trivial_inOtherwise : ∀ otherwise, trivial.inOtherwise otherwise = true
  | none => rfl
  | some body => by rw [inOtherwise, trivial_inStatements body]

end

theorem admits_trivial (routine : Routine) : trivial.Admits routine :=
  ⟨⟨.start, rfl⟩, trivial_inStatements routine.body⟩

end Condition

end Zoop
