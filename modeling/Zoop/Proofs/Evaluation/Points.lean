import Zoop.Proofs.Evaluation.Congruence

/-!
# The points of a run

A run of a program is made of runs of its parts: of expressions, of arguments, of statements, of the
rounds of loops and of the bodies of zoops.  Each of them is run from some machine, and that machine is
what the parts before it have left.  A point is a part together with the machine from which it is run,
and one point is a step from another if running the other runs it: `Step.part` shows it of the runs.
-/

namespace Zoop

open Evaluation

/-! ## Parts of programs -/

/-- What is run on a machine. -/
inductive Task where
  | expression (value : Expression)
  /-- Arguments for the rest of the parameters, after those that the context has. -/
  | arguments (values : List Expression) (parameters : List Parameter) (context : Context)
  | statement (statement : Statement)
  | statements (body : List Statement)
  | branch (branch : Branch)
  | branches (branches : List Branch)
  | otherwise (body : Option (List Statement))
  /-- The rest of the rounds of a loop. -/
  | rounds (position : Position) (body : List Statement) (count : Nat)
  /-- The body of a zoop. -/
  | zoop (body : List Statement)
  /-- The rest of the statements at the top of a program. -/
  | program (statements : List Statement)

namespace Task

/-- What running a part gives. -/
abbrev Result : Task → Type
  | .expression _ => Literal
  | .arguments _ _ _ => Context
  | .statement _ | .statements _ | .otherwise _ | .rounds _ _ _ | .zoop _ => Flow
  | .branch _ | .branches _ => Option Flow
  | .program _ => Unit

/-- Run a part with a given amount of fuel. -/
def run {κ : Type} [Console κ] (fuel : Nat) : (task : Task) → Run κ task.Result
  | .expression value => evaluate (bodyRunner fuel) value
  | .arguments values parameters context =>
      evaluateArguments (bodyRunner fuel) values parameters context
  | .statement single => execute (bodyRunner fuel) fuel single
  | .statements body => executeAll (bodyRunner fuel) fuel body
  | .branch guarded => executeBranch (bodyRunner fuel) fuel guarded
  | .branches guarded => executeBranches (bodyRunner fuel) fuel guarded
  | .otherwise body => executeOtherwise (bodyRunner fuel) fuel body
  | .rounds position body count =>
      repeatBody position (executeAll (bodyRunner fuel) fuel body) count
  | .zoop body => bodyRunner fuel body
  | .program rest => runStatements fuel rest

end Task

/-- A uniform congruence that asks nothing of programs holds of all their parts. -/
theorem UniformCongruence.task
    {κ₁ κ₂ : Type} [Console κ₁] [Console κ₂] {Related : (α : Type) → Run κ₁ α → Run κ₂ α → Prop}
    (uniform : UniformCongruence Condition.trivial Related) (fuel : Nat) (task : Task) :
    Related task.Result (task.run fuel) (task.run fuel) := by
  have calls := uniform.calls fuel
  have reassignments := uniform.reassignments fuel
  have loops := uniform.loops (bodyRunner fuel) (bodyRunner fuel) fuel
  cases task with
  | expression value => exact uniform.evaluate fuel value (Condition.trivial_inExpression _)
  | arguments values parameters context =>
      exact uniform.toCongruence.evaluateArguments calls reassignments values parameters context
        (Condition.trivial_inArguments _)
  | statement single => exact uniform.execute fuel single (Condition.trivial_inStatement _)
  | statements body => exact uniform.executeAll fuel body (Condition.trivial_inStatements _)
  | branch guarded =>
      exact uniform.toCongruence.executeBranch calls reassignments loops guarded
        (Condition.trivial_inBranch _)
  | branches guarded =>
      exact uniform.toCongruence.executeBranches calls reassignments loops guarded
        (Condition.trivial_inBranches _)
  | otherwise body =>
      exact uniform.toCongruence.executeOtherwise calls reassignments loops body
        (Condition.trivial_inOtherwise _)
  | rounds position body count =>
      exact uniform.toCongruence.repeatBody uniform.exhausted position
        (uniform.executeAll fuel body (Condition.trivial_inStatements _)) count
  | zoop body => exact uniform.body fuel body (Condition.trivial_inStatements _)
  | program rest =>
      exact uniform.toCongruence.runStatements (uniform.execute fuel) rest
        (Condition.trivial_inStatements _)

/-- A part of a program and the machine from which it is run. -/
structure Point (κ : Type) where
  fuel : Nat
  task : Task
  machine : Machine κ

/-- How running the part ends. -/
def Point.ending {κ : Type} [Console κ] (point : Point κ) :
    Outcome RuntimeError point.task.Result × Machine κ :=
  point.task.run point.fuel point.machine

/-! ## Steps -/

/-- The machine inside a new scope. -/
def Machine.inside {κ : Type} [Console κ] (machine : Machine κ) (kind : ScopeKind) : Machine κ :=
  machine.became (.opened kind) (machine.environment.pushScope kind)

/-- Running the first point runs the second: one case for each run that is part of another. -/
inductive Step {κ : Type} [Console κ] : Point κ → Point κ → Prop where
  | declared {fuel machine position subject type value} :
      Step ⟨fuel, .expression (.declare position subject type value), machine⟩
        ⟨fuel, .expression value, machine⟩
  | reassigned {fuel machine position name value old}
      (found : machine.environment.lookup ⟨true, name⟩ = .ok old) :
      Step ⟨fuel, .expression (.reassign position name value), machine⟩
        ⟨fuel, .expression value, machine⟩
  | grouped {fuel machine position inner} :
      Step ⟨fuel, .expression (.grouping position inner), machine⟩
        ⟨fuel, .expression inner, machine⟩
  | operand {fuel machine position operator operand} :
      Step ⟨fuel, .expression (.unary position operator operand), machine⟩
        ⟨fuel, .expression operand, machine⟩
  | leftOperand {fuel machine position operator operatorPosition left right} :
      Step ⟨fuel, .expression (.binary position operator operatorPosition left right), machine⟩
        ⟨fuel, .expression left, machine⟩
  | rightOperand {fuel machine after position operator operatorPosition left right first}
      (leftEnds : evaluate (bodyRunner fuel) left machine = (.ok first, after)) :
      Step ⟨fuel, .expression (.binary position operator operatorPosition left right), machine⟩
        ⟨fuel, .expression right, after⟩
  | casted {fuel machine position type inner} :
      Step ⟨fuel, .expression (.cast position type inner), machine⟩
        ⟨fuel, .expression inner, machine⟩
  | arguments {fuel machine position label values routine}
      (found : machine.environment.routine label = .ok routine)
      (fits : routine.arity = values.length) :
      Step ⟨fuel, .expression (.call position label values), machine⟩
        ⟨fuel, .arguments values routine.parameters .empty, machine⟩
  | called {fuel machine after entered position label values routine context}
      (found : machine.environment.routine label = .ok routine)
      (fits : routine.arity = values.length)
      (argumentsEnd :
        evaluateArguments (bodyRunner fuel) values routine.parameters .empty machine =
          (.ok context, after))
      (push : after.environment.pushContext context = .ok entered) :
      Step ⟨fuel, .expression (.call position label values), machine⟩
        ⟨fuel, .zoop routine.body,
          (after.became (.entered context) entered).inside .routineBody⟩
  | argument {fuel machine value values parameter parameters context} :
      Step ⟨fuel, .arguments (value :: values) (parameter :: parameters) context, machine⟩
        ⟨fuel, .expression value, machine⟩
  | moreArguments {fuel machine after value values parameter parameters context literal}
      (valueEnds : evaluate (bodyRunner fuel) value machine = (.ok literal, after))
      (typed : literal.type = parameter.type) :
      Step ⟨fuel, .arguments (value :: values) (parameter :: parameters) context, machine⟩
        ⟨fuel, .arguments values parameters (context.set parameter.name literal), after⟩
  | zoop {fuel machine body} :
      Step ⟨fuel + 1, .zoop body, machine⟩ ⟨fuel, .statements body, machine⟩
  | effect {fuel machine position value} :
      Step ⟨fuel, .statement (.expression position value), machine⟩
        ⟨fuel, .expression value, machine⟩
  | printed {fuel machine position value} :
      Step ⟨fuel, .statement (.print position value), machine⟩
        ⟨fuel, .expression value, machine⟩
  | givenBack {fuel machine position value} :
      Step ⟨fuel, .statement (.giveBack position (some value)), machine⟩
        ⟨fuel, .expression value, machine⟩
  | block {fuel machine position body} :
      Step ⟨fuel, .statement (.block position body), machine⟩
        ⟨fuel, .statements body, machine.inside .block⟩
  | first {fuel machine position first others otherwise} :
      Step ⟨fuel, .statement (.condition position first others otherwise), machine⟩
        ⟨fuel, .branch first, machine⟩
  | others {fuel machine after position first others otherwise}
      (firstEnds : executeBranch (bodyRunner fuel) fuel first machine = (.ok none, after)) :
      Step ⟨fuel, .statement (.condition position first others otherwise), machine⟩
        ⟨fuel, .branches others, after⟩
  | otherwise {fuel machine between after position first others otherwise}
      (firstEnds : executeBranch (bodyRunner fuel) fuel first machine = (.ok none, between))
      (othersEnd : executeBranches (bodyRunner fuel) fuel others between = (.ok none, after)) :
      Step ⟨fuel, .statement (.condition position first others otherwise), machine⟩
        ⟨fuel, .otherwise otherwise, after⟩
  | loop {fuel machine position body} :
      Step ⟨fuel, .statement (.loop position body), machine⟩
        ⟨fuel, .rounds position body fuel, machine⟩
  | round {fuel machine position body count} :
      Step ⟨fuel, .rounds position body (count + 1), machine⟩ ⟨fuel, .statements body, machine⟩
  | moreRounds {fuel machine after position body count}
      (roundEnds : executeAll (bodyRunner fuel) fuel body machine = (.ok .next, after)) :
      Step ⟨fuel, .rounds position body (count + 1), machine⟩
        ⟨fuel, .rounds position body count, after⟩
  | statement {fuel machine statement rest} :
      Step ⟨fuel, .statements (statement :: rest), machine⟩ ⟨fuel, .statement statement, machine⟩
  | moreStatements {fuel machine after statement rest}
      (statementEnds : execute (bodyRunner fuel) fuel statement machine = (.ok .next, after)) :
      Step ⟨fuel, .statements (statement :: rest), machine⟩ ⟨fuel, .statements rest, after⟩
  | guard {fuel machine position guard body} :
      Step ⟨fuel, .branch (.mk position guard body), machine⟩ ⟨fuel, .expression guard, machine⟩
  | guarded {fuel machine after position guard body literal}
      (guardEnds : evaluate (bodyRunner fuel) guard machine = (.ok literal, after))
      (passes : literal.value.isTruthy = true) :
      Step ⟨fuel, .branch (.mk position guard body), machine⟩
        ⟨fuel, .statements body, after.inside .block⟩
  | branch {fuel machine branch rest} :
      Step ⟨fuel, .branches (branch :: rest), machine⟩ ⟨fuel, .branch branch, machine⟩
  | moreBranches {fuel machine after branch rest}
      (branchEnds : executeBranch (bodyRunner fuel) fuel branch machine = (.ok none, after)) :
      Step ⟨fuel, .branches (branch :: rest), machine⟩ ⟨fuel, .branches rest, after⟩
  | otherwiseBody {fuel machine body} :
      Step ⟨fuel, .otherwise (some body), machine⟩ ⟨fuel, .statements body, machine.inside .block⟩
  | top {fuel machine statement rest} :
      Step ⟨fuel, .program (statement :: rest), machine⟩ ⟨fuel, .statement statement, machine⟩
  | moreTop {fuel machine after statement rest flow}
      (statementEnds : execute (bodyRunner fuel) fuel statement machine = (.ok flow, after)) :
      Step ⟨fuel, .program (statement :: rest), machine⟩ ⟨fuel, .program rest, after⟩

/-! ## Points on the way -/

variable {κ : Type} [Console κ]

/-- The points that running one point comes to. -/
inductive Visits (start : Point κ) : Point κ → Prop where
  | here : Visits start start
  | next {point next : Point κ} (visits : Visits start point) (step : Step point next) :
      Visits start next

/-- What each step keeps holds at every point on the way. -/
theorem Visits.keeps
    {Holds : Point κ → Prop} (steps : ∀ {point next}, Holds point → Step point next → Holds next)
    {start point : Point κ} (visits : Visits start point) (holds : Holds start) : Holds point := by
  induction visits with
  | here => exact holds
  | next _ step inductionHypothesis => exact steps inductionHypothesis step

/-! ## Induction -/

/-- What a step makes smaller at a given fuel.  The body of a zoop is smaller than all other parts, as
running it takes fuel. -/
noncomputable def Task.weight : Task → Nat × Nat × Nat
  | .expression value => (1, sizeOf value, 0)
  | .arguments values _ _ => (1, sizeOf values, 0)
  | .statement single => (1, sizeOf single, 0)
  | .statements body => (1, sizeOf body, 0)
  | .branch guarded => (1, sizeOf guarded, 0)
  | .branches guarded => (1, sizeOf guarded, 0)
  | .otherwise body => (1, sizeOf body, 0)
  | .rounds _ body count => (1, sizeOf body, count + 1)
  | .zoop _ => (0, 0, 0)
  | .program rest => (1, sizeOf rest, 0)

theorem Step.decreases {point next : Point κ} (step : Step point next) :
    Prod.Lex (· < ·) (Prod.Lex (· < ·) (Prod.Lex (· < ·) (· < ·)))
      (next.fuel, next.task.weight) (point.fuel, point.task.weight) := by
  cases step <;> simp [Prod.lex_def, Task.weight] <;> omega

/-- What passes from all steps of a point to the point holds of all points. -/
theorem Step.induction
    {Holds : Point κ → Prop}
    (ofSteps : ∀ point, (∀ next, Step point next → Holds next) → Holds point) (point : Point κ) :
    Holds point :=
  ofSteps point fun next _ => Step.induction ofSteps next
termination_by (point.fuel, point.task.weight)
decreasing_by exact Step.decreases (by assumption)

/-! ## Programs in turn -/

/-- The points of the runs of programs in turn, which start on a new machine with a given console. -/
def Program.Visited (fuel : Nat) (programs : List Program) (console : κ) (point : Point κ) : Prop :=
  ∃ earlier program later,
    programs = earlier ++ program :: later ∧
      Visits
        ⟨fuel, .program program.statements, runInTurn fuel earlier (Machine.start console)⟩ point

end Zoop
