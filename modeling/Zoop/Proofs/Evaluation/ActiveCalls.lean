import Zoop.Proofs.Evaluation.StackDiscipline

/-!
# The calls that are active

A call is active from the point at which it runs the body of its zoop to the end of that body.  Of the
steps from a program down to a point, those into bodies of zoops are the calls that are active there.
Each of them has its arguments on the stack of contexts, and no other call has, so the bound of that
stack is a bound for calls inside each other, and the only one.
-/

namespace Zoop

open Evaluation

variable {κ : Type} [Console κ]

/-! ## Accepted calls -/

/-- Whether a part is the body of a zoop, to which only a call goes on. -/
def Task.isZoop : Task → Bool
  | .zoop _ => true
  | _ => false

/-- Expressions have values one after the other, each on the machine that the one before it has
left. -/
inductive EvaluatesInTurn (fuel : Nat) :
    List Expression → Machine κ → List Literal → Machine κ → Prop where
  | done {machine} : EvaluatesInTurn fuel [] machine [] machine
  | value {value values literal literals machine between after}
      (valueEnds : evaluate (bodyRunner fuel) value machine = (.ok literal, between))
      (rest : EvaluatesInTurn fuel values between literals after) :
      EvaluatesInTurn fuel (value :: values) machine (literal :: literals) after

/-- A context that has got arguments for parameters, from the first one to the last. -/
def Context.withArguments : Context → List Parameter → List Literal → Context
  | context, parameter :: parameters, literal :: literals =>
      withArguments (context.set parameter.name literal) parameters literals
  | context, _, _ => context

theorem Context.withArguments_nil (context : Context) (literals : List Literal) :
    context.withArguments [] literals = context := by
  cases literals <;> rfl

theorem Context.withArguments_nil_right (context : Context) (parameters : List Parameter) :
    context.withArguments parameters [] = context := by
  cases parameters <;> rfl

theorem Context.withArguments_cons
    (context : Context) (parameter : Parameter) (parameters : List Parameter) (literal : Literal)
    (literals : List Literal) :
    context.withArguments (parameter :: parameters) (literal :: literals) =
      Context.withArguments (context.set parameter.name literal) parameters literals :=
  rfl

/-- Arguments are accepted if they have values of the data types of their parameters, and each name has
its value then. -/
theorem EvaluatesInTurn.evaluateArguments_eq_ok
    {fuel : Nat} {values : List Expression} {machine after : Machine κ} {literals : List Literal}
    (evaluates : EvaluatesInTurn fuel values machine literals after) :
    ∀ {parameters : List Parameter} {context : Context},
      literals.map Literal.type = parameters.map Parameter.type →
      evaluateArguments (bodyRunner fuel) values parameters context machine =
        (.ok (context.withArguments parameters literals), after) := by
  induction evaluates with
  | done =>
      intro parameters context typed
      simp only [evaluateArguments, Context.withArguments_nil_right]
      rfl
  | value valueEnds _ inductionHypothesis =>
      intro parameters context typed
      obtain ⟨parameter, rest, rfl, sameType, sameTypes⟩ := List.map_eq_cons_iff.mp typed.symm
      simp only [evaluateArguments]
      rw [Run.bind_of_ok valueEnds, if_pos sameType.symm]
      exact inductionHypothesis sameTypes.symm

/-- The arguments of a call by the names of the parameters. -/
def Routine.context (routine : Routine) (literals : List Literal) : Context :=
  Context.withArguments .empty routine.parameters literals

/-- A zoop is called with as many arguments as it has parameters, and these have values of their data
types.  Evaluating them leaves a machine, from which the body is run. -/
structure AcceptedCall
    (fuel : Nat) (machine : Machine κ) (label : String) (values : List Expression)
    (routine : Routine) (literals : List Literal) (after : Machine κ) : Prop where
  found : machine.environment.routine label = .ok routine
  fits : routine.arity = values.length
  evaluates : EvaluatesInTurn fuel values machine literals after
  typed : literals.map Literal.type = routine.parameters.map Parameter.type

/-- The machine in the body of a zoop that is called, with the environment that has its arguments. -/
def Machine.called (machine : Machine κ) (context : Context) (entered : Environment) : Machine κ :=
  (machine.became (.entered context) entered).inside .routineBody

/-- The machine after a body, out of its scope and without the arguments of its call. -/
def Machine.returned (machine : Machine κ) : Machine κ :=
  let outside := machine.became .closed machine.environment.popScope
  outside.became .left outside.environment.popContext

/-- How a call ends whose body has ended in some way: outside of the body, with the value of the call if
the body has come to its end. -/
def callEnding (position : Position) (routine : Routine) :
    Outcome RuntimeError Flow × Machine κ → Outcome RuntimeError Literal × Machine κ
  | (.ok flow, left) => callResult position routine flow left.returned
  | (.error error, left) => (.error error, left.returned)
  | (.fault, left) => (.fault, left.returned)
  | (.outOfFuel, left) => (.outOfFuel, left.returned)

/-- With room for its arguments a call runs the body, and ends as the body does. -/
theorem enter_eq_callEnding
    {run : BodyRunner κ} {position : Position} {routine : Routine} {context : Context}
    {machine : Machine κ} {entered : Environment}
    (push : machine.environment.pushContext context = .ok entered) :
    enter run position routine context machine =
      callEnding position routine (run routine.body (machine.called context entered)) := by
  rcases ends : run routine.body (machine.called context entered) with ⟨outcome, left⟩
  have inside : Run.inContext position context (Run.inScope .routineBody (run routine.body)) machine =
      (outcome, left.returned) := by
    simp only [Machine.called, Machine.inside] at ends
    simp only [Run.inContext, push, Run.inScope, ends]
    rfl
  unfold enter
  cases outcome using Outcome.stop_cases with
  | ok flow => exact Run.bind_of_ok inside
  | stopped stop =>
      rw [Run.bind_of_stop inside]
      cases stop <;> rfl

namespace AcceptedCall

variable
    {fuel : Nat} {machine after : Machine κ} {position : Position} {label : String}
    {values : List Expression} {routine : Routine} {literals : List Literal}
    (accepted : AcceptedCall fuel machine label values routine literals after)

include accepted

theorem argumentsEnd :
    evaluateArguments (bodyRunner fuel) values routine.parameters .empty machine =
      (.ok (routine.context literals), after) :=
  accepted.evaluates.evaluateArguments_eq_ok accepted.typed

/-- The call goes on with entering the zoop. -/
theorem evaluate_eq :
    evaluate (bodyRunner fuel) (.call position label values) machine =
      enter (bodyRunner fuel) position routine (routine.context literals) after := by
  simp only [evaluate]
  rw [Run.ask_bind_of_ok accepted.found, if_pos accepted.fits]
  exact Run.bind_of_ok accepted.argumentsEnd

/-- If there is room for the arguments, the call ends as the body does that is run with them. -/
theorem evaluate_eq_callEnding
    {entered : Environment}
    (push : after.environment.pushContext (routine.context literals) = .ok entered) :
    evaluate (bodyRunner fuel) (.call position label values) machine =
      callEnding position routine
        (bodyRunner fuel routine.body (after.called (routine.context literals) entered)) := by
  rw [accepted.evaluate_eq]
  exact enter_eq_callEnding push

/-- The body of the zoop is run if there is room for the arguments. -/
theorem step
    {entered : Environment}
    (push : after.environment.pushContext (routine.context literals) = .ok entered) :
    Step ⟨fuel, .expression (.call position label values), machine⟩
      ⟨fuel, .zoop routine.body, after.called (routine.context literals) entered⟩ :=
  .called accepted.found accepted.fits accepted.argumentsEnd push

/-- No other body is run by the call, other than by its arguments. -/
theorem eq_of_step
    {next : Point κ} (step : Step ⟨fuel, .expression (.call position label values), machine⟩ next)
    (isZoop : next.task.isZoop = true) :
    ∃ entered, after.environment.pushContext (routine.context literals) = .ok entered ∧
      next = ⟨fuel, .zoop routine.body, after.called (routine.context literals) entered⟩ := by
  cases step with
  | arguments => cases isZoop
  | @called _ _ _ entered _ _ _ other context found _ argumentsEnd push =>
      have sameRoutine : routine = other := Except.ok.inj (accepted.found.symm.trans found)
      subst sameRoutine
      have sameEnd := accepted.argumentsEnd.symm.trans argumentsEnd
      simp only [Prod.mk.injEq, Outcome.ok.injEq] at sameEnd
      obtain ⟨rfl, rfl⟩ := sameEnd
      exact ⟨entered, push, rfl⟩

end AcceptedCall

/-- In a call the name of a parameter stands for its argument. -/
theorem Environment.lookup_of_topContext
    {environment : Environment} {context : Context} {name : String} {value : Literal}
    (isTop : environment.topContext? = some context) (bound : context.get? name = some value) :
    environment.lookup ⟨false, name⟩ = .ok value := by
  have isArgument : environment.argument? ⟨false, name⟩ = some value := by
    rw [argument?, isTop]
    exact bound
  rw [lookup, isArgument]

theorem Machine.topContext?_called
    {machine : Machine κ} {environment entered : Environment} {context : Context}
    (push : environment.pushContext context = .ok entered) :
    (machine.called context entered).environment.topContext? = some context := by
  obtain ⟨contexts, _, items, rfl⟩ := Environment.pushContext_eq_ok push
  exact congrArg List.head? items

/-! ## The stack of contexts from point to point -/

/-- However a part ends, it leaves the contexts as it has found them. -/
theorem Task.contexts_of_run
    {fuel : Nat} {machine after : Machine κ} (task : Task) {outcome : Outcome RuntimeError task.Result}
    (ends : task.run fuel machine = (outcome, after)) :
    after.environment.contexts = machine.environment.contexts :=
  (task.disciplined_of_run ends).contexts

theorem Point.contexts_of_ending (point : Point κ) :
    point.ending.2.environment.contexts = point.machine.environment.contexts := by
  have ends : point.task.run point.fuel point.machine = (point.ending.1, point.ending.2) := rfl
  exact point.task.contexts_of_run ends

/-- A step other than into the body of a zoop leaves the contexts as they are. -/
theorem Step.contexts_of_not_zoop
    {point next : Point κ} (step : Step point next) (sameCall : next.task.isZoop = false) :
    next.machine.environment.contexts = point.machine.environment.contexts := by
  cases step with
  | called => cases sameCall
  | declared | reassigned | grouped | operand | leftOperand | casted | arguments | argument | zoop
  | effect | printed | givenBack | block | first | loop | round | statement | guard | branch
  | otherwiseBody | top => rfl
  | rightOperand leftEnds => exact Task.contexts_of_run (.expression _) leftEnds
  | moreArguments valueEnds _ => exact Task.contexts_of_run (.expression _) valueEnds
  | others firstEnds => exact Task.contexts_of_run (.branch _) firstEnds
  | otherwise firstEnds othersEnd =>
      have betweenSame := Task.contexts_of_run (.branch _) firstEnds
      have afterSame := Task.contexts_of_run (.branches _) othersEnd
      exact afterSame.trans betweenSame
  | moreRounds roundEnds => exact Task.contexts_of_run (.statements _) roundEnds
  | moreStatements statementEnds => exact Task.contexts_of_run (.statement _) statementEnds
  | guarded guardEnds _ =>
      have guardSame := Task.contexts_of_run (.expression _) guardEnds
      exact guardSame
  | moreBranches branchEnds => exact Task.contexts_of_run (.branch _) branchEnds
  | moreTop statementEnds => exact Task.contexts_of_run (.statement _) statementEnds

/-- A step into the body of a zoop puts the arguments of the call on top. -/
theorem Step.contexts_of_zoop
    {point next : Point κ} (step : Step point next) (entersCall : next.task.isZoop = true) :
    ∃ context, next.machine.environment.contexts.items =
      context :: point.machine.environment.contexts.items := by
  cases step with
  | @called _ _ after entered _ _ _ _ context found fits argumentsEnd push =>
      obtain ⟨contexts, _, items, rfl⟩ := Environment.pushContext_eq_ok push
      have sameBefore := Task.contexts_of_run (.arguments _ _ _) argumentsEnd
      refine ⟨context, ?_⟩
      rw [← sameBefore]
      exact items
  | _ => cases entersCall

/-! ## Points inside calls -/

/-- Running a point comes to another one, inside of a number of calls that it has entered and not
left. -/
inductive VisitsWithin (start : Point κ) : Nat → Point κ → Prop where
  | here : VisitsWithin start 0 start
  | onward {calls : Nat} {point next : Point κ}
      (visits : VisitsWithin start calls point) (step : Step point next)
      (sameCall : next.task.isZoop = false) : VisitsWithin start calls next
  | into {calls : Nat} {point next : Point κ}
      (visits : VisitsWithin start calls point) (step : Step point next)
      (entersCall : next.task.isZoop = true) : VisitsWithin start (calls + 1) next

namespace VisitsWithin

variable {start point : Point κ} {calls : Nat}

theorem visits (within : VisitsWithin start calls point) : Visits start point := by
  induction within with
  | here => exact .here
  | onward _ step _ inductionHypothesis => exact .next inductionHypothesis step
  | into _ step _ inductionHypothesis => exact .next inductionHypothesis step

/-- The contexts are those of the start with one more for each call. -/
theorem contexts (within : VisitsWithin start calls point) :
    ∃ entered, entered.length = calls ∧
      point.machine.environment.contexts.items =
        entered ++ start.machine.environment.contexts.items := by
  induction within with
  | here => exact ⟨[], rfl, rfl⟩
  | onward _ step sameCall inductionHypothesis =>
      obtain ⟨entered, count, items⟩ := inductionHypothesis
      refine ⟨entered, count, ?_⟩
      rw [step.contexts_of_not_zoop sameCall]
      exact items
  | into _ step entersCall inductionHypothesis =>
      obtain ⟨entered, count, items⟩ := inductionHypothesis
      obtain ⟨context, onTop⟩ := step.contexts_of_zoop entersCall
      refine ⟨context :: entered, by rw [List.length_cons, count], ?_⟩
      rw [onTop, items, List.cons_append]

/-- Inside of no further call the contexts are those of the start. -/
theorem same_contexts (within : VisitsWithin start 0 point) :
    point.machine.environment.contexts = start.machine.environment.contexts := by
  obtain ⟨entered, count, items⟩ := within.contexts
  rw [List.length_eq_zero_iff.mp count, List.nil_append] at items
  exact BoundedStack.eq_of_items items

/-- Each call whose body is run has taken one of the fuel. -/
theorem fuel_add_calls
    (within : VisitsWithin start calls point) (noZoop : start.task.isZoop = false) :
    point.fuel + calls = start.fuel + point.task.isZoop.toNat := by
  induction within with
  | here => rw [noZoop]; rfl
  | onward _ step sameCall inductionHypothesis =>
      rw [sameCall]
      cases step with
      | zoop =>
          simp only [Task.isZoop, Bool.toNat_true, Bool.toNat_false] at inductionHypothesis ⊢
          omega
      | called => cases sameCall
      | _ => exact inductionHypothesis
  | into _ step entersCall inductionHypothesis =>
      rw [entersCall]
      cases step with
      | called =>
          simp only [Task.isZoop, Bool.toNat_true, Bool.toNat_false] at inductionHypothesis ⊢
          omega
      | _ => cases entersCall

end VisitsWithin

/-- Every point that is come to is inside of some number of calls. -/
theorem Visits.within {start point : Point κ} (visits : Visits start point) :
    ∃ calls, VisitsWithin start calls point := by
  induction visits with
  | here => exact ⟨0, .here⟩
  | @next _ next _ step inductionHypothesis =>
      obtain ⟨calls, within⟩ := inductionHypothesis
      by_cases entersCall : next.task.isZoop = true
      · exact ⟨calls + 1, .into within step entersCall⟩
      · exact ⟨calls, .onward within step (by simpa using entersCall)⟩

/-- The points of the runs of programs in turn, inside of a number of calls. -/
def Program.VisitedWithin
    (fuel : Nat) (programs : List Program) (console : κ) (calls : Nat) (point : Point κ) : Prop :=
  ∃ earlier program later,
    programs = earlier ++ program :: later ∧
      VisitsWithin
        ⟨fuel, .program program.statements, runInTurn fuel earlier (Machine.start console)⟩
        calls point

end Zoop
