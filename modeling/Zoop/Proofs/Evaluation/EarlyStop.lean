import Zoop.Proofs.Evaluation.Congruence
import Zoop.Proofs.Evaluation.Points
import Zoop.Proofs.Evaluation.Transcript

/-!
# Consoles that stop a run early

Of two consoles one may do as the other does up to some call, to which it gives an answer that stops the
run.  Then every program runs on both of them in step up to that call.  There the one run ends, whatever
it is in the midst of, and does nothing more to its console; the other goes on.  So the other run comes
to all points to which the one that is stopped comes.
-/

namespace Zoop

open Evaluation

variable {κ₁ κ₂ : Type}

/-- Two runs have ended in step, or the first has been stopped by an error. -/
inductive Compared
    (InStep : κ₁ → κ₂ → Prop) (Stopped : RuntimeError → κ₁ → κ₂ → Prop) {α : Type} :
    Outcome RuntimeError α × Machine κ₁ → Outcome RuntimeError α × Machine κ₂ → Prop where
  | inStep {outcome environment console₁ console₂} (consoles : InStep console₁ console₂) :
      Compared InStep Stopped
        (outcome, ⟨environment, console₁⟩) (outcome, ⟨environment, console₂⟩)
  | stopped {error machine₁ ending₂} (consoles : Stopped error machine₁.console ending₂.2.console) :
      Compared InStep Stopped (.error error, machine₁) ending₂

/-- What is done to both environments afterwards leaves the consoles alone. -/
theorem Compared.leave
    {InStep : κ₁ → κ₂ → Prop} {Stopped : RuntimeError → κ₁ → κ₂ → Prop} {α : Type}
    {ending₁ : Outcome RuntimeError α × Machine κ₁} {ending₂ : Outcome RuntimeError α × Machine κ₂}
    (compared : Compared InStep Stopped ending₁ ending₂)
    (change : Environment → Environment) :
    Compared InStep Stopped
      (ending₁.1, ⟨change ending₁.2.environment, ending₁.2.console⟩)
      (ending₂.1, ⟨change ending₂.2.environment, ending₂.2.console⟩) := by
  cases compared with
  | inStep consoles => exact .inStep consoles
  | stopped stopped => exact .stopped stopped

variable [Console κ₁] [Console κ₂]

/-- The first console answers as the second does, or it stops the run; and nothing that the second
console is asked later takes this back. -/
structure EarlyStop
    (InStep : κ₁ → κ₂ → Prop) (Stopped : RuntimeError → κ₁ → κ₂ → Prop) : Prop where
  firstSilent : Console.Silent κ₁
  secondSilent : Console.Silent κ₂
  print : ∀ {console₁ console₂} (environment : Environment) (position : Position) (line : String),
    InStep console₁ console₂ →
    Compared InStep Stopped
      (Run.print position line ⟨environment, console₁⟩)
      (Run.print position line ⟨environment, console₂⟩)
  read : ∀ {console₁ console₂} (environment : Environment) (position : Position) (prompt : String),
    InStep console₁ console₂ →
    Compared InStep Stopped
      (Run.read position prompt ⟨environment, console₁⟩)
      (Run.read position prompt ⟨environment, console₂⟩)
  printsOn : ∀ {error console₁ console₂} (line : String),
    Stopped error console₁ console₂ →
    Stopped error console₁ (Console.printLine line console₂).2
  readsOn : ∀ {error console₁ console₂} (prompt : String),
    Stopped error console₁ console₂ →
    Stopped error console₁ (Console.readLine prompt console₂).2

/-- Two runs are in step until the first is stopped, and the second takes nothing back. -/
structure Run.InStepUntil
    (InStep : κ₁ → κ₂ → Prop) (Stopped : RuntimeError → κ₁ → κ₂ → Prop)
    (α : Type) (run₁ : Run κ₁ α) (run₂ : Run κ₂ α) : Prop where
  together : ∀ {console₁ console₂} (environment : Environment),
    InStep console₁ console₂ →
    Compared InStep Stopped (run₁ ⟨environment, console₁⟩) (run₂ ⟨environment, console₂⟩)
  goesOn : ∀ {error console₁} (machine : Machine κ₂),
    Stopped error console₁ machine.console → Stopped error console₁ (run₂ machine).2.console

/-- What a question to an environment gives on its own, with the environment as it was. -/
def Environment.answered
    {α : Type} (environment : Environment) (position : Position)
    (question : Environment → Except RuntimeCause α) : Outcome RuntimeError α × Environment :=
  match question environment with
  | .ok value => (.ok value, environment)
  | .error cause => (.error ⟨cause, position⟩, environment)

/-- What a change of an environment gives on its own, with what it leaves. -/
def Environment.changed
    (environment : Environment) (position : Position) (change : Change) :
    Outcome RuntimeError Unit × Environment :=
  match change.apply environment with
  | .ok after => (.ok (), after)
  | .error cause => (.error ⟨cause, position⟩, environment)

namespace Run.InStepUntil

variable
    {InStep : κ₁ → κ₂ → Prop} {Stopped : RuntimeError → κ₁ → κ₂ → Prop} {α β : Type}

omit [Console κ₁] [Console κ₂] in
/-- A run that leaves the console alone and depends on the environment only is in step. -/
theorem of_environment
    {run₁ : Run κ₁ α} {run₂ : Run κ₂ α} (result : Environment → Outcome RuntimeError α × Environment)
    (first : ∀ machine, run₁ machine =
      ((result machine.environment).1, ⟨(result machine.environment).2, machine.console⟩))
    (second : ∀ machine, run₂ machine =
      ((result machine.environment).1, ⟨(result machine.environment).2, machine.console⟩)) :
    Run.InStepUntil InStep Stopped α run₁ run₂ where
  together environment consoles := by
    rw [first, second]
    exact .inStep consoles
  goesOn machine stopped := by
    rw [second]
    exact stopped

omit [Console κ₁] [Console κ₂] in
theorem outcome (given : Outcome RuntimeError α) :
    Run.InStepUntil InStep Stopped α
      (fun machine => (given, machine)) (fun machine => (given, machine)) :=
  of_environment (fun environment => (given, environment)) (fun _ => rfl) (fun _ => rfl)

omit [Console κ₁] [Console κ₂] in
theorem bind
    {run₁ : Run κ₁ α} {run₂ : Run κ₂ α} {next₁ : α → Run κ₁ β} {next₂ : α → Run κ₂ β}
    (first : Run.InStepUntil InStep Stopped α run₁ run₂)
    (next : ∀ value, Run.InStepUntil InStep Stopped β (next₁ value) (next₂ value)) :
    Run.InStepUntil InStep Stopped β (run₁ >>= next₁) (run₂ >>= next₂) := by
  have goesOn : ∀ {error console₁} (machine : Machine κ₂),
      Stopped error console₁ (run₂ machine).2.console →
      Stopped error console₁ ((run₂ >>= next₂) machine).2.console := by
    intro error console₁ machine stopped
    apply Run.bind_cases fun ending => Stopped error console₁ ending.2.console
    · intro value after ends
      rw [ends] at stopped
      exact (next value).goesOn after stopped
    · intro stop after ends
      rwa [ends] at stopped
  refine ⟨?_, fun machine stopped => goesOn machine (first.goesOn machine stopped)⟩
  intro console₁ console₂ environment consoles
  have compared := first.together environment consoles
  rcases firstEnds : run₁ ⟨environment, console₁⟩ with ⟨outcome₁, after₁⟩
  rcases secondEnds : run₂ ⟨environment, console₂⟩ with ⟨outcome₂, after₂⟩
  rw [firstEnds, secondEnds] at compared
  cases compared with
  | inStep consolesAfter =>
      cases outcome₁ using Outcome.stop_cases with
      | ok value =>
          rw [Run.bind_of_ok firstEnds, Run.bind_of_ok secondEnds]
          exact (next value).together _ consolesAfter
      | stopped stop =>
          rw [Run.bind_of_stop firstEnds, Run.bind_of_stop secondEnds]
          exact .inStep consolesAfter
  | stopped stopped =>
      rw [Run.bind_of_error firstEnds]
      apply Compared.stopped
      apply goesOn
      rwa [secondEnds]

omit [Console κ₁] [Console κ₂] in
theorem ask (position : Position) (question : Environment → Except RuntimeCause α) :
    Run.InStepUntil InStep Stopped α (Run.ask position question) (Run.ask position question) := by
  apply of_environment fun environment => environment.answered position question
  all_goals
    intro machine
    simp only [Run.ask, Run.ofResultAt, Environment.answered]
    cases question machine.environment <;> rfl

variable (earlyStop : EarlyStop InStep Stopped)

include earlyStop

theorem perform (position : Position) (change : Change) :
    Run.InStepUntil InStep Stopped Unit
      (Run.perform position change) (Run.perform position change) := by
  apply of_environment fun environment => environment.changed position change
  · intro machine
    simp only [Run.perform, Machine.became_of_silent earlyStop.firstSilent, Environment.changed]
    cases change.apply machine.environment <;> rfl
  · intro machine
    simp only [Run.perform, Machine.became_of_silent earlyStop.secondSilent, Environment.changed]
    cases change.apply machine.environment <;> rfl

theorem inScope
    {run₁ : Run κ₁ α} {run₂ : Run κ₂ α} (kind : ScopeKind)
    (inside : Run.InStepUntil InStep Stopped α run₁ run₂) :
    Run.InStepUntil InStep Stopped α (Run.inScope kind run₁) (Run.inScope kind run₂) := by
  constructor
  · intro console₁ console₂ environment consoles
    simp only [Run.inScope, Machine.became_of_silent earlyStop.firstSilent,
      Machine.became_of_silent earlyStop.secondSilent]
    exact (inside.together (environment.pushScope kind) consoles).leave Environment.popScope
  · intro error console₁ machine stopped
    simp only [Run.inScope, Machine.became_of_silent earlyStop.secondSilent]
    exact inside.goesOn _ stopped

theorem inContext
    {run₁ : Run κ₁ α} {run₂ : Run κ₂ α} (position : Position) (context : Context)
    (inside : Run.InStepUntil InStep Stopped α run₁ run₂) :
    Run.InStepUntil InStep Stopped α
      (Run.inContext position context run₁) (Run.inContext position context run₂) := by
  constructor
  · intro console₁ console₂ environment consoles
    simp only [Run.inContext, Machine.became_of_silent earlyStop.firstSilent,
      Machine.became_of_silent earlyStop.secondSilent]
    cases environment.pushContext context with
    | error cause => exact .inStep consoles
    | ok entered => exact (inside.together entered consoles).leave Environment.popContext
  · intro error console₁ machine stopped
    simp only [Run.inContext, Machine.became_of_silent earlyStop.secondSilent]
    cases machine.environment.pushContext context with
    | error cause => exact stopped
    | ok entered => exact inside.goesOn ⟨entered, machine.console⟩ stopped

theorem print (position : Position) (line : String) :
    Run.InStepUntil InStep Stopped Unit (Run.print position line) (Run.print position line) := by
  refine ⟨fun environment consoles => earlyStop.print environment position line consoles, ?_⟩
  intro error console₁ machine stopped
  have stoppedAfter := earlyStop.printsOn line stopped
  unfold Run.print
  split <;> next printed => rwa [printed] at stoppedAfter

theorem read (position : Position) (prompt : String) :
    Run.InStepUntil InStep Stopped String
      (Run.read position prompt) (Run.read position prompt) := by
  refine ⟨fun environment consoles => earlyStop.read environment position prompt consoles, ?_⟩
  intro error console₁ machine stopped
  have stoppedAfter := earlyStop.readsOn prompt stopped
  unfold Run.read
  split <;> next answered => rwa [answered] at stoppedAfter

theorem congruence : Congruence Condition.trivial (Run.InStepUntil InStep Stopped) where
  value given := outcome (.ok given)
  failure cause position := outcome (.error ⟨cause, position⟩)
  sequence first next := first.bind next
  lookup position _ := ask position _
  routine position _ next :=
    (ask position _).bind fun routine => next routine (Condition.admits_trivial routine)
  define position _ _ := perform earlyStop position _
  declare position _ _ := perform earlyStop position _
  scope kind inside := inScope earlyStop kind inside
  print := print earlyStop
  read := read earlyStop

theorem uniform : UniformCongruence Condition.trivial (Run.InStepUntil InStep Stopped) where
  toCongruence := congruence earlyStop
  fault := outcome .fault
  exhausted := outcome .outOfFuel
  context position context inside := inContext earlyStop position context inside
  reassignments fuel :=
    (congruence earlyStop).reassignments (bodyRunner fuel) (bodyRunner fuel)
      fun position _ _ => perform earlyStop position _

omit [Console κ₁] [Console κ₂] earlyStop in
/-- A run that ends with a value on the first console ends with it on the second. -/
theorem of_ok
    {run₁ : Run κ₁ α} {run₂ : Run κ₂ α} (related : Run.InStepUntil InStep Stopped α run₁ run₂)
    {environment : Environment} {console₁ : κ₁} {console₂ : κ₂}
    (consoles : InStep console₁ console₂) {value : α} {after : Machine κ₁}
    (ends : run₁ ⟨environment, console₁⟩ = (.ok value, after)) :
    ∃ left, InStep after.console left ∧
      run₂ ⟨environment, console₂⟩ = (.ok value, ⟨after.environment, left⟩) := by
  have compared := related.together environment consoles
  rcases secondEnds : run₂ ⟨environment, console₂⟩ with ⟨outcome₂, after₂⟩
  rw [ends, secondEnds] at compared
  cases compared with
  | inStep consolesAfter => exact ⟨_, consolesAfter, rfl⟩

end Run.InStepUntil

/-- A program runs on both consoles in step until the first one stops it. -/
theorem EarlyStop.runWith
    {InStep : κ₁ → κ₂ → Prop} {Stopped : RuntimeError → κ₁ → κ₂ → Prop}
    (earlyStop : EarlyStop InStep Stopped) (fuel : Nat) (program : Program)
    (environment : Environment) {console₁ : κ₁} {console₂ : κ₂}
    (consoles : InStep console₁ console₂) :
    Compared InStep Stopped
      (program.runWith fuel ⟨environment, console₁⟩)
      (program.runWith fuel ⟨environment, console₂⟩) :=
  ((Run.InStepUntil.uniform earlyStop).runWith fuel program
    (Condition.trivial_inStatements _)).together environment consoles

/-! ## The points of the run that goes on -/

/-- The same environment, with consoles in step. -/
structure Machine.Together
    (InStep : κ₁ → κ₂ → Prop) (machine₁ : Machine κ₁) (machine₂ : Machine κ₂) : Prop where
  environment : machine₂.environment = machine₁.environment
  consoles : InStep machine₁.console machine₂.console

namespace EarlyStop

variable
    {InStep : κ₁ → κ₂ → Prop} {Stopped : RuntimeError → κ₁ → κ₂ → Prop}
    (earlyStop : EarlyStop InStep Stopped)

include earlyStop

theorem became
    {machine₁ : Machine κ₁} {machine₂ : Machine κ₂}
    (together : Machine.Together InStep machine₁ machine₂)
    (change : Change) (environment : Environment) :
    Machine.Together InStep
      (machine₁.became change environment) (machine₂.became change environment) := by
  rw [Machine.became_of_silent earlyStop.firstSilent, Machine.became_of_silent earlyStop.secondSilent]
  exact ⟨rfl, together.consoles⟩

theorem inside
    {machine₁ : Machine κ₁} {machine₂ : Machine κ₂}
    (together : Machine.Together InStep machine₁ machine₂)
    (kind : ScopeKind) :
    Machine.Together InStep (machine₁.inside kind) (machine₂.inside kind) := by
  unfold Machine.inside
  rw [together.environment]
  exact earlyStop.became together _ _

theorem ends
    {machine₁ after₁ : Machine κ₁} {machine₂ : Machine κ₂}
    (together : Machine.Together InStep machine₁ machine₂)
    {fuel : Nat} (task : Task) {value : task.Result}
    (ends : task.run fuel machine₁ = (.ok value, after₁)) :
    ∃ after₂, task.run fuel machine₂ = (.ok value, after₂) ∧ Machine.Together InStep after₁ after₂ := by
  obtain ⟨environment, console⟩ := machine₂
  obtain ⟨same, consoles⟩ := together
  cases same
  have inStep := (Run.InStepUntil.uniform earlyStop).task fuel task
  obtain ⟨left, consolesAfter, secondEnds⟩ := inStep.of_ok consoles ends
  exact ⟨_, secondEnds, rfl, consolesAfter⟩

/-- Each step of the first run is a step of the second. -/
theorem step
    {point next : Point κ₁} (step : Step point next)
    {machine : Machine κ₂} (together : Machine.Together InStep point.machine machine) :
    ∃ after, Step ⟨point.fuel, point.task, machine⟩ ⟨next.fuel, next.task, after⟩ ∧
      Machine.Together InStep next.machine after := by
  have environment := together.environment
  cases step with
  | declared => exact ⟨_, .declared, together⟩
  | reassigned found => exact ⟨_, .reassigned (environment ▸ found), together⟩
  | grouped => exact ⟨_, .grouped, together⟩
  | operand => exact ⟨_, .operand, together⟩
  | leftOperand => exact ⟨_, .leftOperand, together⟩
  | rightOperand leftEnds =>
      obtain ⟨after, leftEnds, togetherAfter⟩ := earlyStop.ends together (.expression _) leftEnds
      exact ⟨_, .rightOperand leftEnds, togetherAfter⟩
  | casted => exact ⟨_, .casted, together⟩
  | arguments found fits => exact ⟨_, .arguments (environment ▸ found) fits, together⟩
  | called found fits argumentsEnd push =>
      obtain ⟨between, argumentsEnd, togetherBetween⟩ :=
        earlyStop.ends together (.arguments _ _ _) argumentsEnd
      exact ⟨_, .called (environment ▸ found) fits argumentsEnd (togetherBetween.environment ▸ push),
        earlyStop.inside (earlyStop.became togetherBetween _ _) _⟩
  | argument => exact ⟨_, .argument, together⟩
  | moreArguments valueEnds typed =>
      obtain ⟨after, valueEnds, togetherAfter⟩ := earlyStop.ends together (.expression _) valueEnds
      exact ⟨_, .moreArguments valueEnds typed, togetherAfter⟩
  | zoop => exact ⟨_, .zoop, together⟩
  | effect => exact ⟨_, .effect, together⟩
  | printed => exact ⟨_, .printed, together⟩
  | givenBack => exact ⟨_, .givenBack, together⟩
  | block => exact ⟨_, .block, earlyStop.inside together _⟩
  | first => exact ⟨_, .first, together⟩
  | others firstEnds =>
      obtain ⟨after, firstEnds, togetherAfter⟩ := earlyStop.ends together (.branch _) firstEnds
      exact ⟨_, .others firstEnds, togetherAfter⟩
  | otherwise firstEnds othersEnd =>
      obtain ⟨between, firstEnds, togetherBetween⟩ := earlyStop.ends together (.branch _) firstEnds
      obtain ⟨after, othersEnd, togetherAfter⟩ :=
        earlyStop.ends togetherBetween (.branches _) othersEnd
      exact ⟨_, .otherwise firstEnds othersEnd, togetherAfter⟩
  | loop => exact ⟨_, .loop, together⟩
  | round => exact ⟨_, .round, together⟩
  | moreRounds roundEnds =>
      obtain ⟨after, roundEnds, togetherAfter⟩ := earlyStop.ends together (.statements _) roundEnds
      exact ⟨_, .moreRounds roundEnds, togetherAfter⟩
  | statement => exact ⟨_, .statement, together⟩
  | moreStatements statementEnds =>
      obtain ⟨after, statementEnds, togetherAfter⟩ :=
        earlyStop.ends together (.statement _) statementEnds
      exact ⟨_, .moreStatements statementEnds, togetherAfter⟩
  | guard => exact ⟨_, .guard, together⟩
  | guarded guardEnds passes =>
      obtain ⟨after, guardEnds, togetherAfter⟩ := earlyStop.ends together (.expression _) guardEnds
      exact ⟨_, .guarded guardEnds passes, earlyStop.inside togetherAfter _⟩
  | branch => exact ⟨_, .branch, together⟩
  | moreBranches branchEnds =>
      obtain ⟨after, branchEnds, togetherAfter⟩ := earlyStop.ends together (.branch _) branchEnds
      exact ⟨_, .moreBranches branchEnds, togetherAfter⟩
  | otherwiseBody => exact ⟨_, .otherwiseBody, earlyStop.inside together _⟩
  | top => exact ⟨_, .top, together⟩
  | moreTop statementEnds =>
      obtain ⟨after, statementEnds, togetherAfter⟩ :=
        earlyStop.ends together (.statement _) statementEnds
      exact ⟨_, .moreTop statementEnds, togetherAfter⟩

/-- The second run comes to all points of the first. -/
theorem visits
    {fuel : Nat} {task : Task} {environment : Environment} {console₁ : κ₁} {console₂ : κ₂}
    (consoles : InStep console₁ console₂) {point : Point κ₁}
    (visits : Visits ⟨fuel, task, ⟨environment, console₁⟩⟩ point) :
    ∃ machine, Visits ⟨fuel, task, ⟨environment, console₂⟩⟩ ⟨point.fuel, point.task, machine⟩ ∧
      Machine.Together InStep point.machine machine := by
  induction visits with
  | here => exact ⟨_, .here, rfl, consoles⟩
  | next _ step inductionHypothesis =>
      obtain ⟨machine, visitsSecond, together⟩ := inductionHypothesis
      obtain ⟨after, stepSecond, togetherAfter⟩ := earlyStop.step step together
      exact ⟨after, visitsSecond.next stepSecond, togetherAfter⟩

end EarlyStop

end Zoop
