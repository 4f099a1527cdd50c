import Zoop.Evaluation.Statement

/-!
# Sequences of runs and the values that they store

How a sequence of runs goes on from each end of its first part, how a loop is a sequence of rounds, and
of which data type the values are that declarations and new values store.
-/

namespace Zoop

/-! ## Ends without a value -/

/-- Why a run has no value. -/
inductive Stop where
  | error (cause : RuntimeError)
  | fault
  | outOfFuel

/-- The outcome of a run that has stopped, whatever its value would have been. -/
def Stop.outcome {α : Type} : Stop → Outcome RuntimeError α
  | .error cause => .error cause
  | .fault => .fault
  | .outOfFuel => .outOfFuel

namespace Outcome

/-- A run has a value or it has stopped. -/
@[elab_as_elim]
theorem stop_cases
    {α : Type} {motive : Outcome RuntimeError α → Prop} (ok : ∀ value, motive (.ok value))
    (stopped : ∀ stop : Stop, motive stop.outcome) (outcome : Outcome RuntimeError α) :
    motive outcome := by
  cases outcome with
  | ok value => exact ok value
  | error error => exact stopped (.error error)
  | fault => exact stopped .fault
  | outOfFuel => exact stopped .outOfFuel

end Outcome

namespace Stop

theorem outcome_ne_ok {α : Type} {stop : Stop} {value : α} : stop.outcome ≠ .ok value := by
  cases stop <;> nofun

theorem outcome_inj {α : Type} {first second : Stop} :
    (first.outcome : Outcome RuntimeError α) = second.outcome ↔ first = second := by
  cases first <;> cases second <;> simp [outcome]

end Stop

namespace Outcome

variable {α : Type}

/-- A value or an error. -/
inductive Settled : Outcome RuntimeError α → Prop
  | ok (value : α) : Settled (.ok value)
  | error (cause : RuntimeError) : Settled (.error cause)

/-- A value, an error, or one more way to end. -/
inductive SettledOr (other : Stop) : Outcome RuntimeError α → Prop
  | settled {outcome : Outcome RuntimeError α} (settled : outcome.Settled) : SettledOr other outcome
  | other : SettledOr other other.outcome

theorem SettledOr.ne_fault {outcome : Outcome RuntimeError α} (ends : outcome.SettledOr .outOfFuel) :
    outcome ≠ .fault := by
  cases ends with
  | settled settled => cases settled <;> nofun
  | other => nofun

namespace Settled

variable {κ : Type}

theorem ofResult (result : Except RuntimeError α) (machine : Machine κ) :
    (Run.ofResult result machine).1.Settled := by
  cases result with
  | ok value => exact .ok value
  | error cause => exact .error cause

theorem ofResultAt
    (position : Position) (result : Except RuntimeCause α) (machine : Machine κ) :
    (Run.ofResultAt position result machine).1.Settled := by
  cases result with
  | ok value => exact .ok value
  | error cause => exact .error ⟨cause, position⟩

variable [Console κ]

theorem perform (position : Position) (change : Change) (machine : Machine κ) :
    (Run.perform position change machine).1.Settled := by
  unfold Run.perform
  split
  · exact .ok ()
  · exact .error _

theorem print (position : Position) (line : String) (machine : Machine κ) :
    (Run.print position line machine).1.Settled := by
  unfold Run.print
  split
  · exact .ok ()
  · exact .error _

theorem read (position : Position) (prompt : String) (machine : Machine κ) :
    (Run.read position prompt machine).1.Settled := by
  unfold Run.read
  split
  · exact .ok _
  · exact .error _
  · exact .error _

end Settled

end Outcome

/-! ## Sequences of runs -/

namespace Run

variable {κ α β : Type}

theorem bind_of_ok
    {run : Run κ α} {next : α → Run κ β} {machine after : Machine κ} {value : α}
    (ends : run machine = (.ok value, after)) :
    (run >>= next) machine = next value after := by
  change Run.bind run next machine = next value after
  simp only [Run.bind, ends]

/-- A sequence stops where its first part does. -/
theorem bind_of_stop
    {run : Run κ α} {next : α → Run κ β} {machine after : Machine κ} {stop : Stop}
    (ends : run machine = (stop.outcome, after)) :
    (run >>= next) machine = (stop.outcome, after) := by
  change Run.bind run next machine = (stop.outcome, after)
  cases stop <;> simp only [Run.bind, ends, Stop.outcome]

theorem bind_of_error
    {run : Run κ α} {next : α → Run κ β} {machine after : Machine κ} {error : RuntimeError}
    (ends : run machine = (.error error, after)) :
    (run >>= next) machine = (.error error, after) := by
  have stopped : run machine = ((Stop.error error).outcome, after) := ends
  exact bind_of_stop stopped

/-- What holds of each way in which a sequence goes on holds of the sequence. -/
theorem bind_cases
    {run : Run κ α} {next : α → Run κ β} {machine : Machine κ}
    (Holds : Outcome RuntimeError β × Machine κ → Prop)
    (ok : ∀ value after, run machine = (.ok value, after) → Holds (next value after))
    (stopped : ∀ (stop : Stop) after,
      run machine = (stop.outcome, after) → Holds (stop.outcome, after)) :
    Holds ((run >>= next) machine) := by
  rcases ends : run machine with ⟨outcome, after⟩
  cases outcome using Outcome.stop_cases with
  | ok value =>
      rw [bind_of_ok ends]
      exact ok value after ends
  | stopped stop =>
      rw [bind_of_stop ends]
      exact stopped stop after ends

/-- A sequence that gives a value has come to its second part. -/
theorem bind_eq_ok
    {run : Run κ α} {next : α → Run κ β} {machine after : Machine κ} {value : β}
    (ends : (run >>= next) machine = (.ok value, after)) :
    ∃ first middle, run machine = (.ok first, middle) ∧ next first middle = (.ok value, after) := by
  rcases runEnds : run machine with ⟨outcome, middle⟩
  cases outcome using Outcome.stop_cases with
  | ok first =>
      rw [bind_of_ok runEnds] at ends
      exact ⟨first, middle, rfl, ends⟩
  | stopped stop =>
      rw [bind_of_stop runEnds] at ends
      exact absurd (congrArg Prod.fst ends) Stop.outcome_ne_ok

/-! Results and questions leave the machine as it is, and the console is no part of the environment. -/

theorem ofResult_machine (result : Except RuntimeError α) (machine : Machine κ) :
    (Run.ofResult result machine).2 = machine := by
  unfold Run.ofResult
  split <;> rfl

theorem ofResultAt_machine
    (position : Position) (result : Except RuntimeCause α) (machine : Machine κ) :
    (Run.ofResultAt position result machine).2 = machine := by
  unfold Run.ofResultAt
  split <;> rfl

theorem ask_machine
    (position : Position) (question : Environment → Except RuntimeCause α) (machine : Machine κ) :
    (Run.ask position question machine).2 = machine :=
  ofResultAt_machine position _ machine

theorem callResult_machine
    (position : Position) (routine : Routine) (flow : Flow) (machine : Machine κ) :
    (Evaluation.callResult position routine flow machine).2 = machine := by
  cases flow with
  | next | giveBack | leave => rfl
  | value literal =>
      simp only [Evaluation.callResult]
      split <;> rfl

theorem print_environment
    [Console κ] (position : Position) (line : String) (machine : Machine κ) :
    (Run.print position line machine).2.environment = machine.environment := by
  unfold Run.print
  split <;> rfl

theorem read_environment
    [Console κ] (position : Position) (prompt : String) (machine : Machine κ) :
    (Run.read position prompt machine).2.environment = machine.environment := by
  unfold Run.read
  split <;> rfl

theorem ask_bind_of_ok
    {position : Position} {question : Environment → Except RuntimeCause α} {next : α → Run κ β}
    {machine : Machine κ} {answer : α} (answered : question machine.environment = .ok answer) :
    (Run.ask position question >>= next) machine = next answer machine := by
  apply bind_of_ok
  simp only [Run.ask, Run.ofResultAt, answered]

theorem ask_bind_of_error
    {position : Position} {question : Environment → Except RuntimeCause α} {next : α → Run κ β}
    {machine : Machine κ} {cause : RuntimeCause}
    (refused : question machine.environment = .error cause) :
    (Run.ask position question >>= next) machine = (.error ⟨cause, position⟩, machine) := by
  apply bind_of_error
  simp only [Run.ask, Run.ofResultAt, refused]

theorem bind_pure_machine (run : Run κ α) (value : β) (machine : Machine κ) :
    ((run >>= fun _ => pure value) machine).2 = (run machine).2 := by
  apply bind_cases fun result => result.2 = (run machine).2
  · intro _ after ends
    rw [ends]
    rfl
  · intro _ after ends
    rw [ends]

end Run

namespace Evaluation

variable {κ : Type}

/-- One more round of a loop, as a sequence. -/
theorem repeatBody_succ (position : Position) (body : Run κ Flow) (fuel : Nat) :
    repeatBody position body (fuel + 1) = (do
      match ← body with
      | .next => repeatBody position body fuel
      | .leave => return .next
      | .giveBack => return .giveBack
      | .value _ => Run.fail .unknownLoopResult position) := by
  funext machine
  rw [repeatBody]
  rcases ends : body machine with ⟨outcome, after⟩
  cases outcome using Outcome.stop_cases with
  | ok flow =>
      rw [Run.bind_of_ok ends]
      cases flow <;> rfl
  | stopped stop =>
      rw [Run.bind_of_stop ends]
      cases stop <;> rfl

/-- A declaration stores a value of the data type that it names. -/
theorem type_of_declaredValue
    {subject : Variable} {type : DataType} {position : Position} {literal stored : Literal}
    (accepted : declaredValue subject type position literal = .ok stored) :
    stored.type = type := by
  unfold declaredValue at accepted
  split at accepted
  · next same =>
      injection accepted with equality
      rw [← equality, same]
  · cases accepted

end Evaluation

/-- A cast that succeeds gives a value of its data type. -/
theorem Literal.type_of_cast {literal result : Literal} {target : DataType}
    (accepted : literal.cast target = .ok result) : result.type = target := by
  unfold Literal.cast at accepted
  split at accepted
  · next same =>
      injection accepted with equality
      rw [← equality, same]
  · split at accepted
    · cases accepted
    · cases target <;> simp only at accepted
      case int | uint | dec | udec =>
        split at accepted
        · injection accepted with equality
          rw [← equality]
          rfl
        · cases accepted
      case string | bool =>
        injection accepted with equality
        rw [← equality]
        rfl
      case label =>
        split at accepted
        · injection accepted with equality
          rw [← equality]
          rfl
        · cases accepted
      case void => cases accepted

/-- A new value for a variable is stored as one of the data type that it was made to fit. -/
theorem Evaluation.type_of_reassignedValue
    {name : String} {type : DataType} {position valuePosition : Position}
    {literal stored : Literal}
    (accepted : reassignedValue name type position valuePosition literal = .ok stored) :
    stored.type = type := by
  unfold reassignedValue at accepted
  split at accepted
  · next same =>
      injection accepted with equality
      rw [← equality, same]
  · split at accepted
    · cases casted : literal.cast type with
      | error cause =>
          rw [casted] at accepted
          cases accepted
      | ok result =>
          rw [casted] at accepted
          injection accepted with equality
          rw [← equality]
          exact Literal.type_of_cast casted
    · cases accepted

/-! ## Programs in turn -/

/-- The machine after programs have run in turn, each on what the earlier ones have left, also where
they have failed. -/
def Program.runInTurn {κ : Type} [Console κ] (fuel : Nat) : List Program → Machine κ → Machine κ
  | [], machine => machine
  | program :: rest, machine => runInTurn fuel rest (program.runWith fuel machine).2

theorem Program.runInTurn_append
    {κ : Type} [Console κ] (fuel : Nat) (earlier later : List Program) (machine : Machine κ) :
    runInTurn fuel (earlier ++ later) machine =
      runInTurn fuel later (runInTurn fuel earlier machine) := by
  induction earlier generalizing machine with
  | nil => rfl
  | cons program rest inductionHypothesis => exact inductionHypothesis _

/-- What each program keeps, programs in turn keep. -/
theorem Program.runInTurn_keeps
    {κ : Type} [Console κ] (Kept : Machine κ → Prop) {fuel : Nat} {programs : List Program}
    (keeps : ∀ program ∈ programs, ∀ machine,
      Kept machine → Kept (program.runWith fuel machine).2) :
    ∀ machine, Kept machine → Kept (runInTurn fuel programs machine) := by
  induction programs with
  | nil => exact fun _ kept => kept
  | cons program rest inductionHypothesis =>
      intro machine kept
      apply inductionHypothesis
      · exact fun later member => keeps later (List.mem_cons_of_mem program member)
      · exact keeps program List.mem_cons_self machine kept

end Zoop
