import Zoop.Proofs.Evaluation.Passage

/-!
# The history of a run

A recorder is a console that keeps all changes that it is told of, each with the environment after it,
beside the console that it stands for.  Recording makes no difference to a run.  What is recorded is
complete: each environment comes from the one before it by its change, from the first to the last one of
the run.  What is said about each point of a history is therefore said about each point of the run.
-/

namespace Zoop

open Evaluation

/-! ## Recorders -/

/-- A console with the changes that it has been told of, the last one first. -/
structure Recorder (κ : Type) where
  console : κ
  history : List (Change × Environment)

namespace Recorder

/-- A console of which nothing is recorded yet. -/
def fresh {κ : Type} (console : κ) : Recorder κ :=
  ⟨console, []⟩

instance {κ : Type} [Console κ] : Console (Recorder κ) where
  printLine line recorder :=
    let (answer, console) := Console.printLine line recorder.console
    (answer, { recorder with console := console })
  readLine prompt recorder :=
    let (answer, console) := Console.readLine prompt recorder.console
    (answer, { recorder with console := console })
  notice change environment recorder :=
    ⟨Console.notice change environment recorder.console,
      (change, environment) :: recorder.history⟩

end Recorder

/-- The machine without what is recorded. -/
def Machine.unrecorded {κ : Type} (machine : Machine (Recorder κ)) : Machine κ :=
  ⟨machine.environment, machine.console.console⟩

variable {κ : Type} [Console κ]

/-! ## Recording makes no difference -/

/-- A run does with a recorder what another does without. -/
def Run.Records (α : Type) (recorded : Run (Recorder κ) α) (plain : Run κ α) : Prop :=
  ∀ machine, plain machine.unrecorded = ((recorded machine).1, (recorded machine).2.unrecorded)

namespace Run.Records

variable {α β : Type}

omit [Console κ] in
theorem bind
    {recorded : Run (Recorder κ) α} {plain : Run κ α}
    {recordedNext : α → Run (Recorder κ) β} {plainNext : α → Run κ β}
    (first : Run.Records α recorded plain)
    (next : ∀ value, Run.Records β (recordedNext value) (plainNext value)) :
    Run.Records β (recorded >>= recordedNext) (plain >>= plainNext) := by
  intro machine
  have firstSame := first machine
  apply Run.bind_cases fun result =>
    (plain >>= plainNext) machine.unrecorded = (result.1, result.2.unrecorded)
  · intro value after ends
    rw [ends] at firstSame
    rw [Run.bind_of_ok firstSame]
    exact next value after
  · intro stop after ends
    rw [ends] at firstSame
    rw [Run.bind_of_stop firstSame]

omit [Console κ] in
theorem ask (position : Position) (question : Environment → Except RuntimeCause α) :
    Run.Records (κ := κ) α (Run.ask position question) (Run.ask position question) := by
  intro machine
  simp only [Run.ask, Run.ofResultAt, Machine.unrecorded]
  split <;> rfl

theorem perform (position : Position) (change : Change) :
    Run.Records (κ := κ) Unit (Run.perform position change) (Run.perform position change) := by
  intro machine
  simp only [Run.perform, Machine.unrecorded]
  split <;> rfl

theorem inScope
    {recorded : Run (Recorder κ) α} {plain : Run κ α} (kind : ScopeKind)
    (inside : Run.Records α recorded plain) :
    Run.Records α (Run.inScope kind recorded) (Run.inScope kind plain) := by
  intro machine
  have insideSame :=
    inside (machine.became (.opened kind) (machine.environment.pushScope kind))
  have start :
      machine.unrecorded.became (.opened kind) (machine.unrecorded.environment.pushScope kind) =
        (machine.became (.opened kind) (machine.environment.pushScope kind)).unrecorded :=
    rfl
  simp only [Run.inScope]
  rw [start, insideSame]
  rfl

theorem inContext
    {recorded : Run (Recorder κ) α} {plain : Run κ α} (position : Position) (context : Context)
    (inside : Run.Records α recorded plain) :
    Run.Records α
      (Run.inContext position context recorded) (Run.inContext position context plain) := by
  intro machine
  have same : machine.unrecorded.environment = machine.environment := rfl
  simp only [Run.inContext, same]
  cases push : machine.environment.pushContext context with
  | error cause => rfl
  | ok entered =>
      have insideSame := inside (machine.became (.entered context) entered)
      have start :
          machine.unrecorded.became (.entered context) entered =
            (machine.became (.entered context) entered).unrecorded :=
        rfl
      simp only
      rw [start, insideSame]
      rfl

theorem print (position : Position) (line : String) :
    Run.Records (κ := κ) Unit (Run.print position line) (Run.print position line) := by
  intro machine
  simp only [Run.print, Machine.unrecorded, Console.printLine]
  rcases Console.printLine line machine.console.console with ⟨answer, console⟩
  cases answer <;> rfl

theorem read (position : Position) (prompt : String) :
    Run.Records (κ := κ) String (Run.read position prompt) (Run.read position prompt) := by
  intro machine
  simp only [Run.read, Machine.unrecorded, Console.readLine]
  rcases Console.readLine prompt machine.console.console with ⟨answer, console⟩
  rcases answer with reason | line
  · rfl
  · cases line <;> rfl

theorem congruence : Congruence Condition.trivial (Run.Records (κ := κ)) where
  value _ := fun _ => rfl
  failure _ _ := fun _ => rfl
  sequence first next := first.bind next
  lookup position _ := ask position _
  routine position _ next :=
    (ask position _).bind fun routine => next routine (Condition.admits_trivial routine)
  define position _ _ := perform position _
  declare position _ _ := perform position _
  scope kind inside := inside.inScope kind
  print := print
  read := read

theorem uniform : UniformCongruence Condition.trivial (Run.Records (κ := κ)) where
  toCongruence := congruence
  fault := fun _ => rfl
  exhausted := fun _ => rfl
  context position context inside := inside.inContext position context
  reassignments fuel :=
    congruence.reassignments (bodyRunner fuel) (bodyRunner fuel)
      fun position _ _ => perform position _

end Run.Records

/-- Programs in turn do with a recorder what they do without. -/
theorem Program.runInTurn_unrecorded (fuel : Nat) (programs : List Program) :
    ∀ machine : Machine (Recorder κ),
      (runInTurn fuel programs machine).unrecorded = runInTurn fuel programs machine.unrecorded := by
  induction programs with
  | nil => exact fun _ => rfl
  | cons program rest inductionHypothesis =>
      intro machine
      have same :=
        Run.Records.uniform.runWith fuel program (Condition.trivial_inStatements _) machine
      rw [runInTurn, runInTurn, inductionHypothesis, same]

/-! ## What is recorded is complete -/

theorem Change.Fits.of_makes
    {condition : Condition} {change : Change} (made : condition.Makes change) : change.Fits := by
  cases change with
  | defined subject type value => exact made
  | assigned name type value => exact made.elim
  | _ => exact trivial

/-- A history leads from one environment to another, each change from what the changes before it have
left. -/
inductive Reaches (start : Environment) : List (Change × Environment) → Environment → Prop where
  | start : Reaches start [] start
  | step
      {earlier : List (Change × Environment)} {before after : Environment} {change : Change}
      (reached : Reaches start earlier before)
      (fits : change.Fits)
      (applied : change.apply before = .ok after) :
      Reaches start ((change, after) :: earlier) after

/-- A statement about each point of a history: about its change, the environment there, and the points
before it. -/
def Throughout (Holds : Change → Environment → List (Change × Environment) → Prop) :
    List (Change × Environment) → Prop
  | [] => True
  | (change, environment) :: earlier =>
      Holds change environment earlier ∧ Throughout Holds earlier

instance decidableThroughout
    (Holds : Change → Environment → List (Change × Environment) → Prop)
    [decide : ∀ change environment earlier, Decidable (Holds change environment earlier)] :
    (history : List (Change × Environment)) → Decidable (Throughout Holds history)
  | [] => .isTrue trivial
  | (change, environment) :: earlier =>
      have := decidableThroughout Holds earlier
      inferInstanceAs (Decidable (Holds change environment earlier ∧ Throughout Holds earlier))

/-- The history of a machine leads to its environment. -/
def Machine.Reached (start : Environment) (machine : Machine (Recorder κ)) : Prop :=
  Reaches start machine.console.history machine.environment

theorem Machine.Reached.became
    {start after : Environment} {machine : Machine (Recorder κ)} {change : Change}
    (reached : machine.Reached start) (fits : change.Fits)
    (applied : change.apply machine.environment = .ok after) :
    (machine.became change after).Reached start :=
  Reaches.step reached fits applied

/-- Runs lead on from recorded machines to recorded machines. -/
theorem Recorder.passage :
    Passage Condition.trivial (Machine.Reached (κ := κ) .initial) fun _ _ => True where
  admits _ := fun routine _ => Condition.admits_trivial routine
  becomes reached made applied := reached.became (.of_makes made) applied
  prints _ reached := reached
  reads _ reached := reached
  refl _ := trivial
  trans _ _ := trivial
  define _ := trivial
  declare _ := trivial
  scope _ := trivial
  context _ _ := trivial

theorem Recorder.uniform :
    UniformCongruence Condition.trivial fun α (run _ : Run (Recorder κ) α) =>
      run.Passes (Machine.Reached .initial) fun _ _ => True :=
  Recorder.passage.uniform_of_assign fun _ value reached assigned =>
    have fits : value.type = value.type := rfl
    ⟨reached.became fits assigned, trivial⟩

theorem Program.runInTurn_reached (fuel : Nat) (programs : List Program) (console : κ) :
    (runInTurn fuel programs (Machine.start (Recorder.fresh console))).Reached .initial := by
  apply runInTurn_keeps (Machine.Reached .initial)
  · intro program _ machine reached
    exact (Recorder.uniform.runWith fuel program (Condition.trivial_inStatements _) machine reached).1
  · exact Reaches.start

end Zoop
