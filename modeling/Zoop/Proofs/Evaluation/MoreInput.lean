import Zoop.Proofs.Evaluation.EarlyStop
import Zoop.Proofs.Evaluation.MoreFuel

/-!
# More input keeps what was decided

Lines of input that a run never asks for make no difference to it.  A run that is cancelled for want of a
line has printed and asked what every run with more lines prints and asks first.
-/

namespace Zoop

/-- The run was stopped because there was no line of input left. -/
def Outcome.Cancelled {α : Type} (outcome : Outcome RuntimeError α) : Prop :=
  ∃ position, outcome = .error ⟨.inputCancelled, position⟩

namespace BufferedConsole

/-- The console with more lines of input behind those that are left. -/
def withMore (console : BufferedConsole) (more : List String) : BufferedConsole :=
  { console with input := console.input ++ more }

/-- The first console has printed and asked what the second one has printed and asked first. -/
structure Begins (console later : BufferedConsole) : Prop where
  output : console.output.toList <+: later.output.toList
  prompts : console.prompts.toList <+: later.prompts.toList

namespace Begins

theorem withMore (console : BufferedConsole) (more : List String) :
    console.Begins (console.withMore more) :=
  ⟨List.prefix_refl _, List.prefix_refl _⟩

theorem print {console later : BufferedConsole} (begins : console.Begins later) (line : String) :
    console.Begins (later.print line) := by
  refine ⟨?_, begins.prompts⟩
  simp only [BufferedConsole.print, Array.toList_push]
  exact begins.output.trans (List.prefix_append _ _)

theorem read {console later : BufferedConsole} (begins : console.Begins later) (prompt : String) :
    console.Begins (later.read prompt).2 := by
  refine ⟨begins.output, ?_⟩
  simp only [BufferedConsole.read, Array.toList_push]
  exact begins.prompts.trans (List.prefix_append _ _)

end Begins

theorem silent : Console.Silent BufferedConsole :=
  fun _ _ _ => rfl

/-- The console with more lines does as the one without until that one has no line to give. -/
theorem earlyStop_withMore (more : List String) :
    EarlyStop
      (fun console later : BufferedConsole => later = console.withMore more)
      (fun error console later => error.cause = .inputCancelled ∧ console.Begins later) where
  firstSilent := silent
  secondSilent := silent
  print environment position line consoles := by
    subst consoles
    exact .inStep rfl
  read {console₁ _} environment position prompt consoles := by
    subst consoles
    obtain ⟨output, prompts, input⟩ := console₁
    cases input with
    | nil =>
        -- no line is left here, whether or not there is one behind
        apply Compared.stopped
        refine ⟨rfl, ?_⟩
        have begins := Begins.withMore (BufferedConsole.read ⟨output, prompts, []⟩ prompt).2 more.tail
        cases more with
        | nil => exact begins
        | cons line rest => exact begins
    | cons line rest => exact .inStep rfl
  printsOn line stopped := ⟨stopped.1, stopped.2.print line⟩
  readsOn prompt stopped := ⟨stopped.1, stopped.2.read prompt⟩

end BufferedConsole

/-- A run that ends otherwise than cancelled ends in the same way with more lines of input, and leaves
these lines.  What a cancelled run has printed and asked is what each run with more lines that ends has
printed and asked first. -/
theorem more_input_keeps_what_was_decided
    (program : Program) (environment : Environment) (lines more : List String) (fuel : Nat)
    {outcome : Outcome RuntimeError Unit} {after : Machine BufferedConsole}
    (ran : program.runWith fuel ⟨environment, BufferedConsole.ofInput lines⟩ = (outcome, after))
    (ended : outcome ≠ .outOfFuel) :
    (¬ outcome.Cancelled → ∀ enough, fuel ≤ enough →
      program.runWith enough ⟨environment, BufferedConsole.ofInput (lines ++ more)⟩ =
        (outcome,
          ⟨after.environment, { after.console with input := after.console.input ++ more }⟩)) ∧
    (outcome.Cancelled → ∀ other longer laterOutcome,
      program.runWith other ⟨environment, BufferedConsole.ofInput (lines ++ more)⟩ =
        (laterOutcome, longer) →
      laterOutcome ≠ .outOfFuel →
      after.console.output.toList <+: longer.console.output.toList ∧
        after.console.prompts.toList <+: longer.console.prompts.toList) := by
  have compared : ∀ enough, fuel ≤ enough →
      Compared
        (fun console later : BufferedConsole => later = console.withMore more)
        (fun error console later => error.cause = .inputCancelled ∧ console.Begins later)
        (outcome, after)
        (program.runWith enough ⟨environment, BufferedConsole.ofInput (lines ++ more)⟩) := by
    intro enough less
    have same := program.runWith_of_le less (by rw [ran]; exact ended)
    rw [← ran, ← same]
    exact (BufferedConsole.earlyStop_withMore more).runWith enough program environment rfl
  constructor
  · intro notCancelled enough less
    rcases longEnds : program.runWith enough ⟨environment, BufferedConsole.ofInput (lines ++ more)⟩ with
      ⟨laterOutcome, longer⟩
    have together := compared enough less
    rw [longEnds] at together
    cases together with
    | inStep consoles =>
        rw [consoles]
        rfl
    | stopped stopped =>
        exact absurd ⟨_, by rw [← stopped.1]⟩ notCancelled
  · intro _ other longer laterOutcome longEnds laterEnded
    have same :=
      program.runWith_of_le (Nat.le_max_right fuel other) (by rw [longEnds]; exact laterEnded)
    have together := compared (max fuel other) (Nat.le_max_left fuel other)
    rw [same, longEnds] at together
    cases together with
    | inStep consoles =>
        rw [consoles]
        exact ⟨List.prefix_refl _, List.prefix_refl _⟩
    | stopped stopped => exact ⟨stopped.2.output, stopped.2.prompts⟩

/-- Print a line of input, and then another one in the body of a zoop. -/
def echoTwice : Program :=
  ⟨[.routine ⟨1, 0⟩ "f" [] none [.print ⟨2, 4⟩ (.input ⟨2, 0⟩ .string none)],
    .print ⟨4, 4⟩ (.input ⟨4, 0⟩ .string none),
    .expression ⟨5, 0⟩ (.call ⟨5, 0⟩ "f" [])]⟩

/-- With one line the second input is cancelled, and with two lines a third is never asked for. -/
theorem echoTwice_keeps_what_was_decided :
    (∃ after longer,
      echoTwice.runWith 1 (Machine.start (BufferedConsole.ofInput ["a"])) =
        (.error ⟨.inputCancelled, ⟨2, 0⟩⟩, after) ∧
      echoTwice.runWith 1 (Machine.start (BufferedConsole.ofInput ["a", "b"])) = (.ok (), longer) ∧
      after.console = ⟨#["a"], #["<-| ", "<-| "], []⟩ ∧
      longer.console = ⟨#["a", "b"], #["<-| ", "<-| "], []⟩ ∧
      after.console.output.toList <+: longer.console.output.toList ∧
      after.console.prompts.toList <+: longer.console.prompts.toList) ∧
    ∃ after,
      echoTwice.runWith 1 (Machine.start (BufferedConsole.ofInput ["a", "b"])) = (.ok (), after) ∧
      echoTwice.runWith 2 (Machine.start (BufferedConsole.ofInput ["a", "b", "c"])) =
        (.ok (), ⟨after.environment, ⟨#["a", "b"], #["<-| ", "<-| "], ["c"]⟩⟩) := by
  constructor
  · have cancelled := more_input_keeps_what_was_decided echoTwice .initial ["a"] ["b"] 1 rfl nofun
    exact ⟨_, _, rfl, rfl, rfl, rfl, cancelled.2 ⟨_, rfl⟩ 1 _ _ rfl nofun⟩
  · have decided := more_input_keeps_what_was_decided echoTwice .initial ["a", "b"] ["c"] 1 rfl nofun
    have notCancelled : ¬ (Outcome.ok () : Outcome RuntimeError Unit).Cancelled := nofun
    exact ⟨_, rfl, decided.1 notCancelled 2 (by decide)⟩

end Zoop
