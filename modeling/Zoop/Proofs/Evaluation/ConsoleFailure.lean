import Zoop.Proofs.Evaluation.EarlyStop
import Zoop.Proofs.Evaluation.ErrorOrigin

/-!
# Consoles that fail

A buffered console may refuse one call, which is the one of its kind that so many of its kind come
before.  A program that never makes this call runs as it does on a console that refuses nothing.  A
program that makes it is stopped there: the error stands where the statement that prints, or the
expression that reads, stands, and the console is not called again.
-/

namespace Zoop

open Evaluation

/-! ## The call that is refused -/

namespace ConsoleCall

inductive Kind where
  | print
  | read
deriving DecidableEq

def kind : ConsoleCall → Kind
  | .printed _ _ => .print
  | .asked _ _ => .read

/-- The same call, answered with an error. -/
def refused (reason : String) : ConsoleCall → ConsoleCall
  | .printed line _ => .printed line (.error reason)
  | .asked prompt _ => .asked prompt (.error reason)

/-- How many of the calls are of a kind. -/
def count (kind : Kind) (calls : List ConsoleCall) : Nat :=
  calls.countP fun call => call.kind = kind

theorem count_cons (kind : Kind) (call : ConsoleCall) (calls : List ConsoleCall) :
    count kind (call :: calls) = count kind calls + if call.kind = kind then 1 else 0 := by
  simp [count, List.countP_cons]

theorem count_append (kind : Kind) (later earlier : List ConsoleCall) :
    count kind (later ++ earlier) = count kind later + count kind earlier :=
  List.countP_append

end ConsoleCall

/-- A kind of call, and how many of this kind a console answers. -/
structure Refusal where
  kind : ConsoleCall.Kind
  count : Nat
deriving DecidableEq

namespace Refusal

/-- The reason that the console gives. -/
def reason (refusal : Refusal) : String :=
  match refusal.kind with
  | .print => "print failed"
  | .read => "read failed"

/-- A buffered console that refuses the call. -/
def console (refusal : Refusal) (buffer : BufferedConsole) : FailingConsole :=
  match refusal.kind with
  | .print => ⟨buffer, some refusal.count, none⟩
  | .read => ⟨buffer, none, some refusal.count⟩

theorem buffer_console (refusal : Refusal) (buffer : BufferedConsole) :
    (refusal.console buffer).buffer = buffer := by
  unfold console
  split <;> rfl

/-- The call is the one that is refused, given those before it. -/
def Due (refusal : Refusal) (earlier : List ConsoleCall) (call : ConsoleCall) : Prop :=
  call.kind = refusal.kind ∧ ConsoleCall.count refusal.kind earlier = refusal.count

theorem printLine_console (refusal : Refusal) (line : String) (buffer : BufferedConsole) :
    Console.printLine line (refusal.console buffer) =
      if refusal = ⟨.print, buffer.output.size⟩ then
        (.error refusal.reason, refusal.console buffer)
      else
        (.ok (), refusal.console (buffer.print line)) := by
  obtain ⟨kind, count⟩ := refusal
  cases kind with
  | print => simp [Console.printLine, console, reason]
  | read => simp [Console.printLine, console]

theorem readLine_console (refusal : Refusal) (prompt : String) (buffer : BufferedConsole) :
    Console.readLine prompt (refusal.console buffer) =
      if refusal = ⟨.read, buffer.prompts.size⟩ then
        (.error refusal.reason, refusal.console buffer)
      else
        (.ok (buffer.read prompt).1, refusal.console (buffer.read prompt).2) := by
  obtain ⟨kind, count⟩ := refusal
  cases kind with
  | print => simp [Console.readLine, console]
  | read => simp [Console.readLine, console, reason]

theorem due_iff (refusal : Refusal) (earlier : List ConsoleCall) (call : ConsoleCall) :
    refusal.Due earlier call ↔ refusal = ⟨call.kind, ConsoleCall.count call.kind earlier⟩ := by
  constructor
  · intro due
    rw [due.1, due.2]
  · intro same
    rw [same]
    exact ⟨rfl, rfl⟩

variable {refusal : Refusal}

theorem Due.count_lt
    {earlier later : List ConsoleCall} {call : ConsoleCall} (due : refusal.Due earlier call) :
    refusal.count < ConsoleCall.count refusal.kind (later ++ call :: earlier) := by
  rw [ConsoleCall.count_append, ConsoleCall.count_cons, if_pos due.1, due.2]
  omega

theorem Due.not_before
    {earlier between earlier' : List ConsoleCall} {call call' : ConsoleCall}
    (due : refusal.Due earlier call) (due' : refusal.Due earlier' call') :
    earlier ≠ between ++ call' :: earlier' := by
  intro split
  have before : refusal.count < ConsoleCall.count refusal.kind earlier := by
    rw [split]
    exact due'.count_lt
  exact absurd due.2 (Nat.ne_of_gt before)

/-- At most one of the calls is the one that is refused. -/
theorem Due.unique
    {earlier earlier' later later' : List ConsoleCall} {call call' : ConsoleCall}
    (due : refusal.Due earlier call) (due' : refusal.Due earlier' call')
    (same : later ++ call :: earlier = later' ++ call' :: earlier') :
    call = call' ∧ earlier = earlier' := by
  rcases List.append_eq_append_iff.1 same with ⟨between, _, split⟩ | ⟨between, _, split⟩
  · cases between with
    | nil => exact List.cons.inj split
    | cons first rest => exact absurd (List.cons.inj split).2 (due.not_before due')
  · cases between with
    | nil =>
        obtain ⟨sameCall, sameEarlier⟩ := List.cons.inj split
        exact ⟨sameCall.symm, sameEarlier.symm⟩
    | cons first rest => exact absurd (List.cons.inj split).2 (due'.not_before due)

/-! ## Runs on both consoles -/

/-- Neither console has refused anything. -/
structure InStep
    (refusal : Refusal) (failing : Transcript FailingConsole) (plain : Transcript BufferedConsole) :
    Prop where
  console : failing.console = refusal.console plain.console
  calls : failing.calls = plain.calls
  printed : ConsoleCall.count .print plain.calls = plain.console.output.size
  asked : ConsoleCall.count .read plain.calls = plain.console.prompts.size
  within : ConsoleCall.count refusal.kind plain.calls ≤ refusal.count

/-- The failing console has refused a call, and has not been called again. -/
def Stopped
    (refusal : Refusal) (error : RuntimeError)
    (failing : Transcript FailingConsole) (plain : Transcript BufferedConsole) : Prop :=
  error.cause = .console refusal.reason ∧
    ∃ later call earlier,
      plain.calls = later ++ call :: earlier ∧ refusal.Due earlier call ∧
        failing.calls = call.refused refusal.reason :: earlier

theorem Stopped.more
    {error : RuntimeError} {failing : Transcript FailingConsole}
    {plain after : Transcript BufferedConsole}
    (stopped : refusal.Stopped error failing plain) {call : ConsoleCall}
    (called : after.calls = call :: plain.calls) : refusal.Stopped error failing after := by
  obtain ⟨cause, later, refused, earlier, calls, due, stop⟩ := stopped
  refine ⟨cause, call :: later, refused, earlier, ?_, due, stop⟩
  rw [called, calls, List.cons_append]

theorem inStep_fresh (lines : List String) :
    refusal.InStep (.fresh (refusal.console (.ofInput lines))) (.fresh (.ofInput lines)) :=
  ⟨rfl, rfl, rfl, rfl, Nat.zero_le _⟩

/-- A call that is not due leaves the consoles in step. -/
theorem InStep.answered
    {failing : Transcript FailingConsole} {plain : Transcript BufferedConsole}
    (inStep : refusal.InStep failing plain) (call : ConsoleCall) (buffer : BufferedConsole)
    (printed : ConsoleCall.count .print (call :: plain.calls) = buffer.output.size)
    (asked : ConsoleCall.count .read (call :: plain.calls) = buffer.prompts.size)
    (notDue : ¬ refusal.Due plain.calls call) :
    refusal.InStep ⟨refusal.console buffer, call :: plain.calls⟩ ⟨buffer, call :: plain.calls⟩ := by
  refine ⟨rfl, rfl, printed, asked, ?_⟩
  have within := inStep.within
  rw [ConsoleCall.count_cons]
  split
  · next sameKind =>
      have differs : ConsoleCall.count refusal.kind plain.calls ≠ refusal.count :=
        fun same => notDue ⟨sameKind, same⟩
      omega
  · exact within

/-- The failing console does as the buffered one until the call that it refuses. -/
theorem earlyStop (refusal : Refusal) : EarlyStop refusal.InStep refusal.Stopped where
  firstSilent := Transcript.silent _
  secondSilent := Transcript.silent _
  print {failing plain} environment position line inStep := by
    obtain ⟨console, calls⟩ := failing
    obtain ⟨rfl, rfl, printed, asked, _⟩ := id inStep
    have answered := refusal.printLine_console line plain.console
    rw [← printed] at answered
    have plainAnswered : Console.printLine line plain =
        (.ok (), ⟨plain.console.print line, .printed line (.ok ()) :: plain.calls⟩) := rfl
    simp only [Run.print, plainAnswered]
    split at answered
    · next refused =>
        have due : refusal.Due plain.calls (.printed line (.ok ())) := (due_iff ..).2 refused
        simp only [Transcript.printLine_mk answered]
        exact .stopped ⟨rfl, [], _, _, rfl, due, rfl⟩
    · next notRefused =>
        have notDue : ¬ refusal.Due plain.calls (.printed line (.ok ())) :=
          notRefused ∘ (due_iff ..).1
        have inStepAfter := inStep.answered _ (plain.console.print line)
          (by simp [ConsoleCall.count_cons, ConsoleCall.kind, BufferedConsole.print, printed])
          (by simp [ConsoleCall.count_cons, ConsoleCall.kind, BufferedConsole.print, asked])
          notDue
        simp only [Transcript.printLine_mk answered]
        exact .inStep inStepAfter
  read {failing plain} environment position prompt inStep := by
    obtain ⟨console, calls⟩ := failing
    obtain ⟨rfl, rfl, printed, asked, _⟩ := id inStep
    have answered := refusal.readLine_console prompt plain.console
    rw [← asked] at answered
    have plainAnswered : Console.readLine prompt plain =
        (.ok (plain.console.read prompt).1, ⟨(plain.console.read prompt).2,
          .asked prompt (.ok (plain.console.read prompt).1) :: plain.calls⟩) := rfl
    simp only [Run.read, plainAnswered]
    split at answered
    · next refused =>
        have due : refusal.Due plain.calls (.asked prompt (.ok (plain.console.read prompt).1)) :=
          (due_iff ..).2 refused
        simp only [Transcript.readLine_mk answered]
        refine .stopped ⟨rfl, [], _, _, ?_, due, rfl⟩
        cases (plain.console.read prompt).1 <;> rfl
    · next notRefused =>
        have notDue :
            ¬ refusal.Due plain.calls (.asked prompt (.ok (plain.console.read prompt).1)) :=
          notRefused ∘ (due_iff ..).1
        have inStepAfter := inStep.answered _ (plain.console.read prompt).2
          (by simp [ConsoleCall.count_cons, ConsoleCall.kind, BufferedConsole.read, printed])
          (by simp [ConsoleCall.count_cons, ConsoleCall.kind, BufferedConsole.read, asked])
          notDue
        simp only [Transcript.readLine_mk answered]
        generalize (plain.console.read prompt).1 = taken at inStepAfter ⊢
        cases taken with
        | none => exact .inStep inStepAfter
        | some line => exact .inStep inStepAfter
  printsOn line stopped := stopped.more rfl
  readsOn prompt stopped := stopped.more rfl

end Refusal

/-! ## Where calls are made -/

/-- The point makes a call of the console, after the earlier ones, for a statement or an expression at a
position. -/
inductive MakesCall {κ : Type} [Console κ] :
    Point (Transcript κ) → Position → List ConsoleCall → ConsoleCall → Prop where
  | print {fuel machine environment console earlier position value literal answer}
      (valueEnds :
        evaluate (bodyRunner fuel) value machine =
          (.ok literal, ⟨environment, ⟨console, earlier⟩⟩))
      (nonvoid : literal.isVoid = false) :
      MakesCall ⟨fuel, .statement (.print position value), machine⟩ position earlier
        (.printed literal.value.text answer)
  | read {fuel environment console earlier position type prompt answer} :
      MakesCall ⟨fuel, .expression (.input position type prompt), ⟨environment, ⟨console, earlier⟩⟩⟩
        position earlier (.asked (promptText prompt) answer)

/-- The point that raises the error for a refused call makes this call when nothing is refused. -/
theorem Refusal.makesCall_of_raises
    {refusal : Refusal} {fuel : Nat} {task : Task}
    {machine left : Machine (Transcript FailingConsole)} {plain : Machine (Transcript BufferedConsole)}
    (together : Machine.Together refusal.InStep machine plain)
    {reason : String} {position : Position}
    (raises : Raises ⟨fuel, task, machine⟩ ⟨.console reason, position⟩ left)
    {call : ConsoleCall} {earlier : List ConsoleCall}
    (calls : left.console.calls = call.refused reason :: earlier) :
    MakesCall ⟨fuel, task, plain⟩ position earlier call := by
  cases raises with
  | operands _ _ refused => cases refused
  | readFailed answered =>
      obtain ⟨environment, plain⟩ := plain
      rw [Transcript.calls_of_readLine answered, List.cons.injEq] at calls
      obtain ⟨same, rfl⟩ := calls
      rw [together.consoles.calls]
      cases call with
      | printed line answer => cases same
      | asked prompt answer =>
          cases same
          exact .read
  | printFailed valueEnds nonvoid answered =>
      obtain ⟨after, plainEnds, togetherAfter⟩ :=
        refusal.earlyStop.ends together (.expression _) valueEnds
      rw [Transcript.calls_of_printLine answered, List.cons.injEq] at calls
      obtain ⟨same, rfl⟩ := calls
      rw [togetherAfter.consoles.calls]
      cases call with
      | printed line answer =>
          cases same
          exact .print plainEnds nonvoid
      | asked prompt answer => cases same

/-- A program runs on a console that refuses one call as on one that refuses none, if it never makes this
call.  If it makes it, the run on the failing console ends there: with an error at the position of the
statement or the expression that makes the call, and with no call after it. -/
theorem console_failure_stops_the_run_there
    (fuel : Nat) (program : Program) (environment : Environment) (lines : List String)
    (refusal : Refusal)
    {plainOutcome failingOutcome : Outcome RuntimeError Unit}
    {plain : Machine (Transcript BufferedConsole)} {failing : Machine (Transcript FailingConsole)}
    (plainRuns :
      program.runWith fuel ⟨environment, .fresh (.ofInput lines)⟩ = (plainOutcome, plain))
    (failingRuns :
      program.runWith fuel ⟨environment, .fresh (refusal.console (.ofInput lines))⟩ =
        (failingOutcome, failing)) :
    ((∀ later call earlier,
        plain.console.calls = later ++ call :: earlier → ¬ refusal.Due earlier call) →
      failingOutcome = plainOutcome ∧ failing.environment = plain.environment ∧
        failing.console.calls = plain.console.calls ∧
        failing.console.console.buffer = plain.console.console) ∧
    (∀ later call earlier,
      plain.console.calls = later ++ call :: earlier → refusal.Due earlier call →
      failing.console.calls = call.refused refusal.reason :: earlier ∧
        ∃ position point,
          failingOutcome = .error ⟨.console refusal.reason, position⟩ ∧
            Visits
              ⟨fuel, .program program.statements,
                ⟨environment, .fresh (BufferedConsole.ofInput lines)⟩⟩ point ∧
            MakesCall point position earlier call) := by
  have compared := refusal.earlyStop.runWith fuel program environment (Refusal.inStep_fresh lines)
  rw [plainRuns, failingRuns] at compared
  constructor
  · intro neverDue
    cases compared with
    | inStep inStep =>
        refine ⟨rfl, rfl, inStep.calls, ?_⟩
        rw [inStep.console, Refusal.buffer_console]
    | stopped stopped =>
        obtain ⟨_, later, call, earlier, calls, due, _⟩ := stopped
        exact absurd due (neverDue later call earlier calls)
  · intro later call earlier calls due
    cases compared with
    | inStep inStep =>
        have within := inStep.within
        rw [calls] at within
        exact absurd due.count_lt (Nat.not_lt_of_le within)
    | @stopped error machine ending stopped =>
        obtain ⟨cause, position⟩ := error
        obtain ⟨rfl, _, _, _, calls', due', stop⟩ := stopped
        obtain ⟨rfl, rfl⟩ := due'.unique due (calls'.symm.trans calls)
        obtain ⟨⟨_, _, _⟩, left, visits, raises, sameConsole⟩ :=
          Point.raised_at
            ⟨fuel, .program program.statements,
              ⟨environment, Transcript.fresh (refusal.console (.ofInput lines))⟩⟩ failingRuns
        obtain ⟨plainMachine, plainVisits, together⟩ :=
          refusal.earlyStop.visits (Refusal.inStep_fresh lines) visits
        refine ⟨stop, position, _, rfl, plainVisits, ?_⟩
        apply Refusal.makesCall_of_raises together raises
        rw [← sameConsole (Transcript.silent _)]
        exact stop

/-- Print each line of input, in a loop in a zoop. -/
def relayingProgram : Program :=
  ⟨[.routine ⟨1, 0⟩ "f" [] none
      [.loop ⟨2, 0⟩ [.print ⟨3, 4⟩ (.input ⟨3, 0⟩ .string none)]],
    .expression ⟨6, 0⟩ (.call ⟨6, 0⟩ "f" [])]⟩

/-- The second line cannot be printed, and the run ends there.  A third line would not have been printed
in any case, as there is none. -/
theorem console_failure_stops_relayingProgram :
    (∃ failing position point,
      relayingProgram.runWith 4
          (Machine.start (Transcript.fresh (Refusal.console ⟨.print, 1⟩ (.ofInput ["a", "b"])))) =
        (.error ⟨.console "print failed", position⟩, failing) ∧
      failing.console.calls =
        [.printed "b" (.error "print failed"), .asked "<-| " (.ok (some "b")),
          .printed "a" (.ok ()), .asked "<-| " (.ok (some "a"))] ∧
      position = ⟨3, 4⟩ ∧
      Visits
        ⟨4, .program relayingProgram.statements,
          Machine.start (Transcript.fresh (BufferedConsole.ofInput ["a", "b"]))⟩ point ∧
      MakesCall point position
        [.asked "<-| " (.ok (some "b")), .printed "a" (.ok ()), .asked "<-| " (.ok (some "a"))]
        (.printed "b" (.ok ()))) ∧
    ∃ plain failing,
      relayingProgram.runWith 4
          (Machine.start (Transcript.fresh (BufferedConsole.ofInput ["a", "b"]))) =
        (.error ⟨.inputCancelled, ⟨3, 0⟩⟩, plain) ∧
      relayingProgram.runWith 4
          (Machine.start (Transcript.fresh (Refusal.console ⟨.print, 2⟩ (.ofInput ["a", "b"])))) =
        (.error ⟨.inputCancelled, ⟨3, 0⟩⟩, failing) ∧
      failing.console.calls = plain.console.calls ∧
      failing.console.console.buffer = plain.console.console := by
  constructor
  · have stopped := console_failure_stops_the_run_there 4 relayingProgram .initial ["a", "b"]
      ⟨.print, 1⟩ rfl rfl
    obtain ⟨calls, position, point, outcome, visits, makesCall⟩ :=
      stopped.2 [.asked "<-| " (.ok none)] (.printed "b" (.ok ()))
        [.asked "<-| " (.ok (some "b")), .printed "a" (.ok ()), .asked "<-| " (.ok (some "a"))] rfl
        ⟨rfl, rfl⟩
    cases outcome
    exact ⟨_, _, point, rfl, calls, rfl, visits, makesCall⟩
  · have kept := console_failure_stops_the_run_there 4 relayingProgram .initial ["a", "b"]
      ⟨.print, 2⟩ rfl rfl
    have neverDue := kept.1 fun later call earlier calls due => by
      have within : (2 : Nat) < ConsoleCall.count .print (later ++ call :: earlier) := due.count_lt
      rw [← calls] at within
      exact absurd within (by decide)
    exact ⟨_, _, rfl, rfl, neverDue.2.2⟩

end Zoop
