import Zoop.Proofs.Evaluation.MoreInput
import Zoop.Proofs.Text.TypedLines

/-!
# The standard console does as the buffered one

A console over streams cuts its lines of input from a text when it is asked for one, and writes prompts
and printed lines to one stream.  A buffered console has the lines from the start and keeps prompts and
printed lines apart.  No program can tell them apart: every run makes the same calls on both, gets the
same answers and ends in the same way.
-/

namespace Zoop

/-! ## Calls -/

namespace ConsoleCall

/-- What a call writes to a stream: a printed line with its ending, or a prompt with nothing after
it. -/
def written : ConsoleCall → String
  | .printed line _ => line ++ "\n"
  | .asked prompt _ => prompt

/-- The line that a call prints. -/
def line? : ConsoleCall → Option String
  | .printed line _ => some line
  | .asked _ _ => none

/-- The prompt that a call shows. -/
def prompt? : ConsoleCall → Option String
  | .printed _ _ => none
  | .asked prompt _ => some prompt

end ConsoleCall

namespace Transcript

variable {κ : Type} [Console κ]

/-- A console always gives the same answer as its transcript. -/
theorem lockstep (silent : Console.Silent κ) :
    EarlyStop (fun (plain : κ) (transcript : Transcript κ) => transcript.console = plain)
      (fun _ _ _ => False) where
  firstSilent := silent
  secondSilent := Transcript.silent κ
  print := by
    rintro _ ⟨plain, calls⟩ environment position line rfl
    rcases answered : Console.printLine line plain with ⟨answer, after⟩
    simp only [Run.print, answered, printLine_mk answered]
    cases answer with
    | ok _ => exact .inStep rfl
    | error reason => exact .inStep rfl
  read := by
    rintro _ ⟨plain, calls⟩ environment position prompt rfl
    rcases answered : Console.readLine prompt plain with ⟨answer, after⟩
    simp only [Run.read, answered, readLine_mk answered]
    cases answer with
    | ok line =>
        cases line with
        | some _ => exact .inStep rfl
        | none => exact .inStep rfl
    | error reason => exact .inStep rfl
  printsOn _ impossible := impossible.elim
  readsOn _ impossible := impossible.elim

/-- A run makes no difference between a console and its transcript. -/
theorem runWith_console
    (silent : Console.Silent κ) {fuel : Nat} {program : Program} {environment : Environment}
    {console left : κ} {outcome : Outcome RuntimeError Unit} {after : Environment}
    {calls : List ConsoleCall}
    (ran : program.runWith fuel ⟨environment, fresh console⟩ = (outcome, ⟨after, ⟨left, calls⟩⟩)) :
    program.runWith fuel ⟨environment, console⟩ = (outcome, ⟨after, left⟩) := by
  have compared :
      Compared (fun (plain : κ) (transcript : Transcript κ) => transcript.console = plain)
        (fun _ _ _ => False)
        (program.runWith fuel ⟨environment, console⟩)
        (program.runWith fuel ⟨environment, fresh console⟩) :=
    (lockstep silent).runWith fuel program environment rfl
  rcases ends : program.runWith fuel ⟨environment, console⟩ with ⟨plainOutcome, plainAfter⟩
  rw [ends, ran] at compared
  cases compared with
  | inStep same => rw [← same]
  | stopped impossible => exact impossible.elim

end Transcript

namespace StreamConsole

theorem silent : Console.Silent StreamConsole :=
  fun _ _ _ => rfl

/-- Both consoles have been given the same calls, have written them each in its own way, and have the
same lines left. -/
structure Refines (stream : Transcript StreamConsole) (buffered : Transcript BufferedConsole) :
    Prop where
  calls : buffered.calls = stream.calls
  input : ∃ pieces : List (List Char),
    stream.console.input = pieces.map some ∧
    buffered.console.input = pieces.map fun piece => String.ofList (Text.withoutEnding piece)
  written : stream.console.output = String.join (stream.calls.reverse.map ConsoleCall.written)
  lines : buffered.console.output.toList = stream.calls.reverse.filterMap ConsoleCall.line?
  prompts : buffered.console.prompts.toList = stream.calls.reverse.filterMap ConsoleCall.prompt?

theorem refines_fresh (text : List Char) :
    Refines (.fresh (ofText text)) (.fresh (.ofInput (Text.typedLines text))) where
  calls := rfl
  input := ⟨Text.pieces text, rfl, rfl⟩
  written := rfl
  lines := rfl
  prompts := rfl

namespace Refines

variable {stream : StreamConsole} {buffered : BufferedConsole} {calls : List ConsoleCall}

theorem print (line : String) (refines : Refines ⟨stream, calls⟩ ⟨buffered, calls⟩) :
    Refines
      ⟨{ stream with output := stream.output ++ line ++ "\n" }, .printed line (.ok ()) :: calls⟩
      ⟨buffered.print line, .printed line (.ok ()) :: calls⟩ where
  calls := rfl
  input := refines.input
  written := by
    rw [List.reverse_cons, List.map_append, String.join_append, ← refines.written]
    simp [ConsoleCall.written, String.append_assoc]
  lines := by
    rw [List.reverse_cons, List.filterMap_append, ← refines.lines]
    simp [BufferedConsole.print, ConsoleCall.line?]
  prompts := by
    rw [List.reverse_cons, List.filterMap_append, ← refines.prompts]
    simp [BufferedConsole.print, ConsoleCall.prompt?]

theorem read
    (prompt : String) (refines : Refines ⟨stream, calls⟩ ⟨buffered, calls⟩)
    {left : List (Option (List Char))}
    (input : ∃ pieces : List (List Char),
      left = pieces.map some ∧
      buffered.input.tail = pieces.map fun piece => String.ofList (Text.withoutEnding piece))
    (answer : Except String (Option String)) :
    Refines
      ⟨⟨stream.output ++ prompt, left⟩, .asked prompt answer :: calls⟩
      ⟨(buffered.read prompt).2, .asked prompt answer :: calls⟩ where
  calls := rfl
  input := input
  written := by
    rw [List.reverse_cons, List.map_append, String.join_append, ← refines.written]
    simp [ConsoleCall.written]
  lines := by
    rw [List.reverse_cons, List.filterMap_append, ← refines.lines]
    simp [BufferedConsole.read, ConsoleCall.line?]
  prompts := by
    rw [List.reverse_cons, List.filterMap_append, ← refines.prompts]
    simp [BufferedConsole.read, ConsoleCall.prompt?]

end Refines

/-- Both consoles always give the same answer. -/
theorem lockstep : EarlyStop Refines (fun _ _ _ => False) where
  firstSilent := Transcript.silent _
  secondSilent := Transcript.silent _
  print := by
    rintro ⟨stream, calls⟩ ⟨buffered, same⟩ environment position line refines
    obtain rfl : same = calls := refines.calls
    exact .inStep (refines.print line)
  read := by
    rintro ⟨⟨output, input⟩, calls⟩ ⟨⟨lines, prompts, left⟩, same⟩ environment position prompt refines
    obtain rfl : same = calls := refines.calls
    obtain ⟨pieces, streamInput, bufferedInput⟩ := refines.input
    obtain rfl : input = pieces.map some := streamInput
    obtain rfl : left = pieces.map _ := bufferedInput
    cases pieces with
    | nil => exact .inStep (refines.read prompt ⟨[], rfl, rfl⟩ (.ok none))
    | cons piece others => exact .inStep (refines.read prompt ⟨others, rfl, rfl⟩ _)
  printsOn _ impossible := impossible.elim
  readsOn _ impossible := impossible.elim

end StreamConsole

/-- A run on the standard console with a typed text as its input ends as the run on a buffered console
with the lines of that text does.  The console is given the same calls, with the same answers; what has
been written are the printed lines, each with its ending, and the prompts in the order of these calls,
and they are those that the buffered console has kept. -/
theorem standard_console_refines_buffered
    (program : Program) (environment : Environment) (fuel : Nat) (text : String) :
    (∀ lines, Text.Typed text.toList lines ↔ lines = Text.typedLines text.toList) ∧
    ∃ outcome after calls stream buffered,
      program.runWith fuel ⟨environment, StreamConsole.ofBytes text.toUTF8.data.toList⟩ =
        (outcome, ⟨after, stream⟩) ∧
      program.runWith fuel ⟨environment, BufferedConsole.ofInput (Text.typedLines text.toList)⟩ =
        (outcome, ⟨after, buffered⟩) ∧
      program.runWith fuel
          ⟨environment, Transcript.fresh (StreamConsole.ofBytes text.toUTF8.data.toList)⟩ =
        (outcome, ⟨after, ⟨stream, calls⟩⟩) ∧
      program.runWith fuel
          ⟨environment, Transcript.fresh (.ofInput (Text.typedLines text.toList))⟩ =
        (outcome, ⟨after, ⟨buffered, calls⟩⟩) ∧
      stream.output = String.join (calls.reverse.map ConsoleCall.written) ∧
      buffered.output.toList = calls.reverse.filterMap ConsoleCall.line? ∧
      buffered.prompts.toList = calls.reverse.filterMap ConsoleCall.prompt? := by
  refine ⟨fun lines => Text.typed_iff, ?_⟩
  rw [StreamConsole.ofBytes_toUTF8]
  have compared := StreamConsole.lockstep.runWith fuel program environment
    (StreamConsole.refines_fresh text.toList)
  rcases streamEnds : program.runWith fuel
      ⟨environment, Transcript.fresh (StreamConsole.ofText text.toList)⟩ with
    ⟨outcome, after, stream, calls⟩
  rcases bufferedEnds : program.runWith fuel
      ⟨environment, Transcript.fresh (BufferedConsole.ofInput (Text.typedLines text.toList))⟩ with
    ⟨_, _, buffered, same⟩
  rw [streamEnds, bufferedEnds] at compared
  cases compared with
  | inStep refines =>
      obtain rfl : same = calls := refines.calls
      exact ⟨outcome, after, same, stream, buffered,
        Transcript.runWith_console StreamConsole.silent streamEnds,
        Transcript.runWith_console BufferedConsole.silent bufferedEnds,
        rfl, rfl, refines.written, refines.lines, refines.prompts⟩
  | stopped impossible => exact impossible.elim

end Zoop
