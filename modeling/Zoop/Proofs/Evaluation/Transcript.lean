import Zoop.Proofs.Evaluation.Run

/-!
# Transcripts of consoles

A transcript is a console with all calls that it has been given, each with its answer.  Like most
consoles it takes no note of changes, so that nothing but these calls makes a difference to it.
-/

namespace Zoop

/-! ## Silent consoles -/

/-- A console that takes no note of changes. -/
def Console.Silent (κ : Type) [Console κ] : Prop :=
  ∀ (change : Change) (environment : Environment) (console : κ),
    Console.notice change environment console = console

theorem Machine.became_of_silent
    {κ : Type} [Console κ] (silent : Console.Silent κ)
    (machine : Machine κ) (change : Change) (environment : Environment) :
    machine.became change environment = ⟨environment, machine.console⟩ := by
  rw [became, silent]

/-! ## Transcripts -/

/-- A call of a console with its answer. -/
inductive ConsoleCall where
  | printed (line : String) (answer : Except String Unit)
  | asked (prompt : String) (answer : Except String (Option String))

/-- A console with the calls that it has been given, the last one first. -/
structure Transcript (κ : Type) where
  console : κ
  calls : List ConsoleCall

namespace Transcript

/-- A console that has not been called yet. -/
def fresh {κ : Type} (console : κ) : Transcript κ :=
  ⟨console, []⟩

instance {κ : Type} [Console κ] : Console (Transcript κ) where
  printLine line transcript :=
    let (answer, console) := Console.printLine line transcript.console
    (answer, ⟨console, .printed line answer :: transcript.calls⟩)
  readLine prompt transcript :=
    let (answer, console) := Console.readLine prompt transcript.console
    (answer, ⟨console, .asked prompt answer :: transcript.calls⟩)

theorem printLine_mk
    {κ : Type} [Console κ] {line : String} {console after : κ} {answer : Except String Unit}
    (answered : Console.printLine line console = (answer, after)) (calls : List ConsoleCall) :
    Console.printLine line (⟨console, calls⟩ : Transcript κ) =
      (answer, ⟨after, .printed line answer :: calls⟩) := by
  simp only [Console.printLine] at answered ⊢
  rw [answered]

theorem readLine_mk
    {κ : Type} [Console κ] {prompt : String} {console after : κ}
    {answer : Except String (Option String)}
    (answered : Console.readLine prompt console = (answer, after)) (calls : List ConsoleCall) :
    Console.readLine prompt (⟨console, calls⟩ : Transcript κ) =
      (answer, ⟨after, .asked prompt answer :: calls⟩) := by
  simp only [Console.readLine] at answered ⊢
  rw [answered]

theorem calls_of_printLine
    {κ : Type} [Console κ] {line : String} {transcript after : Transcript κ}
    {answer : Except String Unit} (answered : Console.printLine line transcript = (answer, after)) :
    after.calls = .printed line answer :: transcript.calls := by
  obtain ⟨console, calls⟩ := transcript
  rcases inner : Console.printLine line console with ⟨given, left⟩
  rw [printLine_mk inner] at answered
  cases answered
  rfl

theorem calls_of_readLine
    {κ : Type} [Console κ] {prompt : String} {transcript after : Transcript κ}
    {answer : Except String (Option String)}
    (answered : Console.readLine prompt transcript = (answer, after)) :
    after.calls = .asked prompt answer :: transcript.calls := by
  obtain ⟨console, calls⟩ := transcript
  rcases inner : Console.readLine prompt console with ⟨given, left⟩
  rw [readLine_mk inner] at answered
  cases answered
  rfl

theorem silent (κ : Type) [Console κ] : Console.Silent (Transcript κ) :=
  fun _ _ _ => rfl

end Transcript

end Zoop
