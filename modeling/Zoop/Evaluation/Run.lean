import Zoop.Console
import Zoop.Environment
import Zoop.Outcome

/-!
# Runs

A run changes a machine, which is an environment and a console, and ends with a value, with an error,
at a case that is taken to be impossible, or not within its bound.  The machine is there in each case:
what a run has done before an error stays done.
-/

namespace Zoop

/-- An environment and a console. -/
structure Machine (κ : Type) where
  environment : Environment
  console : κ

namespace Machine

/-- The machine at the start of a run on a given console. -/
def start {κ : Type} (console : κ) : Machine κ :=
  ⟨.initial, console⟩

/-- The machine with the environment after a change, which the console is told of. -/
def became {κ : Type} [Console κ] (machine : Machine κ) (change : Change)
    (environment : Environment) : Machine κ :=
  ⟨environment, Console.notice change environment machine.console⟩

end Machine

/-- A computation on a machine. -/
def Run (κ α : Type) : Type :=
  Machine κ → Outcome RuntimeError α × Machine κ

namespace Run

variable {κ α β : Type}

/-- Go on with the value of a run that has one. -/
def bind (run : Run κ α) (next : α → Run κ β) : Run κ β := fun machine =>
  match run machine with
  | (.ok value, machine) => next value machine
  | (.error cause, machine) => (.error cause, machine)
  | (.fault, machine) => (.fault, machine)
  | (.outOfFuel, machine) => (.outOfFuel, machine)

instance : Monad (Run κ) where
  pure value := fun machine => (.ok value, machine)
  bind := bind

/-- Stop with an error. -/
def fail (cause : RuntimeCause) (position : Position) : Run κ α := fun machine =>
  (.error ⟨cause, position⟩, machine)

/-- Stop at a case that is taken to be impossible. -/
def fault : Run κ α := fun machine =>
  (.fault, machine)

/-- Stop because the bound is reached. -/
def exhausted : Run κ α := fun machine =>
  (.outOfFuel, machine)

/-- Go on with a result, or stop with its error. -/
def ofResult (result : Except RuntimeError α) : Run κ α := fun machine =>
  match result with
  | .ok value => (.ok value, machine)
  | .error error => (.error error, machine)

/-- Go on with a result, or stop with its error at a given place. -/
def ofResultAt (position : Position) (result : Except RuntimeCause α) : Run κ α := fun machine =>
  match result with
  | .ok value => (.ok value, machine)
  | .error cause => (.error ⟨cause, position⟩, machine)

/-! ## The environment -/

/-- Ask the environment. -/
def ask (position : Position) (question : Environment → Except RuntimeCause α) : Run κ α :=
  fun machine => ofResultAt position (question machine.environment) machine

/-- Change the environment.  An error leaves it as it is. -/
def perform [Console κ] (position : Position) (change : Change) : Run κ Unit := fun machine =>
  match change.apply machine.environment with
  | .ok environment => (.ok (), machine.became change environment)
  | .error cause => (.error ⟨cause, position⟩, machine)

/-- Run inside a new scope, which is left again however the run ends. -/
def inScope [Console κ] (kind : ScopeKind) (run : Run κ α) : Run κ α := fun machine =>
  let (outcome, after) :=
    run (machine.became (.opened kind) (machine.environment.pushScope kind))
  (outcome, after.became .closed after.environment.popScope)

/-- Run as a call with the given arguments, which are left again however the run ends.  A call that is
one too many does not run at all. -/
def inContext [Console κ] (position : Position) (context : Context) (run : Run κ α) : Run κ α :=
  fun machine =>
    match machine.environment.pushContext context with
    | .error cause => (.error ⟨cause, position⟩, machine)
    | .ok environment =>
        let (outcome, after) := run (machine.became (.entered context) environment)
        (outcome, after.became .left after.environment.popContext)

/-! ## The console -/

/-- Print a line. -/
def print [Console κ] (position : Position) (line : String) : Run κ Unit := fun machine =>
  match Console.printLine line machine.console with
  | (.ok (), console) => (.ok (), { machine with console := console })
  | (.error reason, console) =>
      (.error ⟨.console reason, position⟩, { machine with console := console })

/-- Show a prompt and take a line of input, which has to be there. -/
def read [Console κ] (position : Position) (prompt : String) : Run κ String := fun machine =>
  match Console.readLine prompt machine.console with
  | (.ok (some line), console) => (.ok line, { machine with console := console })
  | (.ok none, console) =>
      (.error ⟨.inputCancelled, position⟩, { machine with console := console })
  | (.error reason, console) =>
      (.error ⟨.console reason, position⟩, { machine with console := console })

end Run

end Zoop
