import Zoop.Evaluation.Expression

/-!
# Executing statements

Statements are executed by recursion on their structure.  Two things leave the structure and need a
bound: how often a loop is repeated, and how deep calls go into each other.  One number of fuel bounds
both.
-/

namespace Zoop.Evaluation

variable {κ : Type}

/-- Repeat a body as long as it ends with its last statement.  The end of the loop is the end of a
statement; a body may end without a value for its zoop, but not with one. -/
def repeatBody (position : Position) (body : Run κ Flow) : Nat → Run κ Flow
  | 0, machine => Run.exhausted machine
  | fuel + 1, machine =>
      match body machine with
      | (.ok .next, machine) => repeatBody position body fuel machine
      | (.ok .leave, machine) => (.ok .next, machine)
      | (.ok .giveBack, machine) => (.ok .giveBack, machine)
      | (.ok (.value _), machine) => Run.fail .unknownLoopResult position machine
      | (.error cause, machine) => (.error cause, machine)
      | (.fault, machine) => (.fault, machine)
      | (.outOfFuel, machine) => (.outOfFuel, machine)

variable [Console κ] (runBody : BodyRunner κ) (fuel : Nat)

mutual

/-- Execute a statement. -/
def execute : Statement → Run κ Flow
  | .expression _ value => do
      let _ ← evaluate runBody value
      return .next
  | .print position value => do
      let literal ← evaluate runBody value
      if literal.isVoid then
        Run.fail .printVoid position
      else
        Run.print position literal.value.text
        return .next
  | .block _ body => Run.inScope .block (executeAll body)
  | .condition _ first others otherwise => do
      match ← executeBranch first with
      | some flow => return flow
      | none =>
          match ← executeBranches others with
          | some flow => return flow
          | none => executeOtherwise otherwise
  | .routine position label parameters returnType body => do
      Run.perform position (.declared ⟨label, parameters, returnType, body⟩)
      return .next
  | .giveBack _ none => return .giveBack
  | .giveBack _ (some value) => do
      let literal ← evaluate runBody value
      return if literal.isVoid then .giveBack else .value literal
  | .loop position body => repeatBody position (executeAll body) fuel
  | .leave _ => return .leave

/-- Execute statements in order until one of them ends otherwise than with the next. -/
def executeAll : List Statement → Run κ Flow
  | [] => return .next
  | statement :: rest => do
      match ← execute statement with
      | .next => executeAll rest
      | flow => return flow

/-- Execute a body if its guard passes. -/
def executeBranch : Branch → Run κ (Option Flow)
  | .mk _ guard body => do
      let literal ← evaluate runBody guard
      if literal.value.isTruthy then
        let flow ← Run.inScope .block (executeAll body)
        return some flow
      else
        return none

/-- Execute the first body whose guard passes. -/
def executeBranches : List Branch → Run κ (Option Flow)
  | [] => return none
  | branch :: rest => do
      match ← executeBranch branch with
      | some flow => return some flow
      | none => executeBranches rest

/-- Execute the body for when no guard has passed. -/
def executeOtherwise : Option (List Statement) → Run κ Flow
  | none => return .next
  | some body => Run.inScope .block (executeAll body)

end

/-- The run of the body of a zoop with a given amount of fuel. -/
def bodyRunner : Nat → BodyRunner κ
  | 0 => fun _ => Run.exhausted
  | fuel + 1 => executeAll (bodyRunner fuel) fuel

/-- Execute the statements at the top of a program, however each of them ends. -/
def runStatements (fuel : Nat) : List Statement → Run κ Unit
  | [] => return ()
  | statement :: rest => do
      let _ ← execute (bodyRunner fuel) fuel statement
      runStatements fuel rest

end Zoop.Evaluation

namespace Zoop.Program

/-- Run a program with a given amount of fuel. -/
def runWith {κ : Type} [Console κ] (fuel : Nat) (program : Program) : Run κ Unit :=
  Evaluation.runStatements fuel program.statements

/-- More fuel than any run of a machine can use up. -/
def plenty : Nat :=
  1000000000000000000

/-- Run a program. -/
def run {κ : Type} [Console κ] (program : Program) : Run κ Unit :=
  program.runWith plenty

end Zoop.Program
