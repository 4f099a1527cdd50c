import Zoop.Proofs.Evaluation.Congruence

/-!
# More fuel changes nothing

Fuel only bounds how often loops are repeated and how deep calls go.  A run that ends before its fuel is
used up therefore ends in the same way with more of it, so that the end of a program does not depend on
the fuel with which it is reached.
-/

namespace Zoop

open Evaluation

variable {κ : Type}

/-- Where the first run ends, the second run ends in the same way. -/
def Run.Outlasted (α : Type) (shorter longer : Run κ α) : Prop :=
  ∀ machine, (shorter machine).1 ≠ .outOfFuel → longer machine = shorter machine

namespace Run.Outlasted

variable {α β : Type}

theorem refl (run : Run κ α) : Run.Outlasted α run run :=
  fun _ _ => rfl

theorem exhausted (longer : Run κ α) : Run.Outlasted α Run.exhausted longer :=
  fun _ ends => absurd rfl ends

theorem bind
    {shorter longer : Run κ α} {shorterNext longerNext : α → Run κ β}
    (first : Run.Outlasted α shorter longer)
    (next : ∀ value, Run.Outlasted β (shorterNext value) (longerNext value)) :
    Run.Outlasted β (shorter >>= shorterNext) (longer >>= longerNext) := by
  intro machine
  have firstSame := first machine
  rcases result : shorter machine with ⟨outcome, after⟩
  rw [result] at firstSame
  cases outcome using Outcome.stop_cases with
  | ok value =>
      rw [Run.bind_of_ok result, Run.bind_of_ok (firstSame nofun)]
      exact next value after
  | stopped stop =>
      rw [Run.bind_of_stop result]
      intro ends
      refine Run.bind_of_stop (firstSame ?_)
      cases stop with
      | error | fault => nofun
      | outOfFuel => exact absurd rfl ends

variable [Console κ]

theorem inScope
    {shorter longer : Run κ α} (kind : ScopeKind) (inside : Run.Outlasted α shorter longer) :
    Run.Outlasted α (Run.inScope kind shorter) (Run.inScope kind longer) := by
  intro machine ends
  simp only [Run.inScope] at ends ⊢
  rw [inside _ ends]

theorem inContext
    {shorter longer : Run κ α} (position : Position) (context : Context)
    (inside : Run.Outlasted α shorter longer) :
    Run.Outlasted α
      (Run.inContext position context shorter) (Run.inContext position context longer) := by
  intro machine ends
  simp only [Run.inContext] at ends ⊢
  cases push : machine.environment.pushContext context with
  | error cause => rfl
  | ok entered =>
      simp only [push] at ends ⊢
      rw [inside _ ends]

theorem congruence : Congruence Condition.trivial (Run.Outlasted (κ := κ)) where
  value _ := refl _
  failure _ _ := refl _
  sequence first next := first.bind next
  lookup _ _ := refl _
  routine _ _ next := (refl _).bind fun routine => next routine (Condition.admits_trivial routine)
  define _ _ _ := refl _
  declare _ _ _ := refl _
  scope kind inside := inside.inScope kind
  print _ _ := refl _
  read _ _ := refl _

theorem reassignments (run₁ run₂ : BodyRunner κ) :
    Reassignments Condition.trivial Run.Outlasted run₁ run₂ :=
  congruence.reassignments run₁ run₂ fun _ _ _ => refl _

omit [Console κ] in
/-- A loop may be repeated more often with more fuel, and its body may be run with more as well. -/
theorem repeatBody
    {shorter longer : Run κ Flow} (position : Position) (body : Run.Outlasted Flow shorter longer)
    {fuel₁ fuel₂ : Nat} (less : fuel₁ ≤ fuel₂) :
    Run.Outlasted Flow
      (Evaluation.repeatBody position shorter fuel₁)
      (Evaluation.repeatBody position longer fuel₂) := by
  induction fuel₁ generalizing fuel₂ with
  | zero => exact exhausted _
  | succ fuel₁ inductionHypothesis =>
      obtain ⟨fuel₂, rfl⟩ := Nat.exists_eq_add_of_le' (Nat.lt_of_lt_of_le fuel₁.succ_pos less)
      rw [repeatBody_succ, repeatBody_succ]
      apply body.bind
      intro flow
      cases flow with
      | next => exact inductionHypothesis (Nat.le_of_succ_le_succ less)
      | giveBack => exact refl _
      | leave => exact refl _
      | value literal => exact refl _

theorem loops (run₁ run₂ : BodyRunner κ) {fuel₁ fuel₂ : Nat} (less : fuel₁ ≤ fuel₂) :
    Loops Condition.trivial Run.Outlasted run₁ run₂ fuel₁ fuel₂ := by
  intro position body _ bodyOutlasted
  exact repeatBody position bodyOutlasted less

/-- The recursion of calls follows the fuel of the shorter run. -/
theorem calls {fuel₁ fuel₂ : Nat} (less : fuel₁ ≤ fuel₂) :
    Calls Condition.trivial (Run.Outlasted (κ := κ)) (bodyRunner fuel₁) (bodyRunner fuel₂) := by
  induction fuel₁ generalizing fuel₂ with
  | zero =>
      intro position routine context _
      exact congruence.enter (refl _)
        (inContext position context (inScope .routineBody (exhausted _)))
  | succ fuel₁ inductionHypothesis =>
      obtain ⟨fuel₂, rfl⟩ := Nat.exists_eq_add_of_le' (Nat.lt_of_lt_of_le fuel₁.succ_pos less)
      have lessInside : fuel₁ ≤ fuel₂ := Nat.le_of_succ_le_succ less
      intro position routine context admitted
      apply congruence.enter (refl _)
      apply inContext position context
      apply inScope .routineBody
      exact congruence.executeAll (inductionHypothesis lessInside) (reassignments _ _)
        (loops _ _ lessInside) routine.body admitted.2

theorem execute {fuel₁ fuel₂ : Nat} (less : fuel₁ ≤ fuel₂) (statement : Statement) :
    Run.Outlasted (κ := κ) Flow
      (Evaluation.execute (bodyRunner fuel₁) fuel₁ statement)
      (Evaluation.execute (bodyRunner fuel₂) fuel₂ statement) :=
  congruence.execute (calls less) (reassignments _ _) (loops _ _ less) statement
    (Condition.trivial_inStatement statement)

end Run.Outlasted

/-- A program that ends with some fuel ends in the same way with more. -/
theorem Program.runWith_of_le
    [Console κ] (program : Program) {fuel more : Nat} (less : fuel ≤ more) {machine : Machine κ}
    (ends : (program.runWith fuel machine).1 ≠ .outOfFuel) :
    program.runWith more machine = program.runWith fuel machine :=
  Run.Outlasted.congruence.runStatements (fun statement _ => Run.Outlasted.execute less statement)
    program.statements (Condition.trivial_inStatements _) machine ends

end Zoop
