import Zoop.Proofs.Environment.Changes
import Zoop.Proofs.Evaluation.Congruence

/-!
# From the machine before a run to the machine after it

What is kept by a run is said in two ways: a property of the machine that holds before the run holds
after it, and the environments before and after are related.  The property has to survive each change,
with the console being told of it; the relation only has to hold across what a run does as a whole, so
that nothing need be said about it in the midst of a scope or of a call.
-/

namespace Zoop

open Evaluation

/-! ## Changes that runs make -/

/-- The changes that a run makes other than by new values: a variable gets a value of its data type, and
a zoop that is declared meets the condition. -/
def Condition.Makes (condition : Condition) : Change → Prop
  | .defined _ type value => value.type = type
  | .declared routine => condition.Admits routine
  | .assigned _ _ _ => False
  | _ => True

theorem Condition.Makes.declaredAdmits
    {condition : Condition} {change : Change} (made : condition.Makes change) :
    ∀ routine, change = .declared routine → condition.Admits routine := by
  intro routine isDeclared
  rw [isDeclared] at made
  exact made

variable {κ : Type} [Console κ]

/-- A property of machines that the changes of a run keep, and a relation between environments that a
run brings about as a whole. -/
structure Passage
    (condition : Condition)
    (Kept : Machine κ → Prop)
    (Leads : Environment → Environment → Prop) : Prop where
  admits : ∀ {machine : Machine κ}, Kept machine → condition.AdmitsAll machine.environment
  becomes : ∀ {machine : Machine κ} {change : Change} {after : Environment},
    Kept machine → condition.Makes change → change.apply machine.environment = .ok after →
    Kept (machine.became change after)
  prints : ∀ {machine : Machine κ} (line : String),
    Kept machine → Kept { machine with console := (Console.printLine line machine.console).2 }
  reads : ∀ {machine : Machine κ} (prompt : String),
    Kept machine → Kept { machine with console := (Console.readLine prompt machine.console).2 }
  refl : ∀ environment, Leads environment environment
  trans : ∀ {before middle after}, Leads before middle → Leads middle after → Leads before after
  define : ∀ {before after subject value},
    before.define subject value = .ok after → Leads before after
  declare : ∀ {before after routine},
    before.declareRoutine routine = .ok after → Leads before after
  scope : ∀ {before after kind}, Leads (before.pushScope kind) after → Leads before after.popScope
  context : ∀ {before entered after context},
    before.pushContext context = .ok entered → Leads entered after → Leads before after.popContext

/-- From each machine with a property a run goes to one with the property, and the environments before
and after it are related. -/
def Run.Passes
    {κ α : Type} (Kept : Machine κ → Prop) (Leads : Environment → Environment → Prop)
    (run : Run κ α) : Prop :=
  ∀ machine : Machine κ, Kept machine →
    Kept (run machine).2 ∧ Leads machine.environment (run machine).2.environment

namespace Passage

variable
    {condition : Condition} {Kept : Machine κ → Prop} {Leads : Environment → Environment → Prop}
    {α β : Type}
    (passage : Passage condition Kept Leads)

include passage

theorem still {run : Run κ α} (same : ∀ machine, (run machine).2 = machine) :
    run.Passes Kept Leads := by
  intro machine kept
  rw [same machine]
  exact ⟨kept, passage.refl machine.environment⟩

theorem bind
    {run : Run κ α} {next : α → Run κ β}
    (first : run.Passes Kept Leads) (second : ∀ value, (next value).Passes Kept Leads) :
    (run >>= next).Passes Kept Leads := by
  intro machine kept
  have firstPasses := first machine kept
  apply Run.bind_cases fun result =>
    Kept result.2 ∧ Leads machine.environment result.2.environment
  · intro value middle ends
    rw [ends] at firstPasses
    obtain ⟨keptMiddle, leadsMiddle⟩ := firstPasses
    obtain ⟨keptAfter, leadsAfter⟩ := second value middle keptMiddle
    exact ⟨keptAfter, passage.trans leadsMiddle leadsAfter⟩
  · intro stop after ends
    rw [ends] at firstPasses
    exact firstPasses

theorem ask (position : Position) (question : Environment → Except RuntimeCause α) :
    (Run.ask position question).Passes Kept Leads :=
  passage.still (Run.ask_machine position question)

theorem routine
    {next : Routine → Run κ α} (position : Position) (label : String)
    (nextPasses : ∀ routine, condition.Admits routine → (next routine).Passes Kept Leads) :
    (Run.ask position (fun environment => environment.routine label) >>= next).Passes
      Kept Leads := by
  intro machine kept
  cases found : machine.environment.routine label with
  | error cause =>
      rw [Run.ask_bind_of_error found]
      exact ⟨kept, passage.refl machine.environment⟩
  | ok routine =>
      rw [Run.ask_bind_of_ok found]
      exact nextPasses routine ((passage.admits kept).of_routine found) machine kept

theorem perform
    (position : Position) {change : Change}
    (becomes : ∀ machine after, Kept machine → change.apply machine.environment = .ok after →
      Kept (machine.became change after) ∧ Leads machine.environment after) :
    (Run.perform position change).Passes Kept Leads := by
  intro machine kept
  unfold Run.perform
  split
  · next after applied => exact becomes machine after kept applied
  · exact ⟨kept, passage.refl machine.environment⟩

theorem inScope (kind : ScopeKind) {run : Run κ α} (inside : run.Passes Kept Leads) :
    (Run.inScope kind run).Passes Kept Leads := by
  intro machine kept
  have openedMade : condition.Makes (.opened kind) := trivial
  have closedMade : condition.Makes .closed := trivial
  have keptOpened := passage.becomes kept openedMade rfl
  obtain ⟨keptAfter, leadsAfter⟩ := inside _ keptOpened
  exact ⟨passage.becomes keptAfter closedMade rfl, passage.scope leadsAfter⟩

theorem inContext
    (position : Position) (context : Context) {run : Run κ α}
    (inside : run.Passes Kept Leads) : (Run.inContext position context run).Passes Kept Leads := by
  intro machine kept
  have enteredMade : condition.Makes (.entered context) := trivial
  have leftMade : condition.Makes .left := trivial
  unfold Run.inContext
  split
  · exact ⟨kept, passage.refl machine.environment⟩
  · next entered push =>
      have keptEntered := passage.becomes kept enteredMade push
      obtain ⟨keptAfter, leadsAfter⟩ := inside _ keptEntered
      exact ⟨passage.becomes keptAfter leftMade rfl, passage.context push leadsAfter⟩

theorem print (position : Position) (line : String) :
    (Run.print position line).Passes Kept Leads := by
  intro machine kept
  have keptAfter := passage.prints line kept
  unfold Run.print
  split <;> next printed =>
    rw [printed] at keptAfter
    exact ⟨keptAfter, passage.refl machine.environment⟩

theorem read (position : Position) (prompt : String) :
    (Run.read position prompt).Passes Kept Leads := by
  intro machine kept
  have keptAfter := passage.reads prompt kept
  unfold Run.read
  split <;> next answered =>
    rw [answered] at keptAfter
    exact ⟨keptAfter, passage.refl machine.environment⟩

/-! ## Expressions and statements -/

theorem congruence : Congruence condition fun α (run _ : Run κ α) => run.Passes Kept Leads where
  value _ := passage.still fun _ => rfl
  failure _ _ := passage.still fun _ => rfl
  sequence first second := passage.bind first second
  lookup position _ := passage.ask position _
  routine position label related := passage.routine position label related
  define position _ _ :=
    passage.perform position fun _ _ kept defined =>
      ⟨passage.becomes kept rfl defined, passage.define defined⟩
  declare position _ admitted :=
    passage.perform position fun _ _ kept declared =>
      ⟨passage.becomes kept admitted declared, passage.declare declared⟩
  scope kind inside := passage.inScope kind inside
  print := passage.print
  read := passage.read

/-- What a run keeps, all programs keep, once it is known what becomes of new values. -/
theorem uniform
    (reassignments : ∀ fuel : Nat,
      Reassignments condition (fun α (run _ : Run κ α) => run.Passes Kept Leads)
        (bodyRunner fuel) (bodyRunner fuel)) :
    UniformCongruence condition fun α (run _ : Run κ α) => run.Passes Kept Leads where
  toCongruence := passage.congruence
  fault := passage.still fun _ => rfl
  exhausted := passage.still fun _ => rfl
  context position context inside := passage.inContext position context inside
  reassignments := reassignments

/-- New values are no exception if all of them keep the property and the relation. -/
theorem uniform_of_assign
    (assign : ∀ {machine : Machine κ} {after : Environment} (name : String) (value : Literal),
      Kept machine → machine.environment.assign name value = .ok after →
      Kept (machine.became (.assigned name value.type value) after) ∧
        Leads machine.environment after) :
    UniformCongruence condition fun α (run _ : Run κ α) => run.Passes Kept Leads := by
  apply passage.uniform
  intro fuel
  apply passage.congruence.reassignments
  intro position name value
  exact passage.perform position fun _ _ kept assigned => assign name value kept assigned

end Passage

end Zoop
