import Zoop.Proofs.Environment.Changes
import Zoop.Proofs.Evaluation.Congruence

/-!
# Agreement of runs under an invariant

Two ways to run the same program often differ only where an invariant of the environment rules the
difference out.  Here the runs start from one machine whose environment meets the invariant; they agree
if they do exactly the same from there, and end with a value, with an error, or in one more way that
they are allowed.
-/

namespace Zoop

open Evaluation

/-! ## Invariants of environments -/

/-- The changes that a run makes other than by calls, where zoops that are declared have to meet the
condition. -/
def Condition.Permits (condition : Condition) : Change → Prop
  | .declared routine => condition.Admits routine
  | .entered _ => False
  | .left => False
  | _ => True

/-- A property of environments that limits the zoops that are declared, and that all changes other than
those by calls keep. -/
structure Invariant (condition : Condition) (Kept : Environment → Prop) : Prop where
  admits : ∀ {environment : Environment}, Kept environment → condition.AdmitsAll environment
  keeps : ∀ {before after : Environment} {change : Change},
    Kept before → condition.Permits change → change.apply before = .ok after → Kept after

namespace Condition

variable {condition : Condition}

theorem Permits.declaredAdmits
    {change : Change} (permitted : condition.Permits change) :
    ∀ routine, change = .declared routine → condition.Admits routine := by
  intro routine isDeclared
  rw [isDeclared] at permitted
  exact permitted

theorem admitsAll_invariant : Invariant condition condition.AdmitsAll :=
  ⟨fun admits => admits, fun admits permitted => admits.of_apply permitted.declaredAdmits⟩

end Condition

/-- Changes other than those by calls keep the calls that are active. -/
theorem Change.contexts_of_apply
    {condition : Condition} {before after : Environment} {change : Change}
    (permitted : condition.Permits change) (applied : change.apply before = .ok after) :
    after.contexts = before.contexts := by
  cases change with
  | opened kind =>
      injection applied with equality
      rw [← equality]
      rfl
  | closed =>
      injection applied with equality
      rw [← equality, Environment.popScope]
      split <;> rfl
  | defined subject type value =>
      obtain ⟨_, shape⟩ := Environment.define_eq_ok applied
      rw [shape]
  | assigned name type value => exact (Environment.assign_eq_ok applied).2.1
  | declared routine =>
      obtain ⟨_, shape⟩ := Environment.declareRoutine_eq_ok applied
      rw [shape]
  | entered context => cases permitted
  | left => cases permitted

/-! ## Agreement -/

/-- From each machine whose environment meets an invariant two runs do the same and meet the invariant
again, and they end with a value, with an error, or as they are allowed to. -/
def Run.Agree
    {κ α : Type} (Kept : Environment → Prop) (allowed : Stop) (first second : Run κ α) : Prop :=
  ∀ machine : Machine κ, Kept machine.environment →
    second machine = first machine ∧
    Kept (first machine).2.environment ∧
    (first machine).1.SettledOr allowed

namespace Run.Agree

variable {κ α β : Type} {Kept : Environment → Prop} {allowed : Stop}

/-- A run that always ends and changes no environment agrees with itself. -/
theorem of_environment_eq
    {run : Run κ α} (same : ∀ machine, (run machine).2.environment = machine.environment)
    (ends : ∀ machine, (run machine).1.Settled) :
    run.Agree Kept allowed run := by
  intro machine kept
  refine ⟨rfl, ?_, .settled (ends machine)⟩
  rw [same machine]
  exact kept

/-- What agrees with another run agrees with itself. -/
theorem left {first second : Run κ α} (agree : first.Agree Kept allowed second) :
    first.Agree Kept allowed first :=
  fun machine kept => ⟨rfl, (agree machine kept).2⟩

theorem of_stop {run : Run κ α} (stops : ∀ machine, run machine = (allowed.outcome, machine)) :
    run.Agree Kept allowed run := by
  intro machine kept
  rw [stops machine]
  exact ⟨rfl, kept, .other⟩

theorem bind
    {first₁ first₂ : Run κ α} {next₁ next₂ : α → Run κ β}
    (firstAgree : first₁.Agree Kept allowed first₂)
    (nextAgree : ∀ value,
      (∃ machine, (first₁ machine).1 = .ok value) → (next₁ value).Agree Kept allowed (next₂ value)) :
    (first₁ >>= next₁).Agree Kept allowed (first₂ >>= next₂) := by
  intro machine kept
  obtain ⟨same, keptAfter, ends⟩ := firstAgree machine kept
  rcases result : first₁ machine with ⟨outcome, after⟩
  rw [result] at same keptAfter ends
  cases ends with
  | settled settled =>
      cases settled with
      | ok value =>
          rw [Run.bind_of_ok result, Run.bind_of_ok same]
          exact nextAgree value ⟨machine, by rw [result]⟩ after keptAfter
      | error cause =>
          rw [Run.bind_of_error result, Run.bind_of_error same]
          exact ⟨rfl, keptAfter, .settled (.error cause)⟩
  | other =>
      rw [Run.bind_of_stop result, Run.bind_of_stop same]
      exact ⟨rfl, keptAfter, .other⟩

theorem ask
    (position : Position) (question : Environment → Except RuntimeCause α) :
    (Run.ask position question : Run κ α).Agree Kept allowed (Run.ask position question) := by
  apply of_environment_eq
  · intro machine
    rw [Run.ask_machine]
  · exact fun machine => .ofResultAt position _ machine

theorem routine
    {condition : Condition} (invariant : Invariant condition Kept)
    {next₁ next₂ : Routine → Run κ α} (position : Position) (label : String)
    (nextAgree : ∀ routine, condition.Admits routine →
      (next₁ routine).Agree Kept allowed (next₂ routine)) :
    (Run.ask position (fun environment => environment.routine label) >>= next₁).Agree Kept allowed
      (Run.ask position (fun environment => environment.routine label) >>= next₂) := by
  intro machine kept
  cases found : machine.environment.routine label with
  | error cause =>
      rw [Run.ask_bind_of_error found, Run.ask_bind_of_error found]
      exact ⟨rfl, kept, .settled (.error _)⟩
  | ok routine =>
      rw [Run.ask_bind_of_ok found, Run.ask_bind_of_ok found]
      exact nextAgree routine ((invariant.admits kept).of_routine found) machine kept

variable [Console κ]

theorem perform
    {condition : Condition} (invariant : Invariant condition Kept)
    (position : Position) {change : Change} (permitted : condition.Permits change) :
    (Run.perform position change : Run κ Unit).Agree Kept allowed
      (Run.perform position change) := by
  intro machine kept
  unfold Run.perform
  split
  · next environment applied =>
      exact ⟨rfl, invariant.keeps kept permitted applied, .settled (.ok ())⟩
  · exact ⟨rfl, kept, .settled (.error _)⟩

theorem inScope
    {condition : Condition} (invariant : Invariant condition Kept)
    {first second : Run κ α} (kind : ScopeKind) (inside : first.Agree Kept allowed second) :
    (Run.inScope kind first).Agree Kept allowed (Run.inScope kind second) := by
  intro machine kept
  have openedPermitted : condition.Permits (.opened kind) := trivial
  have closedPermitted : condition.Permits .closed := trivial
  have opened := invariant.keeps kept openedPermitted rfl
  obtain ⟨same, keptAfter, ends⟩ :=
    inside (machine.became (.opened kind) (machine.environment.pushScope kind)) opened
  simp only [Run.inScope, same]
  exact ⟨trivial, invariant.keeps keptAfter closedPermitted rfl, ends⟩

/-- Inside a call another invariant may hold. -/
theorem inContext
    {first second : Run κ α} (Inner : Environment → Prop)
    (position : Position) (context : Context)
    (enter : ∀ environment entered, Kept environment →
      environment.pushContext context = .ok entered → Inner entered)
    (leave : ∀ environment, Inner environment → Kept environment.popContext)
    (inside : first.Agree Inner allowed second) :
    (Run.inContext position context first).Agree Kept allowed
      (Run.inContext position context second) := by
  intro machine kept
  unfold Run.inContext
  cases push : machine.environment.pushContext context with
  | error cause => exact ⟨rfl, kept, .settled (.error _)⟩
  | ok entered =>
      obtain ⟨same, innerAfter, ends⟩ :=
        inside (machine.became (.entered context) entered)
          (enter machine.environment entered kept push)
      simp only [same]
      exact ⟨trivial, leave _ innerAfter, ends⟩

theorem print (position : Position) (line : String) :
    (Run.print position line : Run κ Unit).Agree Kept allowed (Run.print position line) := by
  apply of_environment_eq
  · exact Run.print_environment position _
  · exact fun machine => .print position line machine

theorem read (position : Position) (prompt : String) :
    (Run.read position prompt : Run κ String).Agree Kept allowed (Run.read position prompt) := by
  apply of_environment_eq
  · exact Run.read_environment position _
  · exact fun machine => .read position prompt machine

/-- Agreement under an invariant is a congruence. -/
theorem congruence {condition : Condition} (invariant : Invariant condition Kept) :
    Congruence condition fun α (first second : Run κ α) => first.Agree Kept allowed second where
  value value := of_environment_eq (fun _ => rfl) fun _ => .ok value
  failure _ _ := of_environment_eq (fun _ => rfl) fun _ => .error _
  sequence first second := first.bind fun value _ => second value
  lookup position _ := ask position _
  routine position label related := routine invariant position label related
  define position _ _ := perform invariant position trivial
  declare position _ admitted := perform invariant position admitted
  scope kind inside := inScope invariant kind inside
  print := print
  read := read

theorem reassignments
    {condition : Condition} (invariant : Invariant condition Kept)
    (run₁ run₂ : BodyRunner κ) :
    Reassignments condition (fun α (first second : Run κ α) => first.Agree Kept allowed second)
      run₁ run₂ :=
  (congruence invariant).reassignments run₁ run₂
    fun position _ _ => perform invariant position trivial

end Run.Agree

end Zoop
