import Zoop.Proofs.Evaluation.Passage
import Zoop.Proofs.Evaluation.Points

/-!
# The stacks of an environment after a run

Whatever a run does and however it ends, it leaves the scopes and the calls as it found them: the same
scopes are open, the same calls are active, scopes around the innermost one bind the names that they
have bound before, and neither the innermost scope nor the list of zoops has lost a name.
-/

namespace Zoop

open Evaluation

/-- What every run keeps between the environment before it and the environment after it. -/
structure Environment.Disciplined (before after : Environment) : Prop where
  /-- The same kinds of scopes are open. -/
  kinds : after.scopes.map Scope.kind = before.scopes.map Scope.kind
  /-- The same calls are active, with the same arguments. -/
  contexts : after.contexts = before.contexts
  /-- The scopes around the innermost one bind the same names, mutable and immutable. -/
  outerNames : after.outer.map Scope.binds = before.outer.map Scope.binds
  /-- The innermost scope has lost no name. -/
  currentNames : ∀ subject, before.current.binds subject = true → after.current.binds subject = true
  /-- No zoop has been lost. -/
  labels : ∀ label, (before.findRoutine? label).isSome = true → (after.findRoutine? label).isSome = true

namespace Environment.Disciplined

theorem refl (environment : Environment) : Disciplined environment environment :=
  ⟨rfl, rfl, rfl, fun _ bound => bound, fun _ declared => declared⟩

theorem trans
    {before middle after : Environment}
    (first : Disciplined before middle) (second : Disciplined middle after) :
    Disciplined before after where
  kinds := second.kinds.trans first.kinds
  contexts := second.contexts.trans first.contexts
  outerNames := second.outerNames.trans first.outerNames
  currentNames subject bound := second.currentNames subject (first.currentNames subject bound)
  labels label declared := second.labels label (first.labels label declared)

theorem of_define
    {before after : Environment} {subject : Variable} {value : Literal}
    (succeeds : before.define subject value = .ok after) : Disciplined before after := by
  obtain ⟨_, shape⟩ := define_eq_ok succeeds
  subst shape
  refine ⟨by simp [scopes], rfl, rfl, ?_, fun _ declared => declared⟩
  intro other bound
  simp [Scope.binds_set, bound]

theorem of_assign
    {before after : Environment} {name : String} {value : Literal}
    (succeeds : before.assign name value = .ok after) : Disciplined before after := by
  have names := names_of_assign succeeds
  obtain ⟨routines, contexts, inner, scope, outer, split, _, _, shape⟩ := assign_eq_ok succeeds
  simp only [scopes, List.map_cons, List.cons.injEq] at names
  refine ⟨by rw [shape, split]; simp, contexts, names.2, ?_, ?_⟩
  · intro subject current
    rw [names.1, current]
  · intro label declared
    simpa [findRoutine?, routines] using declared

theorem of_declareRoutine
    {before after : Environment} {routine : Routine}
    (succeeds : before.declareRoutine routine = .ok after) : Disciplined before after := by
  obtain ⟨_, shape⟩ := declareRoutine_eq_ok succeeds
  subst shape
  refine ⟨rfl, rfl, rfl, fun _ bound => bound, ?_⟩
  intro label declared
  rw [findRoutine?_cons]
  split
  · rfl
  · exact declared

/-- What a run inside a new scope does to the names of the scope around it: nothing. -/
theorem names_of_scope
    {before after : Environment} {kind : ScopeKind}
    (inside : Disciplined (before.pushScope kind) after) :
    after.popScope.current.binds = before.current.binds := by
  have names := inside.outerNames
  obtain ⟨current, outer, routines, contexts⟩ := after
  cases outer with
  | nil => simp [pushScope] at names
  | cons scope outer =>
      simp only [pushScope, List.map_cons, List.cons.injEq] at names
      exact names.1

/-- A scope that is opened before a run and left after it leaves no trace. -/
theorem of_scope
    {before after : Environment} {kind : ScopeKind}
    (inside : Disciplined (before.pushScope kind) after) : Disciplined before after.popScope := by
  have kinds := inside.kinds
  have outerNames := inside.outerNames
  have currentNames := inside.names_of_scope
  obtain ⟨current, outer, routines, contexts⟩ := after
  cases outer with
  | nil => simp [pushScope] at outerNames
  | cons scope outer =>
      simp only [scopes, pushScope, List.map_cons, List.cons.injEq] at kinds outerNames
      refine ⟨by simp [scopes, popScope, kinds.2], inside.contexts, outerNames.2, ?_, inside.labels⟩
      intro subject bound
      rw [currentNames, bound]

/-- So does a call that is entered before a run and left after it. -/
theorem of_context
    {before entered after : Environment} {context : Context}
    (push : before.pushContext context = .ok entered)
    (inside : Disciplined entered after) : Disciplined before after.popContext := by
  obtain ⟨contexts, _, items, shape⟩ := pushContext_eq_ok push
  subst shape
  refine ⟨inside.kinds, ?_, inside.outerNames, inside.currentNames, inside.labels⟩
  apply popContext_contexts
  rw [inside.contexts]
  exact items

end Environment.Disciplined

/-! ## Runs -/

/-- Every run of a kind is disciplined, whatever its outcome. -/
def Run.Disciplined {κ α : Type} (run : Run κ α) : Prop :=
  ∀ machine : Machine κ, machine.environment.Disciplined (run machine).2.environment

namespace Run.Disciplined

variable {κ : Type} [Console κ]

/-- Nothing need be known about a machine for its environment to be disciplined. -/
theorem passage :
    Passage Condition.trivial (fun _ : Machine κ => True) Environment.Disciplined where
  admits _ := fun routine _ => Condition.admits_trivial routine
  becomes _ _ _ := trivial
  prints _ _ := trivial
  reads _ _ := trivial
  refl := .refl
  trans := .trans
  define := .of_define
  declare := .of_declareRoutine
  scope := .of_scope
  context := .of_context

theorem uniform :
    UniformCongruence Condition.trivial fun α (run _ : Run κ α) =>
      run.Passes (fun _ => True) Environment.Disciplined :=
  passage.uniform_of_assign fun _ _ _ assigned => ⟨trivial, .of_assign assigned⟩

end Run.Disciplined

theorem Run.Passes.disciplined
    {κ α : Type} {run : Run κ α} (passes : run.Passes (fun _ => True) Environment.Disciplined) :
    run.Disciplined :=
  fun machine => (passes machine trivial).2

/-- However a part of a program ends, it has been disciplined. -/
theorem Task.disciplined_of_run
    {κ : Type} [Console κ] {fuel : Nat} {machine after : Machine κ} (task : Task)
    {outcome : Outcome RuntimeError task.Result}
    (ends : task.run fuel machine = (outcome, after)) :
    machine.environment.Disciplined after.environment := by
  have disciplined := (Run.Disciplined.uniform.task fuel task).disciplined machine
  rw [ends] at disciplined
  exact disciplined

/-! ## Programs -/

/-- At the end of a program the environment has the outermost scope alone and no active call. -/
def Environment.AtRest (environment : Environment) : Prop :=
  environment.scopes.map Scope.kind = [.global] ∧ environment.contexts.items = []

theorem Environment.Disciplined.atRest
    {before after : Environment} (disciplined : before.Disciplined after) (rest : before.AtRest) :
    after.AtRest := by
  refine ⟨disciplined.kinds.trans rest.1, ?_⟩
  rw [disciplined.contexts]
  exact rest.2

theorem Program.runWith_disciplined
    {κ : Type} [Console κ] (fuel : Nat) (program : Program) :
    (program.runWith fuel : Run κ Unit).Disciplined :=
  (Run.Disciplined.uniform.runWith fuel program (Condition.trivial_inStatements _)).disciplined

/-- The scopes, the calls and the names of zoops are kept by expressions, statements, lists of
statements, blocks and programs, from every environment, on every console and with every outcome.  In
particular, programs that one machine has run in turn, whether they failed or not, leave it with the
outermost scope alone and without a call. -/
theorem stacks_kept_by_every_run {κ : Type} [Console κ] (fuel : Nat) :
    (∀ expression : Expression,
      (evaluate (bodyRunner fuel) expression : Run κ Literal).Disciplined) ∧
    (∀ statement : Statement,
      (execute (bodyRunner fuel) fuel statement : Run κ Flow).Disciplined) ∧
    (∀ body : List Statement,
      (executeAll (bodyRunner fuel) fuel body : Run κ Flow).Disciplined) ∧
    (∀ (kind : ScopeKind) (body : List Statement),
      (Run.inScope kind (executeAll (bodyRunner fuel) fuel body) : Run κ Flow).Disciplined) ∧
    (∀ program : Program, (program.runWith fuel : Run κ Unit).Disciplined) ∧
    ∀ (programs : List Program) (console : κ),
      (Program.runInTurn fuel programs (Machine.start console)).environment.AtRest := by
  have uniform := Run.Disciplined.uniform (κ := κ)
  refine ⟨?_, ?_, ?_, ?_, Program.runWith_disciplined fuel, ?_⟩
  · intro expression
    exact (uniform.evaluate fuel expression (Condition.trivial_inExpression expression)).disciplined
  · intro statement
    exact (uniform.execute fuel statement (Condition.trivial_inStatement statement)).disciplined
  · intro body
    exact (uniform.executeAll fuel body (Condition.trivial_inStatements body)).disciplined
  · intro kind body
    apply Run.Passes.disciplined
    apply Run.Disciplined.passage.inScope kind
    exact uniform.executeAll fuel body (Condition.trivial_inStatements body)
  · intro programs console
    apply Program.runInTurn_keeps fun machine => machine.environment.AtRest
    · intro program _ machine rest
      exact (Program.runWith_disciplined fuel program machine).atRest rest
    · exact ⟨rfl, rfl⟩

end Zoop
