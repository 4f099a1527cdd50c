import Zoop.Proofs.Environment.Changes

/-!
# All values in an environment

The values of an environment are those of its scopes and of the arguments of its active calls.  A
change brings in no value other than the one that it stores, so what holds of all values keeps holding
if it holds of those.
-/

namespace Zoop

/-! ## Bindings -/

/-- A property of all values of bindings. -/
def Bindings.Every (Holds : Literal → Prop) (bindings : Bindings) : Prop :=
  ∀ entry ∈ bindings.entries, Holds entry.2

namespace Bindings

variable {Holds : Literal → Prop}

theorem every_empty : empty.Every Holds := by
  intro entry member
  cases member

theorem Every.set
    {bindings : Bindings} {value : Literal} (every : bindings.Every Holds) (name : String)
    (holds : Holds value) : (bindings.set name value).Every Holds := by
  obtain ⟨entries⟩ := bindings
  change ∀ entry ∈ setEntry name value entries, Holds entry.2
  induction entries with
  | nil => exact List.forall_mem_cons.mpr ⟨holds, every⟩
  | cons first rest inductionHypothesis =>
      obtain ⟨firstHolds, restHold⟩ := List.forall_mem_cons.mp every
      rw [setEntry]
      split
      · exact List.forall_mem_cons.mpr ⟨holds, restHold⟩
      · exact List.forall_mem_cons.mpr ⟨firstHolds, inductionHypothesis restHold⟩

theorem Every.of_get?
    {bindings : Bindings} {name : String} {value : Literal} (every : bindings.Every Holds)
    (found : bindings.get? name = some value) : Holds value := by
  obtain ⟨before, after, split, _⟩ := List.lookup_eq_some_iff.mp found
  apply every (name, value)
  rw [split]
  exact List.mem_append_right before List.mem_cons_self

end Bindings

/-! ## Scopes -/

/-- A property of all values of a scope. -/
structure Scope.Every (Holds : Literal → Prop) (scope : Scope) : Prop where
  mutables : scope.mutables.Every Holds
  immutables : scope.immutables.Every Holds

namespace Scope

variable {Holds : Literal → Prop}

theorem every_fresh (kind : ScopeKind) : (fresh kind).Every Holds :=
  ⟨Bindings.every_empty, Bindings.every_empty⟩

theorem Every.set
    {scope : Scope} {value : Literal} (every : scope.Every Holds) (subject : Variable)
    (holds : Holds value) : (scope.set subject value).Every Holds := by
  unfold Scope.set
  split
  · exact ⟨every.mutables.set subject.name holds, every.immutables⟩
  · exact ⟨every.mutables, every.immutables.set subject.name holds⟩

theorem Every.of_get?
    {scope : Scope} {subject : Variable} {value : Literal} (every : scope.Every Holds)
    (found : scope.get? subject = some value) : Holds value := by
  unfold Scope.get? space at found
  split at found
  · exact every.mutables.of_get? found
  · exact every.immutables.of_get? found

end Scope

/-! ## Environments -/

/-- A property of all values of an environment. -/
structure Environment.Every (Holds : Literal → Prop) (environment : Environment) : Prop where
  scopes : ∀ scope ∈ environment.scopes, scope.Every Holds
  contexts : ∀ context ∈ environment.contexts.items, Bindings.Every Holds context

namespace Environment

variable {Holds : Literal → Prop}

theorem every_initial : initial.Every Holds := by
  refine ⟨?_, nofun⟩
  intro scope member
  rw [List.mem_singleton.mp member]
  exact Scope.every_fresh .global

namespace Every

variable {environment after : Environment} (every : environment.Every Holds)

include every

theorem lookup {subject : Variable} {value : Literal}
    (found : environment.lookup subject = .ok value) : Holds value := by
  unfold Environment.lookup at found
  split at found
  · next isArgument =>
      cases found
      unfold argument? at isArgument
      split at isArgument
      · cases isArgument
      · obtain ⟨context, isTop, isThere⟩ := Option.bind_eq_some_iff.mp isArgument
        exact (every.contexts context (List.mem_of_head? isTop)).of_get? isThere
  · split at found
    · next isBound =>
        cases found
        obtain ⟨scope, isOpen, isThere⟩ := List.exists_of_findSome?_eq_some isBound
        exact (every.scopes scope isOpen).of_get? isThere
    · cases found

theorem define {subject : Variable} {value : Literal}
    (holds : Holds value) (defined : environment.define subject value = .ok after) :
    after.Every Holds := by
  obtain ⟨_, rfl⟩ := define_eq_ok defined
  obtain ⟨current, outer⟩ := List.forall_mem_cons.mp every.scopes
  exact ⟨List.forall_mem_cons.mpr ⟨current.set subject holds, outer⟩, every.contexts⟩

theorem assign {name : String} {value : Literal}
    (holds : Holds value) (assigned : environment.assign name value = .ok after) :
    after.Every Holds := by
  obtain ⟨_, sameContexts, inner, scope, outer, split, _, _, shape⟩ := assign_eq_ok assigned
  have scopes := every.scopes
  rw [split, List.forall_mem_append, List.forall_mem_cons] at scopes
  refine ⟨?_, ?_⟩
  · rw [shape, List.forall_mem_append, List.forall_mem_cons]
    exact ⟨scopes.1, scopes.2.1.set _ holds, scopes.2.2⟩
  · rw [sameContexts]
    exact every.contexts

theorem declareRoutine {routine : Routine}
    (declared : environment.declareRoutine routine = .ok after) : after.Every Holds := by
  obtain ⟨_, rfl⟩ := declareRoutine_eq_ok declared
  exact ⟨every.scopes, every.contexts⟩

theorem pushScope (kind : ScopeKind) : (environment.pushScope kind).Every Holds :=
  ⟨List.forall_mem_cons.mpr ⟨Scope.every_fresh kind, every.scopes⟩, every.contexts⟩

theorem popScope : environment.popScope.Every Holds := by
  unfold Environment.popScope
  split
  · exact every
  · next scope outer isOuter =>
      refine ⟨?_, every.contexts⟩
      have scopes := every.scopes
      rw [Environment.scopes, isOuter] at scopes
      exact (List.forall_mem_cons.mp scopes).2

theorem pushContext {context : Context}
    (holds : Bindings.Every Holds context) (pushed : environment.pushContext context = .ok after) :
    after.Every Holds := by
  obtain ⟨contexts, _, items, rfl⟩ := pushContext_eq_ok pushed
  refine ⟨every.scopes, ?_⟩
  rw [items]
  exact List.forall_mem_cons.mpr ⟨holds, every.contexts⟩

theorem popContext : environment.popContext.Every Holds :=
  ⟨every.scopes, fun context member => every.contexts context (List.mem_of_mem_tail member)⟩

end Every

end Environment

end Zoop
