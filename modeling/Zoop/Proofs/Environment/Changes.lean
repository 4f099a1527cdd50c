import Zoop.Change

/-!
# What each change does to an environment

One lemma for each change that can fail, which says when it succeeds and what it then leaves.  A new
value goes to the nearest scope that binds its name, so the scopes are taken apart there.
-/

namespace Zoop

/-! ## Bounded stacks -/

namespace BoundedStack

variable {α : Type} {capacity : Nat}

theorem eq_of_items {first second : BoundedStack α capacity} (same : first.items = second.items) :
    first = second := by
  cases first
  cases second
  cases same
  rfl

theorem push?_eq_some
    {stack pushed : BoundedStack α capacity} {item : α} (succeeds : stack.push? item = some pushed) :
    stack.items.length < capacity ∧ pushed.items = item :: stack.items := by
  unfold push? at succeeds
  split at succeeds
  · next room =>
      injection succeeds with equality
      subst equality
      exact ⟨room, rfl⟩
  · cases succeeds

end BoundedStack

/-! ## Scopes -/

namespace Scope

@[simp]
theorem kind_set (scope : Scope) (subject : Variable) (value : Literal) :
    (scope.set subject value).kind = scope.kind := by
  unfold set
  split <;> rfl

theorem get?_set_self (scope : Scope) (subject : Variable) (value : Literal) :
    (scope.set subject value).get? subject = some value := by
  unfold get? set space
  cases subject.mutable
  · exact Bindings.get?_set_self scope.immutables subject.name value
  · exact Bindings.get?_set_self scope.mutables subject.name value

theorem get?_set_of_ne
    (scope : Scope) {subject other : Variable} (value : Literal) (different : other ≠ subject) :
    (scope.set subject value).get? other = scope.get? other := by
  obtain ⟨mutable, name⟩ := subject
  obtain ⟨otherMutable, otherName⟩ := other
  unfold get? set space
  by_cases sameSpace : otherMutable = mutable
  · subst sameSpace
    have differentName : otherName ≠ name := by
      intro sameName
      exact different (by rw [sameName])
    cases otherMutable
    · exact Bindings.get?_set_of_ne scope.immutables value differentName
    · exact Bindings.get?_set_of_ne scope.mutables value differentName
  · cases otherMutable <;> cases mutable <;> simp_all

theorem binds_set (scope : Scope) (subject other : Variable) (value : Literal) :
    (scope.set subject value).binds other = (decide (other = subject) || scope.binds other) := by
  unfold binds
  by_cases same : other = subject
  · subst same
    simp [get?_set_self]
  · simp [get?_set_of_ne scope value same, same]

/-- Giving a new value to a name that is bound binds no other names. -/
theorem binds_set_of_binds
    {scope : Scope} {subject : Variable} (value : Literal) (bound : scope.binds subject = true) :
    (scope.set subject value).binds = scope.binds := by
  funext other
  rw [binds_set]
  by_cases same : other = subject
  · subst same
    simp [bound]
  · simp [same]

theorem binds_mutable (scope : Scope) (name : String) :
    scope.binds ⟨true, name⟩ = scope.mutables.binds name :=
  rfl

end Scope

/-! ## Environments -/

namespace Environment

theorem define_eq_ok
    {environment after : Environment} {subject : Variable} {value : Literal}
    (succeeds : environment.define subject value = .ok after) :
    environment.current.binds subject = false ∧
      after = { environment with current := environment.current.set subject value } := by
  unfold define at succeeds
  split at succeeds
  · cases succeeds
  · split at succeeds
    · cases succeeds
    · next unbound =>
        injection succeeds with equality
        exact ⟨by simpa using unbound, equality.symm⟩

theorem assignNearest?_eq_some
    {name : String} {value : Literal} {scopes after : List Scope}
    (succeeds : assignNearest? name value scopes = some after) :
    ∃ inner scope outer,
      scopes = inner ++ scope :: outer ∧
      (∀ nearer ∈ inner, nearer.binds ⟨true, name⟩ = false) ∧
      scope.binds ⟨true, name⟩ = true ∧
      after = inner ++ scope.set ⟨true, name⟩ value :: outer := by
  induction scopes generalizing after with
  | nil => cases succeeds
  | cons scope outer inductionHypothesis =>
      rw [assignNearest?] at succeeds
      split at succeeds
      · next bound =>
          injection succeeds with equality
          exact ⟨[], scope, outer, rfl, by simp, bound, equality.symm⟩
      · next unbound =>
          obtain ⟨rest, found, equality⟩ := Option.map_eq_some_iff.mp succeeds
          obtain ⟨inner, target, beyond, split, nearer, bound, shape⟩ := inductionHypothesis found
          refine ⟨scope :: inner, target, beyond, by rw [split, List.cons_append], ?_, bound, ?_⟩
          · intro candidate member
            rcases List.mem_cons.mp member with same | member
            · subst same
              simpa [Scope.binds_mutable] using unbound
            · exact nearer candidate member
          · rw [← equality, shape, List.cons_append]

theorem assignNearest?_isSome (name : String) (value : Literal) (scopes : List Scope) :
    (assignNearest? name value scopes).isSome =
      scopes.any fun scope => scope.binds ⟨true, name⟩ := by
  induction scopes with
  | nil => rfl
  | cons scope outer inductionHypothesis =>
      rw [assignNearest?, List.any_cons, Scope.binds_mutable]
      cases scope.mutables.binds name with
      | true => rfl
      | false =>
          rw [if_neg Bool.false_ne_true, Option.isSome_map, inductionHypothesis, Bool.false_or]

theorem assign_of_bound
    {environment : Environment} {name : String} {scope : Scope} (member : scope ∈ environment.scopes)
    (bound : scope.binds ⟨true, name⟩ = true) (value : Literal) :
    ∃ after, environment.assign name value = .ok after := by
  have possible : (assignNearest? name value environment.scopes).isSome = true := by
    rw [assignNearest?_isSome]
    exact List.any_eq_true.mpr ⟨scope, member, bound⟩
  obtain ⟨scopes, found⟩ := Option.isSome_iff_exists.mp possible
  obtain ⟨inner, _, outer, _, _, _, shape⟩ := assignNearest?_eq_some found
  cases scopes with
  | nil =>
      have notEmpty := congrArg List.isEmpty shape
      simp at notEmpty
  | cons current outer =>
      rw [assign, found]
      exact ⟨_, rfl⟩

/-- A new value replaces the one in the nearest scope that binds the name, and nothing else. -/
theorem assign_eq_ok
    {environment after : Environment} {name : String} {value : Literal}
    (succeeds : environment.assign name value = .ok after) :
    after.routines = environment.routines ∧
    after.contexts = environment.contexts ∧
    ∃ inner scope outer,
      environment.scopes = inner ++ scope :: outer ∧
      (∀ nearer ∈ inner, nearer.binds ⟨true, name⟩ = false) ∧
      scope.binds ⟨true, name⟩ = true ∧
      after.scopes = inner ++ scope.set ⟨true, name⟩ value :: outer := by
  unfold assign at succeeds
  split at succeeds
  · next current outer found =>
      injection succeeds with equality
      subst equality
      exact ⟨rfl, rfl, assignNearest?_eq_some found⟩
  · cases succeeds

/-- The scope that a new value goes to has the name already, so all scopes have the names that they
had. -/
theorem names_of_assign
    {environment after : Environment} {name : String} {value : Literal}
    (succeeds : environment.assign name value = .ok after) :
    after.scopes.map Scope.binds = environment.scopes.map Scope.binds := by
  obtain ⟨_, _, inner, scope, outer, split, _, bound, shape⟩ := assign_eq_ok succeeds
  rw [shape, split]
  simp [Scope.binds_set_of_binds value bound]

theorem lookup_mutable_eq_ok
    {environment : Environment} {name : String} {value : Literal}
    (found : environment.lookup ⟨true, name⟩ = .ok value) :
    (environment.scopes.findSome? fun scope => scope.get? ⟨true, name⟩) = some value := by
  have noArgument : environment.argument? ⟨true, name⟩ = none := rfl
  simp only [lookup, noArgument] at found
  split at found
  · next located =>
      injection found with equality
      rw [located, equality]
  · cases found

/-- The place of the scope, counted from the innermost one, in which a mutable name is found. -/
def holder? (environment : Environment) (name : String) : Option Nat :=
  environment.scopes.findIdx? fun scope => scope.binds ⟨true, name⟩

theorem holder?_eq_some
    {environment : Environment} {name : String} {inner : List Scope} {scope : Scope}
    {outer : List Scope}
    (split : environment.scopes = inner ++ scope :: outer)
    (nearer : ∀ candidate ∈ inner, candidate.binds ⟨true, name⟩ = false)
    (bound : scope.binds ⟨true, name⟩ = true) :
    environment.holder? name = some inner.length := by
  have innerAbsent : (inner.findIdx? fun scope => scope.binds ⟨true, name⟩) = none := by
    simpa using nearer
  simp [holder?, split, List.findIdx?_append, innerAbsent, List.findIdx?_cons, bound]

/-- The value of a variable is the one in the scope in which its name is found. -/
theorem holder?_of_lookup
    {environment : Environment} {name : String} {value : Literal}
    (found : environment.lookup ⟨true, name⟩ = .ok value) :
    ∃ place scope,
      environment.holder? name = some place ∧
      environment.scopes[place]? = some scope ∧
      scope.get? ⟨true, name⟩ = some value := by
  obtain ⟨inner, scope, outer, split, valueHere, nearer⟩ :=
    List.findSome?_eq_some_iff.mp (lookup_mutable_eq_ok found)
  refine ⟨inner.length, scope, holder?_eq_some split ?_ ?_, by simp [split], valueHere⟩
  · intro candidate member
    simp [Scope.binds, nearer candidate member]
  · simp [Scope.binds, valueHere]

theorem bound_of_lookup
    {environment : Environment} {name : String} {value : Literal}
    (found : environment.lookup ⟨true, name⟩ = .ok value) :
    ∃ scope ∈ environment.scopes, scope.binds ⟨true, name⟩ = true := by
  obtain ⟨place, scope, _, there, here⟩ := holder?_of_lookup found
  refine ⟨scope, List.mem_of_getElem? there, ?_⟩
  rw [Scope.binds, here]
  rfl

/-- A new value goes to the scope in which the name is found. -/
theorem holder?_of_assign
    {environment after : Environment} {name : String} {value : Literal}
    (succeeds : environment.assign name value = .ok after) :
    ∃ place scope,
      environment.holder? name = some place ∧
      environment.scopes[place]? = some scope ∧
      after.scopes = environment.scopes.set place (scope.set ⟨true, name⟩ value) := by
  obtain ⟨_, _, inner, scope, outer, split, nearer, bound, shape⟩ := assign_eq_ok succeeds
  refine ⟨inner.length, scope, holder?_eq_some split nearer bound, by simp [split], ?_⟩
  rw [shape, split, List.set_append_right inner.length _ (Nat.le_refl _)]
  simp

theorem declareRoutine_eq_ok
    {environment after : Environment} {routine : Routine}
    (succeeds : environment.declareRoutine routine = .ok after) :
    environment.findRoutine? routine.label = none ∧
      after = { environment with routines := routine :: environment.routines } := by
  unfold declareRoutine at succeeds
  split at succeeds
  · cases succeeds
  · next absent =>
      injection succeeds with equality
      exact ⟨absent, equality.symm⟩

theorem pushContext_eq_ok
    {environment after : Environment} {context : Context}
    (succeeds : environment.pushContext context = .ok after) :
    ∃ contexts : BoundedStack Context maxContexts,
      environment.contexts.items.length < maxContexts ∧
      contexts.items = context :: environment.contexts.items ∧
      after = { environment with contexts := contexts } := by
  unfold pushContext at succeeds
  split at succeeds
  · next contexts pushed =>
      injection succeeds with equality
      obtain ⟨room, items⟩ := BoundedStack.push?_eq_some pushed
      exact ⟨contexts, room, items, equality.symm⟩
  · cases succeeds

/-- Leaving a call gives back the arguments from before it. -/
theorem popContext_contexts
    {environment inside : Environment} {context : Context}
    (items : inside.contexts.items = context :: environment.contexts.items) :
    inside.popContext.contexts = environment.contexts := by
  apply BoundedStack.eq_of_items
  simp only [popContext, BoundedStack.pop, items, List.tail_cons]

theorem findRoutine?_cons
    (environment : Environment) (routine : Routine) (label : String) :
    ({ environment with routines := routine :: environment.routines } : Environment).findRoutine?
        label =
      if routine.label = label then some routine else environment.findRoutine? label := by
  by_cases same : routine.label = label
  · simp [findRoutine?, same]
  · simp [findRoutine?, same, beq_false_of_ne same]

end Environment

/-! ## Changes -/

/-- A value that a change stores is of the data type that the change names. -/
def Change.Fits : Change → Prop
  | .defined _ type value => value.type = type
  | .assigned _ type value => value.type = type
  | _ => True

end Zoop
