import Mathlib.Data.List.Basic
import Zoop.Proofs.Environment.Changes

/-!
# Requests to an environment

An environment may be asked for things and told to do things in any order, also in ways in which no
program does it.  Whatever has been requested, its outermost scope stays, a request that is refused
changes nothing, and a variable that gets a value gets it alone: all others are found as before.
-/

namespace Zoop

/-! ## Requests and answers -/

/-- What may be requested of an environment. -/
inductive Request where
  | pushScope (kind : ScopeKind)
  | popScope
  | lookup (subject : Variable)
  | define (subject : Variable) (value : Literal)
  | assign (name : String) (value : Literal)
  | declareRoutine (routine : Routine)
  | routine (label : String)
  | pushContext (context : Context)
  | popContext
  | topContext

/-- Open a scope, define variables, and leave the scope. -/
def Request.block (kind : ScopeKind) (definitions : List (Variable × Literal)) : List Request :=
  .pushScope kind ::
    definitions.map (fun definition => .define definition.1 definition.2) ++ [.popScope]

/-- What is answered to a request that is not refused. -/
inductive Answer where
  | done
  | value (literal : Literal)
  | routine (routine : Routine)
  /-- The arguments of the innermost call, if there is one. -/
  | context (context : Option Context)

namespace Environment

/-- A change is made if it is possible, and otherwise refused. -/
def settle (environment : Environment) :
    Except RuntimeCause Environment → Except RuntimeCause Answer × Environment
  | .ok after => (.ok .done, after)
  | .error cause => (.error cause, environment)

/-- The answer to a request, and the environment after it. -/
def serve (environment : Environment) : Request → Except RuntimeCause Answer × Environment
  | .pushScope kind => (.ok .done, environment.pushScope kind)
  | .popScope => (.ok .done, environment.popScope)
  | .lookup subject => ((environment.lookup subject).map .value, environment)
  | .define subject value => environment.settle (environment.define subject value)
  | .assign name value => environment.settle (environment.assign name value)
  | .declareRoutine routine => environment.settle (environment.declareRoutine routine)
  | .routine label => ((environment.routine label).map .routine, environment)
  | .pushContext context => environment.settle (environment.pushContext context)
  | .popContext => (.ok (.context environment.topContext?), environment.popContext)
  | .topContext => (.ok (.context environment.topContext?), environment)

/-- The environment after requests, one after the other. -/
def serveAll (environment : Environment) : List Request → Environment
  | [] => environment
  | request :: requests => serveAll (environment.serve request).2 requests

theorem serveAll_append (environment : Environment) (earlier later : List Request) :
    environment.serveAll (earlier ++ later) = (environment.serveAll earlier).serveAll later := by
  induction earlier generalizing environment with
  | nil => rfl
  | cons request earlier inductionHypothesis => exact inductionHypothesis (environment.serve request).2

variable {environment after : Environment}

theorem settle_of_error
    {result : Except RuntimeCause Environment} {cause : RuntimeCause}
    (refused : (environment.settle result).1 = .error cause) :
    (environment.settle result).2 = environment := by
  cases result with
  | ok after => cases refused
  | error cause => rfl

/-- What holds before a change, and after it if it is possible, holds after it is settled. -/
theorem settle_keeps
    (Holds : Environment → Prop) {result : Except RuntimeCause Environment}
    (changes : ∀ after, result = .ok after → Holds after) (holds : Holds environment) :
    Holds (environment.settle result).2 := by
  cases result with
  | ok after => exact changes after rfl
  | error cause => exact holds

theorem serve_of_error
    {request : Request} {cause : RuntimeCause} (refused : (environment.serve request).1 = .error cause) :
    (environment.serve request).2 = environment := by
  cases request with
  | pushScope | popScope | popContext => cases refused
  | lookup | routine | topContext => rfl
  | define | assign | declareRoutine | pushContext => exact settle_of_error refused

/-! ## The outermost scope -/

/-- The scope that all others are inside of. -/
def outermost (environment : Environment) : Scope :=
  environment.outer.getLast?.getD environment.current

theorem getLast?_scopes (environment : Environment) :
    environment.scopes.getLast? = some environment.outermost := by
  rw [scopes, outermost, List.getLast?_cons]

theorem outermost_of_getLast? {scope : Scope} (isLast : environment.scopes.getLast? = some scope) :
    environment.outermost = scope := by
  rw [getLast?_scopes] at isLast
  exact Option.some.inj isLast

end Environment

/-- A scope is an earlier one that may have got more names, and new values for mutable ones. -/
structure Scope.Continues (later earlier : Scope) : Prop where
  kind : later.kind = earlier.kind
  names : ∀ subject, earlier.binds subject = true → later.binds subject = true
  immutables : ∀ name value,
    earlier.get? ⟨false, name⟩ = some value → later.get? ⟨false, name⟩ = some value

namespace Scope.Continues

theorem refl (scope : Scope) : scope.Continues scope :=
  ⟨rfl, fun _ bound => bound, fun _ _ found => found⟩

theorem of_eq {later earlier : Scope} (same : later = earlier) : later.Continues earlier := by
  rw [same]
  exact refl earlier

theorem trans
    {first second third : Scope} (later : third.Continues second) (earlier : second.Continues first) :
    third.Continues first where
  kind := later.kind.trans earlier.kind
  names subject bound := later.names subject (earlier.names subject bound)
  immutables name value found := later.immutables name value (earlier.immutables name value found)

/-- A variable may be set if it is mutable or not there yet. -/
theorem of_set
    {scope : Scope} {subject : Variable} (value : Literal)
    (free : subject.mutable = true ∨ scope.binds subject = false) :
    (scope.set subject value).Continues scope := by
  refine ⟨scope.kind_set subject value, ?_, ?_⟩
  · intro other bound
    rw [Scope.binds_set, bound, Bool.or_true]
  · intro name other found
    have different : (⟨false, name⟩ : Variable) ≠ subject := by
      rintro rfl
      rcases free with isMutable | unbound
      · cases isMutable
      · rw [Scope.binds, found] at unbound
        cases unbound
    rw [Scope.get?_set_of_ne scope value different]
    exact found

end Scope.Continues

namespace Environment

variable {environment after : Environment}

/-- If one scope is replaced by one that continues it, the outermost scope is continued. -/
theorem outermost_of_replaced
    {inner outer : List Scope} {scope replaced : Scope}
    (split : environment.scopes = inner ++ scope :: outer)
    (shape : after.scopes = inner ++ replaced :: outer) (continues : replaced.Continues scope) :
    after.outermost.Continues environment.outermost := by
  cases outer with
  | nil =>
      have isLast : environment.outermost = scope :=
        outermost_of_getLast? (by rw [split, List.getLast?_concat])
      have isLastAfter : after.outermost = replaced :=
        outermost_of_getLast? (by rw [shape, List.getLast?_concat])
      rw [isLast, isLastAfter]
      exact continues
  | cons next outer =>
      have sameOutermost : after.outermost = environment.outermost := by
        apply outermost_of_getLast?
        rw [← getLast?_scopes, shape, split, List.getLast?_append_cons, List.getLast?_append_cons,
          List.getLast?_cons_cons, List.getLast?_cons_cons]
      rw [sameOutermost]
      exact .refl environment.outermost

theorem outermost_popScope (environment : Environment) :
    environment.popScope.outermost = environment.outermost := by
  unfold popScope
  split
  · rfl
  · next scope outer isOuter =>
      have shape : environment.scopes = environment.current :: scope :: outer := by
        rw [scopes, isOuter]
      apply outermost_of_getLast?
      rw [← getLast?_scopes, shape, List.getLast?_cons_cons]
      rfl

theorem outermost_settle
    {result : Except RuntimeCause Environment}
    (changes : ∀ after, result = .ok after → after.outermost.Continues environment.outermost) :
    (environment.settle result).2.outermost.Continues environment.outermost :=
  settle_keeps (fun after => after.outermost.Continues environment.outermost) changes
    (.refl environment.outermost)

/-- Whatever is requested, the outermost scope stays. -/
theorem outermost_serve (environment : Environment) (request : Request) :
    (environment.serve request).2.outermost.Continues environment.outermost := by
  cases request with
  | lookup | routine | topContext | popContext => exact .refl environment.outermost
  | pushScope kind =>
      apply Scope.Continues.of_eq
      apply outermost_of_getLast?
      rw [← getLast?_scopes]
      exact List.getLast?_cons_cons
  | popScope => exact .of_eq environment.outermost_popScope
  | define subject value =>
      apply outermost_settle
      intro after defined
      obtain ⟨unbound, shape⟩ := define_eq_ok defined
      have replaced :
          after.scopes = [] ++ environment.current.set subject value :: environment.outer :=
        congrArg scopes shape
      exact outermost_of_replaced rfl replaced (.of_set value (.inr unbound))
  | assign name value =>
      apply outermost_settle
      intro after assigned
      obtain ⟨_, _, inner, scope, outer, split, _, _, shape⟩ := assign_eq_ok assigned
      exact outermost_of_replaced split shape (.of_set value (.inl rfl))
  | declareRoutine routine =>
      apply outermost_settle
      intro after declared
      obtain ⟨_, shape⟩ := declareRoutine_eq_ok declared
      apply Scope.Continues.of_eq
      rw [shape]
      rfl
  | pushContext context =>
      apply outermost_settle
      intro after pushed
      obtain ⟨_, _, _, shape⟩ := pushContext_eq_ok pushed
      apply Scope.Continues.of_eq
      rw [shape]
      rfl

theorem outermost_serveAll (environment : Environment) (requests : List Request) :
    (environment.serveAll requests).outermost.Continues environment.outermost := by
  induction requests generalizing environment with
  | nil => exact .refl environment.outermost
  | cons request requests inductionHypothesis =>
      exact (inductionHypothesis _).trans (environment.outermost_serve request)

/-! ## Lookups after a change -/

/-- A lookup depends on the arguments of the innermost call and on the values in the scopes. -/
theorem lookup_eq_of_values
    {subject : Variable} (contexts : after.contexts = environment.contexts)
    (values : after.scopes.map (fun scope => scope.get? subject) =
      environment.scopes.map fun scope => scope.get? subject) :
    after.lookup subject = environment.lookup subject := by
  have sameArgument : after.argument? subject = environment.argument? subject := by
    rw [argument?, argument?, topContext?, topContext?, contexts]
  have sameNearest :
      (after.scopes.findSome? fun scope => scope.get? subject) =
        environment.scopes.findSome? fun scope => scope.get? subject := by
    have sameFirst := congrArg (List.findSome? id) values
    rw [List.findSome?_map, List.findSome?_map] at sameFirst
    exact sameFirst
  rw [lookup, lookup, sameArgument, sameNearest]

/-- If no argument is in front of it, the value in the nearest scope is found. -/
theorem lookup_of_nearest
    {subject : Variable} {value : Literal} {inner outer : List Scope} {scope : Scope}
    (noArgument : environment.argument? subject = none)
    (split : environment.scopes = inner ++ scope :: outer)
    (nearer : ∀ candidate ∈ inner, candidate.get? subject = none)
    (here : scope.get? subject = some value) : environment.lookup subject = .ok value := by
  have nearest :
      (environment.scopes.findSome? fun scope => scope.get? subject) = some value :=
    List.findSome?_eq_some_iff.mpr ⟨inner, scope, outer, split, here, nearer⟩
  rw [lookup, noArgument, nearest]

theorem lookup_of_define
    {subject : Variable} {value : Literal} (defined : environment.define subject value = .ok after)
    (noArgument : environment.argument? subject = none) : after.lookup subject = .ok value := by
  obtain ⟨_, shape⟩ := define_eq_ok defined
  have stillNoArgument : after.argument? subject = none := by
    rw [shape]
    exact noArgument
  have split : after.scopes = [] ++ environment.current.set subject value :: environment.outer :=
    congrArg scopes shape
  exact lookup_of_nearest stillNoArgument split (List.forall_mem_nil _)
    (environment.current.get?_set_self subject value)

theorem lookup_of_define_of_ne
    {subject other : Variable} {value : Literal}
    (defined : environment.define subject value = .ok after) (different : other ≠ subject) :
    after.lookup other = environment.lookup other := by
  obtain ⟨_, shape⟩ := define_eq_ok defined
  have sameContexts : after.contexts = environment.contexts := by rw [shape]
  apply lookup_eq_of_values sameContexts
  simp only [shape, scopes, List.map_cons, Scope.get?_set_of_ne environment.current value different]

/-- The value of a variable in the scope at a place, counted from the innermost one. -/
def valueAt? (environment : Environment) (place : Nat) (subject : Variable) : Option Literal :=
  environment.scopes[place]?.bind fun scope => scope.get? subject

/-- Where a lookup of a mutable variable finds its value. -/
structure FoundAt (environment : Environment) (name : String) (place : Nat) (value : Literal) :
    Prop where
  found : environment.lookup ⟨true, name⟩ = .ok value
  here : environment.valueAt? place ⟨true, name⟩ = some value
  nearer : ∀ inner < place, environment.valueAt? inner ⟨true, name⟩ = none

theorem valueAt?_eq_none
    {inner outer : List Scope} {subject : Variable} (split : environment.scopes = inner ++ outer)
    (absent : ∀ candidate ∈ inner, candidate.get? subject = none)
    {place : Nat} (near : place < inner.length) : environment.valueAt? place subject = none := by
  rw [valueAt?, split, List.getElem?_append_left near, List.getElem?_eq_getElem near]
  exact absent inner[place] (List.getElem_mem near)

theorem valueAt?_length
    {inner outer : List Scope} {scope : Scope} (split : environment.scopes = inner ++ scope :: outer)
    (subject : Variable) : environment.valueAt? inner.length subject = scope.get? subject := by
  rw [valueAt?, split, List.getElem?_append_right (Nat.le_refl _), Nat.sub_self]
  rfl

theorem valueAt?_of_ne_length
    {inner outer : List Scope} {scope replaced : Scope}
    (split : environment.scopes = inner ++ scope :: outer)
    (shape : after.scopes = inner ++ replaced :: outer) {place : Nat}
    (elsewhere : place ≠ inner.length) (subject : Variable) :
    after.valueAt? place subject = environment.valueAt? place subject := by
  rw [valueAt?, valueAt?, split, shape]
  by_cases near : place < inner.length
  · rw [List.getElem?_append_left near, List.getElem?_append_left near]
  · obtain ⟨beyond, rfl⟩ : ∃ beyond, place = inner.length + (beyond + 1) :=
      ⟨place - inner.length - 1, by omega⟩
    rw [List.getElem?_append_right (Nat.le_add_right _ _),
      List.getElem?_append_right (Nat.le_add_right _ _), Nat.add_sub_cancel_left,
      List.getElem?_cons_succ, List.getElem?_cons_succ]

/-- What an assignment leaves: the variable has the new value, in the place where its value was found
before, and there is no change other than that. -/
structure Assigns
    (environment after : Environment) (name : String) (value : Literal) : Prop where
  found : after.lookup ⟨true, name⟩ = .ok value
  others : ∀ other : Variable, other ≠ ⟨true, name⟩ → after.lookup other = environment.lookup other
  depth : after.scopes.length = environment.scopes.length
  place : ∃ place old, environment.FoundAt name place old ∧
    ∀ elsewhere subject, (elsewhere ≠ place ∨ subject ≠ ⟨true, name⟩) →
      after.valueAt? elsewhere subject = environment.valueAt? elsewhere subject

theorem assigns_of_assign
    {name : String} {value : Literal} (assigned : environment.assign name value = .ok after) :
    environment.Assigns after name value := by
  obtain ⟨_, contexts, inner, scope, outer, split, unbound, bound, shape⟩ := assign_eq_ok assigned
  have nearer : ∀ candidate ∈ inner, candidate.get? ⟨true, name⟩ = none := by
    intro candidate member
    have absent := unbound candidate member
    rwa [Scope.binds, Option.isSome_eq_false_iff, Option.isNone_iff_eq_none] at absent
  obtain ⟨old, here⟩ := Option.isSome_iff_exists.mp bound
  refine ⟨lookup_of_nearest rfl shape nearer (scope.get?_set_self _ value), ?_, ?_, ?_⟩
  · intro other different
    apply lookup_eq_of_values contexts
    simp only [split, shape, List.map_append, List.map_cons, scope.get?_set_of_ne value different]
  · simp only [split, shape, List.length_append, List.length_cons]
  · refine ⟨inner.length, old, ⟨lookup_of_nearest rfl split nearer here, ?_, ?_⟩, ?_⟩
    · rw [valueAt?_length split, here]
    · intro place near
      exact valueAt?_eq_none split nearer near
    · intro elsewhere subject different
      by_cases same : elsewhere = inner.length
      · have otherSubject : subject ≠ ⟨true, name⟩ :=
          different.resolve_left (fun elsewhereDifferent => elsewhereDifferent same)
        rw [same, valueAt?_length split, valueAt?_length shape,
          scope.get?_set_of_ne value otherSubject]
      · exact valueAt?_of_ne_length split shape same subject

/-! ## Blocks -/

/-- Definitions change the innermost scope alone. -/
theorem serveAll_definitions (environment : Environment) (definitions : List (Variable × Literal)) :
    ∃ current,
      environment.serveAll
          (definitions.map fun definition => .define definition.1 definition.2) =
        { environment with current := current } := by
  induction definitions generalizing environment with
  | nil => exact ⟨environment.current, rfl⟩
  | cons definition definitions inductionHypothesis =>
      obtain ⟨first, shape⟩ :
          ∃ first, (environment.serve (.define definition.1 definition.2)).2 =
            { environment with current := first } := by
        apply settle_keeps fun after => ∃ first, after = { environment with current := first }
        · intro after defined
          exact ⟨_, (define_eq_ok defined).2⟩
        · exact ⟨environment.current, rfl⟩
      obtain ⟨current, rest⟩ := inductionHypothesis { environment with current := first }
      refine ⟨current, ?_⟩
      rw [List.map_cons, serveAll, shape, rest]

/-- What is defined in a scope is gone when the scope is left. -/
theorem serveAll_block
    (environment : Environment) (kind : ScopeKind) (definitions : List (Variable × Literal)) :
    environment.serveAll (Request.block kind definitions) = environment := by
  obtain ⟨current, defined⟩ := (environment.pushScope kind).serveAll_definitions definitions
  rw [Request.block, List.cons_append, serveAll, serveAll_append]
  simp only [serve]
  rw [defined]
  rfl

/-! ## Laws -/

/-- The laws of an environment. -/
structure Lawful (environment : Environment) : Prop where
  hasScope : 1 ≤ environment.scopes.length
  /-- A scope with no scope around it is not left. -/
  staysOpen : environment.scopes.length = 1 → environment.popScope = environment
  fewCalls : environment.contexts.size ≤ 20
  refused : ∀ request cause,
    (environment.serve request).1 = .error cause → (environment.serve request).2 = environment
  /-- A variable may be defined if the scope does not have it and, other than in the outermost scope, no
  argument of the call has its name. -/
  definable : ∀ subject value, (∃ after, environment.define subject value = .ok after) ↔
    environment.current.binds subject = false ∧
      (environment.outer = [] ∨ environment.argument? subject = none)
  /-- A definition is found, unless an argument is in front of it, and hides no other variable. -/
  defined : ∀ subject value after, environment.define subject value = .ok after →
    (subject.mutable = true ∨
      ∀ context ∈ environment.topContext?, context.binds subject.name = false) →
    after.lookup subject = .ok value ∧
      ∀ other, other ≠ subject → after.lookup other = environment.lookup other
  /-- A variable may be assigned if it is found. -/
  assignable : ∀ name value, (∃ after, environment.assign name value = .ok after) ↔
    ∃ old, environment.lookup ⟨true, name⟩ = .ok old
  assigned : ∀ name value after, environment.assign name value = .ok after →
    environment.Assigns after name value
  block : ∀ kind definitions,
    environment.serveAll (Request.block kind definitions) = environment

theorem exists_define_iff (environment : Environment) (subject : Variable) (value : Literal) :
    (∃ after, environment.define subject value = .ok after) ↔
      environment.current.binds subject = false ∧
        (environment.outer = [] ∨ environment.argument? subject = none) := by
  have hidden :
      (!environment.inGlobal && (environment.argument? subject).isSome) = false ↔
        environment.outer = [] ∨ environment.argument? subject = none := by
    rw [Bool.and_eq_false_iff, Bool.not_eq_false', inGlobal, List.isEmpty_iff,
      Option.isSome_eq_false_iff, Option.isNone_iff_eq_none]
  rw [← hidden, define]
  cases (!environment.inGlobal && (environment.argument? subject).isSome) with
  | true => simp
  | false => cases environment.current.binds subject <;> simp

theorem exists_assign_iff (environment : Environment) (name : String) (value : Literal) :
    (∃ after, environment.assign name value = .ok after) ↔
      ∃ old, environment.lookup ⟨true, name⟩ = .ok old := by
  constructor
  · rintro ⟨after, assigned⟩
    obtain ⟨_, old, foundAt, _⟩ := (assigns_of_assign assigned).place
    exact ⟨old, foundAt.found⟩
  · rintro ⟨old, found⟩
    obtain ⟨scope, member, bound⟩ := bound_of_lookup found
    exact assign_of_bound member bound value

theorem argument?_eq_none
    {subject : Variable}
    (free : subject.mutable = true ∨
      ∀ context ∈ environment.topContext?, context.binds subject.name = false) :
    environment.argument? subject = none := by
  unfold argument?
  rcases free with isMutable | unbound
  · rw [if_pos isMutable]
  · split
    · rfl
    · rw [Option.bind_eq_none_iff]
      intro context isTop
      have absent := unbound context isTop
      rwa [Bindings.binds, Option.isSome_eq_false_iff, Option.isNone_iff_eq_none] at absent

theorem lawful (environment : Environment) : environment.Lawful where
  hasScope := Nat.succ_le_succ (Nat.zero_le _)
  staysOpen oneScope := by
    have noOuter : environment.outer = [] := List.eq_nil_of_length_eq_zero (Nat.succ.inj oneScope)
    rw [popScope, noOuter]
  fewCalls := environment.contexts.bounded
  refused _ _ := serve_of_error
  definable := environment.exists_define_iff
  defined _ _ _ accepted free :=
    ⟨lookup_of_define accepted (argument?_eq_none free), fun _ => lookup_of_define_of_ne accepted⟩
  assignable := environment.exists_assign_iff
  assigned _ _ _ := assigns_of_assign
  block := environment.serveAll_block

end Environment

/-- Whatever has been requested of a new environment, the laws hold, and the outermost scope is still
the one that it was after any earlier request. -/
theorem environment_laws_after_requests (earlier later : List Request) :
    let before := Environment.initial.serveAll earlier
    let now := Environment.initial.serveAll (earlier ++ later)
    now.Lawful ∧ now.outermost.kind = .global ∧ now.outermost.Continues before.outermost := by
  intro before now
  have continued : now.outermost.Continues before.outermost := by
    have shape : now = before.serveAll later := Environment.initial.serveAll_append earlier later
    rw [shape]
    exact before.outermost_serveAll later
  have isGlobal : now.outermost.kind = .global :=
    (Environment.initial.outermost_serveAll (earlier ++ later)).kind
  exact ⟨now.lawful, isGlobal, continued⟩

theorem environment_laws_in_body_of_call :
    let now := Environment.initial.serveAll
      ([.define ⟨true, "n"⟩ (.string "old")] ++
        [.pushScope .routineBody, .pushContext ⟨[("a", .string "given")]⟩])
    ∃ defined assigned,
      now.define ⟨false, "b"⟩ (.string "local") = .ok defined ∧
      defined.lookup ⟨false, "b"⟩ = .ok (.string "local") ∧
      now.assign "n" (.string "new") = .ok assigned ∧
      now.Assigns assigned "n" (.string "new") := by
  intro now
  obtain ⟨laws, _, _⟩ :=
    environment_laws_after_requests [.define ⟨true, "n"⟩ (.string "old")]
      [.pushScope .routineBody, .pushContext ⟨[("a", .string "given")]⟩]
  refine ⟨_, _, rfl, (laws.defined ⟨false, "b"⟩ (.string "local") _ rfl (.inr ?_)).1, rfl,
    laws.assigned "n" (.string "new") _ rfl⟩
  intro context isTop
  cases isTop
  rfl

end Zoop
