import Zoop.Proofs.Evaluation.History

/-!
# What is bound for good

An immutable name keeps its value as long as its scope is open, the arguments of a call stay what they
are as long as the call is active, and a label stands for one zoop from its declaration on.  Scopes and
calls are counted from the outermost one, so that those that are opened later do not move them.
-/

namespace Zoop

open Evaluation

/-! ## Places in the stacks -/

namespace Environment

/-- The open scope that has a given number of scopes around it. -/
def scopeAt? (environment : Environment) (height : Nat) : Option Scope :=
  environment.scopes.reverse[height]?

/-- The arguments of the active call that has a given number of calls around it. -/
def contextAt? (environment : Environment) (height : Nat) : Option Context :=
  environment.contexts.items.reverse[height]?

end Environment

/-- A stack from its outermost item on is not moved by an item that comes on top. -/
theorem getElem?_reverse_cons_of_some
    {α : Type} {item found : α} {items : List α} {height : Nat}
    (there : items.reverse[height]? = some found) :
    (item :: items).reverse[height]? = some found := by
  obtain ⟨inside, _⟩ := List.getElem?_eq_some_iff.mp there
  rw [List.reverse_cons, List.getElem?_append_left inside]
  exact there

/-- Nor is it by the loss of the item on top, unless that is the item itself. -/
theorem getElem?_reverse_of_cons
    {α : Type} {item found : α} {items : List α} {height : Nat}
    (there : (item :: items).reverse[height]? = some found)
    (remains : items.reverse[height]?.isSome = true) :
    items.reverse[height]? = some found := by
  obtain ⟨inside, _⟩ := List.getElem?_eq_some_iff.mp (Option.eq_some_of_isSome remains)
  rw [List.reverse_cons, List.getElem?_append_left inside] at there
  exact there

/-- An item that is replaced leaves all others where they are. -/
theorem getElem?_reverse_of_replaced
    {α : Type} {item found : α} {inner outer : List α} {height : Nat} (replaced : α)
    (there : (inner ++ item :: outer).reverse[height]? = some found) :
    (inner ++ replaced :: outer).reverse[height]? = some found ∨
      found = item ∧ (inner ++ replaced :: outer).reverse[height]? = some replaced := by
  simp only [List.reverse_append, List.reverse_cons, List.append_assoc, List.singleton_append]
    at there ⊢
  rcases Nat.lt_trichotomy height outer.reverse.length with below | here | above
  · rw [List.getElem?_append_left below] at there ⊢
    exact .inl there
  · subst here
    rw [List.getElem?_append_right (Nat.le_refl _), Nat.sub_self] at there ⊢
    exact .inr ⟨(Option.some.inj there).symm, rfl⟩
  · obtain ⟨distance, apart⟩ := Nat.exists_eq_add_of_lt above
    rw [List.getElem?_append_right (Nat.le_of_lt above)] at there ⊢
    have inward : height - outer.reverse.length = distance + 1 := by omega
    rw [inward, List.getElem?_cons_succ] at there ⊢
    exact .inl there

/-! ## Scopes -/

/-- A scope has all immutable names of an earlier one, with the same values. -/
def Scope.Extends (later earlier : Scope) : Prop :=
  ∀ name value, earlier.immutables.get? name = some value →
    later.immutables.get? name = some value

namespace Scope.Extends

theorem refl (scope : Scope) : scope.Extends scope :=
  fun _ _ bound => bound

theorem trans
    {first second third : Scope} (later : third.Extends second) (earlier : second.Extends first) :
    third.Extends first :=
  fun name value bound => later name value (earlier name value bound)

/-- A new value for a mutable variable touches no immutable one. -/
theorem of_mutable (scope : Scope) (name : String) (value : Literal) :
    (scope.set ⟨true, name⟩ value).Extends scope :=
  fun _ _ bound => bound

/-- A variable that a scope does not have yet touches none that it has. -/
theorem of_unbound
    {scope : Scope} {subject : Variable} (value : Literal) (unbound : scope.binds subject = false) :
    (scope.set subject value).Extends scope := by
  intro name other bound
  have different : (⟨false, name⟩ : Variable) ≠ subject := by
    rintro rfl
    have there : scope.get? ⟨false, name⟩ = some other := bound
    rw [Scope.binds, there] at unbound
    cases unbound
  exact (scope.get?_set_of_ne value different).trans bound

end Scope.Extends

/-! ## One change -/

namespace Change

/-- A scope that is open before a change and after it keeps its immutable names. -/
theorem scopeAt?_of_apply
    {before after : Environment} {change : Change} {height : Nat} {scope : Scope}
    (applied : change.apply before = .ok after) (there : before.scopeAt? height = some scope)
    (remains : (after.scopeAt? height).isSome = true) :
    ∃ same, after.scopeAt? height = some same ∧ same.Extends scope := by
  unfold Environment.scopeAt? at there remains ⊢
  cases change with
  | opened kind =>
      cases applied
      exact ⟨scope, getElem?_reverse_cons_of_some there, .refl scope⟩
  | closed =>
      cases applied
      unfold Environment.popScope at remains ⊢
      split at remains
      · exact ⟨scope, there, .refl scope⟩
      · next outermost outer isOuter =>
          rw [Environment.scopes, isOuter] at there
          exact ⟨scope, getElem?_reverse_of_cons there remains, .refl scope⟩
  | defined subject type value =>
      obtain ⟨unbound, shape⟩ := Environment.define_eq_ok applied
      subst shape
      have current : ([] ++ before.current :: before.outer).reverse[height]? = some scope := there
      rcases getElem?_reverse_of_replaced (before.current.set subject value) current with
        same | ⟨isCurrent, replaced⟩
      · exact ⟨scope, same, .refl scope⟩
      · subst isCurrent
        exact ⟨_, replaced, .of_unbound value unbound⟩
  | assigned name type value =>
      obtain ⟨_, _, inner, target, outer, split, _, _, shape⟩ := Environment.assign_eq_ok applied
      rw [split] at there
      rw [shape]
      rcases getElem?_reverse_of_replaced (target.set ⟨true, name⟩ value) there with
        same | ⟨isTarget, replaced⟩
      · exact ⟨scope, same, .refl scope⟩
      · subst isTarget
        exact ⟨_, replaced, .of_mutable scope name value⟩
  | declared routine =>
      obtain ⟨_, shape⟩ := Environment.declareRoutine_eq_ok applied
      subst shape
      exact ⟨scope, there, .refl scope⟩
  | entered context =>
      obtain ⟨_, _, _, shape⟩ := Environment.pushContext_eq_ok applied
      subst shape
      exact ⟨scope, there, .refl scope⟩
  | left =>
      cases applied
      exact ⟨scope, there, .refl scope⟩

/-- A call that is active before a change and after it keeps its arguments. -/
theorem contextAt?_of_apply
    {before after : Environment} {change : Change} {height : Nat} {context : Context}
    (applied : change.apply before = .ok after) (there : before.contextAt? height = some context)
    (remains : (after.contextAt? height).isSome = true) :
    after.contextAt? height = some context := by
  unfold Environment.contextAt? at there remains ⊢
  cases change with
  | opened kind =>
      cases applied
      exact there
  | closed =>
      cases applied
      unfold Environment.popScope
      split <;> exact there
  | defined subject type value =>
      obtain ⟨_, shape⟩ := Environment.define_eq_ok applied
      subst shape
      exact there
  | assigned name type value =>
      rw [(Environment.assign_eq_ok applied).2.1]
      exact there
  | declared routine =>
      obtain ⟨_, shape⟩ := Environment.declareRoutine_eq_ok applied
      subst shape
      exact there
  | entered entered =>
      obtain ⟨_, _, items, shape⟩ := Environment.pushContext_eq_ok applied
      subst shape
      rw [items]
      exact getElem?_reverse_cons_of_some there
  | left =>
      cases applied
      cases itemsAre : before.contexts.items with
      | nil =>
          rw [itemsAre] at there
          cases there
      | cons innermost items =>
          have popped : before.popContext.contexts.items = items := by
            simp only [Environment.popContext, BoundedStack.pop, itemsAre, List.tail_cons]
          rw [popped] at remains ⊢
          rw [itemsAre] at there
          exact getElem?_reverse_of_cons there remains

/-- A label that is declared before a change stands for the same zoop after it. -/
theorem findRoutine?_of_apply
    {before after : Environment} {change : Change} {label : String} {routine : Routine}
    (applied : change.apply before = .ok after)
    (found : before.findRoutine? label = some routine) :
    after.findRoutine? label = some routine := by
  cases change with
  | opened kind =>
      cases applied
      exact found
  | closed =>
      cases applied
      unfold Environment.popScope
      split <;> exact found
  | defined subject type value =>
      obtain ⟨_, shape⟩ := Environment.define_eq_ok applied
      subst shape
      exact found
  | assigned name type value =>
      have sameRoutines := (Environment.assign_eq_ok applied).1
      rw [Environment.findRoutine?, sameRoutines]
      exact found
  | declared declared =>
      obtain ⟨absent, shape⟩ := Environment.declareRoutine_eq_ok applied
      subst shape
      have different : declared.label ≠ label := by
        intro same
        rw [same, found] at absent
        cases absent
      rw [Environment.findRoutine?_cons, if_neg different]
      exact found
  | entered context =>
      obtain ⟨_, _, _, shape⟩ := Environment.pushContext_eq_ok applied
      subst shape
      exact found
  | left =>
      cases applied
      exact found

end Change

/-! ## The points of a history -/

/-- What each change keeps as long as something remains is kept along a history in which it
remains. -/
theorem Reaches.keeps
    {start environment last : Environment} {later earlier : List (Change × Environment)}
    {change : Change} (Remains Holds : Environment → Prop)
    (step : ∀ {before after : Environment} {change : Change},
      change.apply before = .ok after → Remains after → Holds before → Holds after)
    (reaches : Reaches start (later ++ (change, environment) :: earlier) last)
    (remains : ∀ point ∈ later, Remains point.2) (holds : Holds environment) :
    Holds last ∧ ∀ point ∈ later, Holds point.2 := by
  induction later generalizing last with
  | nil =>
      cases reaches with
      | step reached fits applied => exact ⟨holds, List.forall_mem_nil _⟩
  | cons point later inductionHypothesis =>
      obtain ⟨pointRemains, laterRemain⟩ := List.forall_mem_cons.mp remains
      cases reaches with
      | step reached fits applied =>
          obtain ⟨beforeHolds, laterHold⟩ := inductionHypothesis reached laterRemain
          have lastHolds := step applied pointRemains beforeHolds
          exact ⟨lastHolds, List.forall_mem_cons.mpr ⟨lastHolds, laterHold⟩⟩

/-- The points up to any point of a history are themselves a history. -/
theorem Reaches.of_suffix
    {start last : Environment} {history part : List (Change × Environment)}
    (reaches : Reaches start history last) (isPart : part <:+ history) :
    ∃ environment, Reaches start part environment := by
  induction reaches with
  | start =>
      rw [List.suffix_nil.mp isPart]
      exact ⟨start, .start⟩
  | step reached fits applied inductionHypothesis =>
      rcases List.suffix_cons_iff.mp isPart with rfl | earlier
      · exact ⟨_, .step reached fits applied⟩
      · exact inductionHypothesis earlier

/-- What the points after an environment leave as it is there: in each scope that stays open all
immutable names, in each call that stays active all arguments, and all zoops. -/
structure Environment.StaysIn
    (environment : Environment) (later : List (Change × Environment)) : Prop where
  immutables : ∀ height scope,
    environment.scopeAt? height = some scope →
    (∀ point ∈ later, (point.2.scopeAt? height).isSome = true) →
    ∀ point ∈ later, ∃ same, point.2.scopeAt? height = some same ∧ same.Extends scope
  arguments : ∀ height context,
    environment.contextAt? height = some context →
    (∀ point ∈ later, (point.2.contextAt? height).isSome = true) →
    ∀ point ∈ later, point.2.contextAt? height = some context
  zoops : ∀ label routine,
    environment.findRoutine? label = some routine →
    ∀ point ∈ later, point.2.findRoutine? label = some routine

theorem Reaches.staysIn
    {start environment last : Environment} {later earlier : List (Change × Environment)}
    {change : Change}
    (reaches : Reaches start (later ++ (change, environment) :: earlier) last) :
    environment.StaysIn later where
  immutables height scope there remains := by
    refine (reaches.keeps (fun point => (point.scopeAt? height).isSome = true)
      (fun point => ∃ same, point.scopeAt? height = some same ∧ same.Extends scope)
      ?_ remains ⟨scope, there, .refl scope⟩).2
    rintro before after change applied stillOpen ⟨same, found, wider⟩
    obtain ⟨next, foundNext, widerNext⟩ := Change.scopeAt?_of_apply applied found stillOpen
    exact ⟨next, foundNext, widerNext.trans wider⟩
  arguments height context there remains := by
    refine (reaches.keeps (fun point => (point.contextAt? height).isSome = true)
      (fun point => point.contextAt? height = some context) ?_ remains there).2
    intro before after change applied stillActive found
    exact Change.contextAt?_of_apply applied found stillActive
  zoops label routine found := by
    refine (reaches.keeps (fun _ => True) (fun point => point.findRoutine? label = some routine)
      ?_ (fun _ _ => trivial) found).2
    intro before after change applied _ declared
    exact Change.findRoutine?_of_apply applied declared

/-! ## Runs -/

/-- A label that is taken cannot be declared again, and the attempt changes nothing. -/
theorem execute_routine_of_declared
    {κ : Type} [Console κ] {runBody : BodyRunner κ} {fuel : Nat} {machine : Machine κ}
    {position : Position} {label : String} {parameters : List Parameter}
    {returnType : Option DataType} {body : List Statement} {known : Routine}
    (declared : machine.environment.findRoutine? label = some known) :
    execute runBody fuel (.routine position label parameters returnType body) machine =
      (.error ⟨.routineRedeclared label, position⟩, machine) := by
  have refused :
      machine.environment.declareRoutine ⟨label, parameters, returnType, body⟩ =
        .error (.routineRedeclared label) := by
    simp only [Environment.declareRoutine, declared]
  simp only [execute]
  apply Run.bind_of_error
  simp only [Run.perform, Change.apply, refused]

/-- Recording a session makes no difference to it, and a recorded session is made of changes that lead
from each environment to the next.  From each of its points on, immutable names keep their values while
their scope is open, arguments stay while their call is active, and labels stand for the same zoops.  The
declaration of a label that is taken fails and changes nothing. -/
theorem immutables_arguments_and_zoops_stay {κ : Type} [Console κ] (fuel : Nat) :
    (∀ (programs : List Program) (console : κ),
      let recorded := Program.runInTurn fuel programs (Machine.start (Recorder.fresh console))
      recorded.unrecorded = Program.runInTurn fuel programs (Machine.start console) ∧
      Reaches .initial recorded.console.history recorded.environment ∧
      ∀ (later earlier : List (Change × Environment)) (change : Change) (environment : Environment),
        later ++ (change, environment) :: earlier <:+ recorded.console.history →
        environment.StaysIn later) ∧
    ∀ (machine : Machine κ) (position : Position) (label : String) (parameters : List Parameter)
      (returnType : Option DataType) (body : List Statement) (known : Routine),
      machine.environment.findRoutine? label = some known →
      execute (bodyRunner fuel) fuel (.routine position label parameters returnType body) machine =
        (.error ⟨.routineRedeclared label, position⟩, machine) := by
  constructor
  · intro programs console recorded
    have reached := Program.runInTurn_reached fuel programs console
    refine ⟨Program.runInTurn_unrecorded fuel programs _, reached, ?_⟩
    intro later earlier change environment isPart
    obtain ⟨last, reaches⟩ := Reaches.of_suffix reached isPart
    exact reaches.staysIn
  · intro machine position label parameters returnType body known declared
    exact execute_routine_of_declared declared

/-- A program with an immutable name and a zoop whose body declares a variable, and a call of it. -/
def lastingProgram : Program :=
  ⟨[.expression .start
      (.declare .start ⟨false, "x"⟩ .int (.literal .start ⟨.int, .number .zero⟩)),
    .routine .start "f" [⟨"n", .bool⟩] none
      [.expression .start
        (.declare .start ⟨true, "y"⟩ .bool (.variable .start ⟨false, "n"⟩))],
    .expression .start (.call .start "f" [.literal .start (.boolean true)])]⟩

/-- In the call of the zoop its argument, the name outside and the zoop itself stay. -/
theorem lastingProgram_stays :
    ∃ (later earlier : List (Change × Environment)) (change : Change) (environment : Environment),
      later ++ (change, environment) :: earlier <:+
        (Program.runInTurn 1 [lastingProgram]
          (Machine.start (Recorder.fresh (BufferedConsole.ofInput [])))).console.history ∧
      later.length = 2 ∧
      environment.StaysIn later ∧
      environment.contextAt? 0 = some ⟨[("n", .boolean true)]⟩ ∧
      (∀ point ∈ later, point.2.contextAt? 0 = some ⟨[("n", .boolean true)]⟩) ∧
      (environment.findRoutine? "f").isSome = true ∧
      ∀ console : BufferedConsole,
        execute (bodyRunner 1) 1 (.routine .start "f" [] none []) ⟨environment, console⟩ =
          (.error ⟨.routineRedeclared "f", .start⟩, ⟨environment, console⟩) := by
  have lasting := immutables_arguments_and_zoops_stay (κ := BufferedConsole) 1
  have stays :=
    (lasting.1 [lastingProgram] (BufferedConsole.ofInput [])).2.2 [_, _] _ _ _ ⟨[_, _], rfl⟩
  refine ⟨_, _, _, _, ⟨[_, _], rfl⟩, rfl, stays, rfl, ?_, rfl, ?_⟩
  · apply stays.arguments 0 _ rfl
    simp only [List.forall_mem_cons]
    exact ⟨rfl, rfl, List.forall_mem_nil _⟩
  · intro console
    exact lasting.2 _ _ _ _ _ _ _ rfl

end Zoop
