import Zoop.Proofs.Evaluation.Contract

/-!
# Arguments in the order of scopes

Looking up a variable asks for an argument of the innermost call before any scope.  By the rules of the
language the arguments of a call belong to the scope of its body: the scopes inside it come first, and
the scopes around it come after.  The two agree because no scope of a call binds the name of one of its
arguments.
-/

namespace Zoop

open Evaluation

/-! ## Looking up by scopes -/

namespace Environment

/-- The value that a walk from the innermost scope outwards comes to.  An argument counts right after
the first scope that is the body of a zoop. -/
def walk? (subject : Variable) (argument : Option Literal) : List Scope → Option Literal
  | [] => none
  | scope :: outer =>
      match scope.get? subject with
      | some value => some value
      | none =>
          if scope.kind = .routineBody then
            match argument with
            | some value => some value
            | none => outer.findSome? fun scope => scope.get? subject
          else
            walk? subject argument outer

/-- The value of a variable by the order of scopes. -/
def lexicalLookup (environment : Environment) (subject : Variable) :
    Except RuntimeCause Literal :=
  match walk? subject (environment.argument? subject) environment.scopes with
  | some value => .ok value
  | none => .error (.undefinedVariable subject)

theorem walk?_none (subject : Variable) (scopes : List Scope) :
    walk? subject none scopes = scopes.findSome? fun scope => scope.get? subject := by
  induction scopes with
  | nil => rfl
  | cons scope outer inductionHypothesis =>
      rw [walk?, List.findSome?_cons]
      cases scope.get? subject with
      | some value => rfl
      | none =>
          dsimp only
          split
          · rfl
          · exact inductionHypothesis

end Environment

/-! ## Frames -/

/-- A scope binds none of the names of arguments. -/
def Scope.Avoids (scope : Scope) (context : Context) : Prop :=
  ∀ name, context.binds name = true → scope.binds ⟨false, name⟩ = false

/-- The scopes of an environment and the arguments of its calls, both innermost first.  Each body of a
zoop goes with the arguments of its call, and these are avoided by the body and by the blocks inside
it. -/
inductive Framed : List Scope → List Context → Prop where
  | global {scope : Scope} (isGlobal : scope.kind = .global) : Framed [scope] []
  | block {scope : Scope} {outer : List Scope} {contexts : List Context}
      (isBlock : scope.kind = .block)
      (avoids : ∀ context, contexts.head? = some context → scope.Avoids context)
      (around : Framed outer contexts) : Framed (scope :: outer) contexts
  | routineBody {scope : Scope} {outer : List Scope} {context : Context} {contexts : List Context}
      (isBody : scope.kind = .routineBody) (avoids : scope.Avoids context)
      (around : Framed outer contexts) : Framed (scope :: outer) (context :: contexts)

namespace Framed

variable {scopes : List Scope} {contexts : List Context}

/-- There are as many bodies of zoops as there are calls. -/
theorem count_routineBody (framed : Framed scopes contexts) :
    (scopes.filter fun scope => scope.kind == .routineBody).length = contexts.length := by
  induction framed with
  | global isGlobal => simp [isGlobal]
  | block isBlock _ _ inductionHypothesis => simp [isBlock, inductionHypothesis]
  | routineBody isBody _ _ inductionHypothesis => simp [isBody, inductionHypothesis]

/-- The walk comes to no value before it comes to the arguments that have the name. -/
theorem walk?_argument
    {subject : Variable} {context : Context} {value : Literal}
    (framed : Framed scopes contexts) (isTop : contexts.head? = some context)
    (immutable : subject.mutable = false) (bound : context.get? subject.name = some value) :
    Environment.walk? subject (some value) scopes = some value := by
  have binds : context.binds subject.name = true := by simp [Bindings.binds, bound]
  have absent : ∀ {scope : Scope}, scope.Avoids context → scope.get? subject = none := by
    intro scope avoids
    have unbound := avoids subject.name binds
    have same : (⟨false, subject.name⟩ : Variable) = subject := by rw [← immutable]
    rw [same, Scope.binds] at unbound
    simpa using unbound
  induction framed with
  | global _ => cases isTop
  -- the innermost body of a zoop is the one that goes with the innermost arguments
  | block isBlock avoids _ inductionHypothesis =>
      rw [Environment.walk?, absent (avoids context isTop)]
      simp only [isBlock, reduceCtorEq, if_false]
      exact inductionHypothesis isTop
  | routineBody isBody avoids _ _ =>
      cases isTop
      rw [Environment.walk?, absent avoids]
      simp only [isBody, if_true]

/-- Only the kinds of scopes and the names that they bind matter. -/
theorem congr
    {others : List Scope} (framed : Framed scopes contexts)
    (kinds : others.map Scope.kind = scopes.map Scope.kind)
    (names : others.map Scope.binds = scopes.map Scope.binds) : Framed others contexts := by
  induction framed generalizing others with
  | global isGlobal =>
      obtain ⟨other, rest, rfl, sameKind, sameRest⟩ := List.map_eq_cons_iff.mp kinds
      rw [List.map_nil, List.map_eq_nil_iff] at sameRest
      subst sameRest
      exact .global (sameKind.trans isGlobal)
  | block isBlock avoids _ inductionHypothesis =>
      obtain ⟨other, rest, rfl, sameKind, sameRest⟩ := List.map_eq_cons_iff.mp kinds
      simp only [List.map_cons, List.cons.injEq] at names
      refine .block (sameKind.trans isBlock) ?_ (inductionHypothesis sameRest names.2)
      intro context isTop name bound
      rw [names.1]
      exact avoids context isTop name bound
  | routineBody isBody avoids _ inductionHypothesis =>
      obtain ⟨other, rest, rfl, sameKind, sameRest⟩ := List.map_eq_cons_iff.mp kinds
      simp only [List.map_cons, List.cons.injEq] at names
      refine .routineBody (sameKind.trans isBody) ?_ (inductionHypothesis sameRest names.2)
      intro name bound
      rw [names.1]
      exact avoids name bound

/-- The innermost scope may bind a name that is not that of an argument. -/
theorem set
    {scope : Scope} {outer : List Scope} {subject : Variable} (value : Literal)
    (framed : Framed (scope :: outer) contexts)
    (free : ∀ context, contexts.head? = some context → subject.mutable = false →
      context.binds subject.name = false) :
    Framed (scope.set subject value :: outer) contexts := by
  -- arguments are immutable, so only an immutable variable can have the name of one
  have stillAvoids : ∀ context, contexts.head? = some context → scope.Avoids context →
      (scope.set subject value).Avoids context := by
    intro context isTop avoids name bound
    rw [Scope.binds_set, avoids name bound, Bool.or_false, decide_eq_false_iff_not]
    rintro rfl
    have unbound := free context isTop rfl
    rw [bound] at unbound
    cases unbound
  cases framed with
  | global isGlobal => exact .global (by rw [Scope.kind_set, isGlobal])
  | block isBlock avoids around =>
      exact .block (by rw [Scope.kind_set, isBlock])
        (fun context isTop => stillAvoids context isTop (avoids context isTop)) around
  | routineBody isBody avoids around =>
      exact .routineBody (by rw [Scope.kind_set, isBody]) (stillAvoids _ rfl avoids) around

/-- The outermost scope alone is that of the program, and no call is active in it. -/
theorem of_single {scope : Scope} (framed : Framed [scope] contexts) : contexts = [] := by
  cases framed with
  | global _ => rfl
  | block _ _ around => cases around
  | routineBody _ _ around => cases around

theorem leaveBlock
    {scope : Scope} {outer : List Scope} (framed : Framed (scope :: outer) contexts)
    (isBlock : scope.kind = .block) : Framed outer contexts := by
  cases framed with
  | global isGlobal => cases isBlock.symm.trans isGlobal
  | block _ _ around => exact around
  | routineBody isBody _ _ => cases isBlock.symm.trans isBody

theorem leaveCall
    {scope : Scope} {outer : List Scope} (framed : Framed (scope :: outer) contexts)
    (isBody : scope.kind = .routineBody) : Framed outer contexts.tail := by
  cases framed with
  | global isGlobal => cases isBody.symm.trans isGlobal
  | block isBlock _ _ => cases isBody.symm.trans isBlock
  | routineBody _ _ around => exact around

end Framed

/-! ## Environments -/

namespace Environment

/-- The scopes of the environment and the arguments of its calls go together. -/
def IsFramed (environment : Environment) : Prop :=
  Framed environment.scopes environment.contexts.items

variable {environment after : Environment}

theorem IsFramed.noCall (framed : environment.IsFramed) (inGlobal : environment.inGlobal = true) :
    environment.contexts.items = [] := by
  have noOuter : environment.outer = [] := by simpa [Environment.inGlobal] using inGlobal
  unfold IsFramed scopes at framed
  rw [noOuter] at framed
  exact framed.of_single

theorem IsFramed.lookup_eq_lexicalLookup (framed : environment.IsFramed) (subject : Variable) :
    environment.lookup subject = environment.lexicalLookup subject := by
  unfold lookup lexicalLookup
  cases isArgument : environment.argument? subject with
  | none =>
      have sameWalk := walk?_none subject environment.scopes
      exact sameWalk ▸ rfl
  | some value =>
      unfold argument? at isArgument
      split at isArgument
      · cases isArgument
      · next immutable =>
          obtain ⟨context, isTop, bound⟩ := Option.bind_eq_some_iff.mp isArgument
          rw [framed.walk?_argument isTop (by simpa using immutable) bound]

/-- A variable that is declared inside of a call has not the name of an argument. -/
theorem argument?_of_define
    {subject : Variable} {value : Literal} (defined : environment.define subject value = .ok after) :
    environment.inGlobal = true ∨ environment.argument? subject = none := by
  unfold Environment.define at defined
  split at defined
  · cases defined
  · next allowed =>
      cases inGlobal : environment.inGlobal with
      | true => exact .inl rfl
      | false =>
          rw [inGlobal] at allowed
          exact .inr (by simpa using allowed)

theorem IsFramed.define
    {subject : Variable} {value : Literal} (framed : environment.IsFramed)
    (defined : environment.define subject value = .ok after) : after.IsFramed := by
  have shape := (define_eq_ok defined).2
  subst shape
  apply Framed.set value framed
  intro context isTop immutable
  rcases argument?_of_define defined with inGlobal | noArgument
  · rw [framed.noCall inGlobal] at isTop
    cases isTop
  · have isTopContext : environment.topContext? = some context := isTop
    simpa [argument?, immutable, isTopContext, Bindings.binds] using noArgument

theorem IsFramed.assign
    {name : String} {value : Literal} (framed : environment.IsFramed)
    (assigned : environment.assign name value = .ok after) : after.IsFramed := by
  have disciplined := Disciplined.of_assign assigned
  unfold IsFramed
  rw [disciplined.contexts]
  exact framed.congr disciplined.kinds (names_of_assign assigned)

theorem IsFramed.block (framed : environment.IsFramed) :
    (environment.pushScope .block).IsFramed := by
  refine Framed.block rfl ?_ framed
  intro context _ name _
  rfl

theorem IsFramed.call
    {context : Context} {entered : Environment} (framed : environment.IsFramed)
    (push : environment.pushContext context = .ok entered) :
    (entered.pushScope .routineBody).IsFramed := by
  obtain ⟨contexts, _, items, rfl⟩ := pushContext_eq_ok push
  unfold IsFramed
  change Framed _ contexts.items
  rw [items]
  refine Framed.routineBody rfl ?_ framed
  intro name _
  rfl

/-- After a run inside a new scope that scope is the innermost one, and it is left for those around
it. -/
theorem Disciplined.scopes_of_scope
    {kind : ScopeKind} (disciplined : (environment.pushScope kind).Disciplined after) :
    after.current.kind = kind ∧ after.popScope.scopes = after.outer := by
  have kinds := disciplined.kinds
  obtain ⟨current, outer, routines, contexts⟩ := after
  cases outer with
  | nil => simp [scopes, pushScope] at kinds
  | cons scope outer =>
      simp only [scopes, pushScope, List.map_cons, List.cons.injEq] at kinds
      exact ⟨kinds.1, rfl⟩

theorem contexts_popScope (environment : Environment) :
    environment.popScope.contexts = environment.contexts := by
  unfold popScope
  split <;> rfl

theorem IsFramed.leaveBlock
    (framed : after.IsFramed) (disciplined : (environment.pushScope .block).Disciplined after) :
    after.popScope.IsFramed := by
  obtain ⟨isBlock, sameScopes⟩ := disciplined.scopes_of_scope
  unfold IsFramed
  rw [sameScopes, contexts_popScope]
  exact Framed.leaveBlock framed isBlock

theorem IsFramed.leaveCall
    (framed : after.IsFramed)
    (disciplined : (environment.pushScope .routineBody).Disciplined after) :
    after.popScope.popContext.IsFramed := by
  obtain ⟨isBody, sameScopes⟩ := disciplined.scopes_of_scope
  have sameItems : after.popScope.popContext.contexts.items = after.contexts.items.tail := by
    simp only [popContext, BoundedStack.pop, contexts_popScope]
  have sameOuter : after.popScope.popContext.scopes = after.outer := sameScopes
  unfold IsFramed
  rw [sameOuter, sameItems]
  exact Framed.leaveCall framed isBody

end Environment

/-- Nothing is asked of values for scopes and arguments to go together. -/
theorem framed_contract :
    Contract Condition.trivial (fun _ => True) (fun _ => True) Environment.IsFramed where
  named _ _ := trivial
  parameters _ _ _ := trivial
  literal _ := trivial
  void := trivial
  unary _ _ := trivial
  binary _ _ _ := trivial
  cast _ _ _ := trivial
  line _ _ := trivial
  lookup _ _ := ⟨trivial, trivial⟩
  define framed _ defined := framed.define defined
  assign framed _ assigned := framed.assign assigned
  declare framed declared := by
    obtain ⟨_, rfl⟩ := Environment.declareRoutine_eq_ok declared
    exact framed
  block framed := framed.block
  leaveBlock _ disciplined framed := framed.leaveBlock disciplined
  call framed _ push := framed.call push
  leaveCall _ _ disciplined framed := framed.leaveCall disciplined

/-! ## Points -/

variable {κ : Type} [Console κ]

/-- In an environment arguments are found where the order of scopes has them, each body of a zoop that
is run goes with the arguments of one call, and in the outermost scope no call is active. -/
structure Environment.Lexical (environment : Environment) : Prop where
  lookup : ∀ subject : Variable, environment.lookup subject = environment.lexicalLookup subject
  calls :
    (environment.scopes.filter fun scope => scope.kind == .routineBody).length =
      environment.contexts.items.length
  noCall : environment.inGlobal = true → environment.contexts.items = []

theorem Environment.IsFramed.lexical {environment : Environment} (framed : environment.IsFramed) :
    environment.Lexical :=
  ⟨framed.lookup_eq_lexicalLookup, framed.count_routineBody, framed.noCall⟩

/-- Before and after every part of every program that is run, arguments are found by the order of
scopes. -/
theorem arguments_follow_scopes_at_every_point
    (fuel : Nat) (programs : List Program) (console : κ)
    (point : Point κ) (visited : Program.Visited fuel programs console point) :
    point.machine.environment.Lexical ∧ point.ending.2.environment.Lexical := by
  have holds : ∀ program ∈ programs, Condition.trivial.inProgram program = true :=
    fun program _ => Condition.trivial_inStatements program.statements
  have initial : Environment.initial.IsFramed := .global rfl
  obtain ⟨ready, ends⟩ := framed_contract.of_visited holds initial visited
  exact ⟨ready.sound.kept.lexical, ends.kept.kept.lexical⟩

/-- A zoop that looks its argument up inside a block, and a call of it. -/
def lookingProgram : Program :=
  ⟨[.routine .start "f" [⟨"n", .string⟩] none
      [.block .start [.expression .start (.variable .start ⟨false, "n"⟩)]],
    .expression .start (.call .start "f" [.literal .start (.string "x")])]⟩

theorem arguments_follow_scopes_in_lookingProgram :
    ∃ machine : Machine BufferedConsole,
      Program.Visited 1 [lookingProgram] (BufferedConsole.ofInput [])
        ⟨0, .expression (.variable .start ⟨false, "n"⟩), machine⟩ ∧
      machine.environment.scopes.map Scope.kind = [.block, .routineBody, .global] ∧
      machine.environment.lexicalLookup ⟨false, "n"⟩ = .ok (.string "x") ∧
      machine.environment.Lexical := by
  let start : Point BufferedConsole :=
    ⟨1, .program lookingProgram.statements, Machine.start (BufferedConsole.ofInput [])⟩
  have declared : Visits start _ := .next .here (.moreTop rfl)
  have called := ((declared.next .top).next .effect).next (.called rfl rfl rfl rfl)
  have looking := ((((called.next .zoop).next .statement).next .block).next .statement).next .effect
  have visited :
      Program.Visited 1 [lookingProgram] (BufferedConsole.ofInput [])
        ⟨0, .expression (.variable .start ⟨false, "n"⟩), _⟩ :=
    ⟨[], lookingProgram, [], rfl, looking⟩
  exact ⟨_, visited, rfl, rfl, (arguments_follow_scopes_at_every_point 1 _ _ _ visited).1⟩

end Zoop
