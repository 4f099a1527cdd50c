import Zoop.Interpretation
import Zoop.Proofs.Environment.Types
import Zoop.Proofs.Evaluation.History
import Zoop.Proofs.Evaluation.StackDiscipline

/-!
# Variables and the data types that they are declared with

A new value is made to fit the variable that its name stands for before the value is evaluated, and it
is stored in the variable that the name stands for afterwards.  These are two variables if the value
itself declares the name in a scope that has not had it.  All variables keep the data types that they
are declared with exactly if each new value fits the variable that it is stored in, and that is so in
all programs in which no new value declares the name that it is for.
-/

namespace Zoop

open Evaluation

/-! ## The names that an expression declares -/

mutual

/-- Whether an expression, apart from the zoops that it calls, declares a mutable variable of a name. -/
def Expression.declares (name : String) : Expression → Bool
  | .literal _ _ => false
  | .variable _ _ => false
  | .declare _ subject _ value => decide (subject = ⟨true, name⟩) || value.declares name
  | .reassign _ _ value => value.declares name
  | .grouping _ inner => inner.declares name
  | .unary _ _ operand => operand.declares name
  | .binary _ _ _ left right => left.declares name || right.declares name
  | .cast _ _ inner => inner.declares name
  | .input _ _ _ => false
  | .call _ _ arguments => Expression.anyDeclares name arguments

/-- Whether one of the arguments of a call does. -/
def Expression.anyDeclares (name : String) : List Expression → Bool
  | [] => false
  | argument :: arguments => argument.declares name || Expression.anyDeclares name arguments

end

/-- No new value declares the name that it is for. -/
def Condition.withoutShadowedTargets : Condition where
  expression
    | .reassign _ name value => !value.declares name
    | _ => true
  statement _ := true

/-- A run leaves it as it is whether the innermost scope has a mutable variable of a name. -/
def Run.Settles {κ α : Type} (name : String) (run : Run κ α) : Prop :=
  ∀ machine : Machine κ,
    (run machine).2.environment.current.binds ⟨true, name⟩ =
      machine.environment.current.binds ⟨true, name⟩

namespace Run.Settles

variable {κ α β : Type} {name : String}

theorem bind
    {run : Run κ α} {next : α → Run κ β}
    (first : run.Settles name) (second : ∀ value, (next value).Settles name) :
    (run >>= next).Settles name := by
  intro machine
  have firstSettles := first machine
  apply Run.bind_cases fun result =>
    result.2.environment.current.binds ⟨true, name⟩ =
      machine.environment.current.binds ⟨true, name⟩
  · intro value middle ends
    rw [ends] at firstSettles
    rw [second value middle, firstSettles]
  · intro stop after ends
    rw [ends] at firstSettles
    exact firstSettles

theorem still {run : Run κ α} (same : ∀ machine, (run machine).2 = machine) :
    run.Settles name := by
  intro machine
  rw [same machine]

variable [Console κ]

theorem read (position : Position) (prompt : String) :
    (Run.read position prompt : Run κ String).Settles name := by
  intro machine
  rw [Run.read_environment]

theorem define
    (position : Position) {subject : Variable} (type : DataType) (value : Literal)
    (other : subject ≠ ⟨true, name⟩) :
    (Run.perform position (.defined subject type value) : Run κ Unit).Settles name := by
  intro machine
  unfold Run.perform
  split
  · next after defined =>
      obtain ⟨_, shape⟩ := Environment.define_eq_ok defined
      simp only [Machine.became, shape, Scope.binds_set, other.symm, decide_false, Bool.false_or]
  · rfl

theorem assign (position : Position) (target : String) (type : DataType) (value : Literal) :
    (Run.perform position (.assigned target type value) : Run κ Unit).Settles name := by
  intro machine
  unfold Run.perform
  split
  · next after assigned =>
      have names := Environment.names_of_assign assigned
      simp only [Environment.scopes, List.map_cons, List.cons.injEq] at names
      exact congrFun names.1 ⟨true, name⟩
  · rfl

/-- A call runs in a scope of its own. -/
theorem call
    (fuel : Nat) (position : Position) (context : Context) (body : List Statement) :
    (Run.inContext position context
      (Run.inScope .routineBody (bodyRunner fuel body)) : Run κ Flow).Settles name := by
  intro machine
  have bodyDisciplined :=
    (Run.Disciplined.uniform (κ := κ)).body fuel body (Condition.trivial_inStatements body)
  unfold Run.inContext
  split
  · rfl
  · next entered push =>
      obtain ⟨_, _, _, shape⟩ := Environment.pushContext_eq_ok push
      have sameScope : entered.current = machine.environment.current := by rw [shape]
      have names := (bodyDisciplined.disciplined
        ((machine.became (.entered context) entered).became (.opened .routineBody)
          (entered.pushScope .routineBody))).names_of_scope
      rw [← sameScope]
      exact congrFun names ⟨true, name⟩

mutual

/-- An expression adds no names to the innermost scope but those that it declares. -/
theorem evaluate (fuel : Nat) :
    ∀ expression, expression.declares name = false →
      (Evaluation.evaluate (bodyRunner fuel) expression : Run κ Literal).Settles name
  | .literal _ _, _ => by
      simp only [Evaluation.evaluate]
      exact still fun _ => rfl
  | .variable position subject, _ => by
      simp only [Evaluation.evaluate]
      exact still (Run.ask_machine position _)
  | .declare position subject type value, absent => by
      simp only [Expression.declares, Bool.or_eq_false_iff, decide_eq_false_iff_not] at absent
      simp only [Evaluation.evaluate]
      apply (evaluate fuel value absent.2).bind
      intro literal
      apply (still (Run.ofResult_machine _)).bind
      intro stored
      exact (define position type stored absent.1).bind fun _ => still fun _ => rfl
  | .reassign position target value, absent => by
      simp only [Expression.declares] at absent
      simp only [Evaluation.evaluate]
      apply (still (Run.ask_machine position _)).bind
      intro old
      apply (evaluate fuel value absent).bind
      intro literal
      apply (still (Run.ofResult_machine _)).bind
      intro stored
      exact (assign position target old.type stored).bind fun _ => still fun _ => rfl
  | .grouping _ inner, absent => by
      simp only [Expression.declares] at absent
      simp only [Evaluation.evaluate]
      exact evaluate fuel inner absent
  | .unary position operator operand, absent => by
      simp only [Expression.declares] at absent
      simp only [Evaluation.evaluate]
      exact (evaluate fuel operand absent).bind fun _ => still (Run.ofResultAt_machine position _)
  | .binary _ operator operatorPosition left right, absent => by
      simp only [Expression.declares, Bool.or_eq_false_iff] at absent
      simp only [Evaluation.evaluate]
      apply (evaluate fuel left absent.1).bind
      intro first
      exact (evaluate fuel right absent.2).bind fun _ => still (Run.ofResult_machine _)
  | .cast position type inner, absent => by
      simp only [Expression.declares] at absent
      simp only [Evaluation.evaluate]
      exact (evaluate fuel inner absent).bind fun _ => still (Run.ofResultAt_machine position _)
  | .input position type prompt, _ => by
      simp only [Evaluation.evaluate]
      exact (read position _).bind fun _ => still (Run.ofResultAt_machine position _)
  | .call position label arguments, absent => by
      simp only [Expression.declares] at absent
      simp only [Evaluation.evaluate]
      apply (still (Run.ask_machine position _)).bind
      intro routine
      split
      · apply (evaluateArguments fuel arguments routine.parameters .empty absent).bind
        intro context
        apply (call fuel position context routine.body).bind
        intro flow
        apply still
        intro machine
        cases flow with
        | value literal =>
            simp only [callResult]
            split <;> rfl
        | _ => rfl
      · exact still fun _ => rfl

theorem evaluateArguments (fuel : Nat) :
    ∀ (arguments : List Expression) (parameters : List Parameter) (context : Context),
      Expression.anyDeclares name arguments = false →
      (Evaluation.evaluateArguments (bodyRunner fuel) arguments parameters context :
        Run κ Context).Settles name
  | [], _, context, _ => by
      simp only [Evaluation.evaluateArguments]
      exact still fun _ => rfl
  | _ :: _, [], context, _ => by
      simp only [Evaluation.evaluateArguments]
      exact still fun _ => rfl
  | argument :: arguments, parameter :: parameters, context, absent => by
      simp only [Expression.anyDeclares, Bool.or_eq_false_iff] at absent
      simp only [Evaluation.evaluateArguments]
      apply (evaluate fuel argument absent.1).bind
      intro literal
      split
      · exact evaluateArguments fuel arguments parameters _ absent.2
      · exact still fun _ => rfl

end

end Run.Settles

/-! ## Points of a history -/

/-- At a point of a history all mutable variables have the data types that they are declared with. -/
def TypedAsDeclared
    (change : Change) (environment : Environment) (earlier : List (Change × Environment)) : Prop :=
  environment.mutableTypes = declaredTypes (change :: earlier.map Prod.fst)

/-- A new value that is stored at a point of a history is of the data type with which the variable that
it is stored in is declared. -/
def StoredAsDeclared
    (change : Change) (_ : Environment) (earlier : List (Change × Environment)) : Prop :=
  change.Faithful (declaredTypes (earlier.map Prod.fst))

instance (change : Change) (environment : Environment) (earlier : List (Change × Environment)) :
    Decidable (StoredAsDeclared change environment earlier) :=
  inferInstanceAs (Decidable (change.Faithful (declaredTypes (earlier.map Prod.fst))))

namespace Reaches

variable {history : List (Change × Environment)} {environment : Environment}

theorem mutableTypes
    (reaches : Reaches .initial history environment) (typed : Throughout TypedAsDeclared history) :
    environment.mutableTypes = declaredTypes (history.map Prod.fst) := by
  cases reaches with
  | start => rfl
  | step _ _ _ => exact typed.1

/-- The first new value that is not of the declared data type is where the data types go wrong, and
nothing else is. -/
theorem typedAsDeclared_iff (reaches : Reaches .initial history environment) :
    Throughout TypedAsDeclared history ↔ Throughout StoredAsDeclared history := by
  induction reaches with
  | start => exact Iff.rfl
  | step reached fits applied inductionHypothesis =>
      have stepTypes := Change.mutableTypes_of_apply fits applied
      constructor
      · rintro ⟨here, before⟩
        refine ⟨?_, inductionHypothesis.mp before⟩
        rw [reached.mutableTypes before] at stepTypes
        exact stepTypes.mp here
      · rintro ⟨here, before⟩
        have typedBefore := inductionHypothesis.mpr before
        refine ⟨?_, typedBefore⟩
        rw [reached.mutableTypes typedBefore] at stepTypes
        exact stepTypes.mpr here

end Reaches

/-! ## Programs whose new values stay with their variables -/

variable {κ : Type} [Console κ]

/-- All zoops meet the condition on new values, and all new values so far are as declared. -/
structure Machine.Steady (machine : Machine (Recorder κ)) : Prop where
  admits : Condition.withoutShadowedTargets.AdmitsAll machine.environment
  reached : machine.Reached .initial
  stored : Throughout StoredAsDeclared machine.console.history

namespace Machine.Steady

omit [Console κ] in
theorem mutableTypes {machine : Machine (Recorder κ)} (steady : machine.Steady) :
    machine.environment.mutableTypes = declaredTypes (machine.console.history.map Prod.fst) :=
  steady.reached.mutableTypes (steady.reached.typedAsDeclared_iff.mpr steady.stored)

theorem becomes
    {machine : Machine (Recorder κ)} {change : Change} {after : Environment}
    (steady : machine.Steady)
    (made : Condition.withoutShadowedTargets.Makes change)
    (applied : change.apply machine.environment = .ok after) :
    (machine.became change after).Steady where
  admits := steady.admits.of_apply made.declaredAdmits applied
  reached := steady.reached.became (.of_makes made) applied
  stored := by
    refine ⟨?_, steady.stored⟩
    cases change with
    | assigned name type value => exact made.elim
    | _ => exact trivial

/-- A new value of the data type that its variable has is as declared, and all variables keep their data
types. -/
theorem assign
    {machine : Machine (Recorder κ)} {name : String} {value : Literal}
    (steady : machine.Steady)
    (faithful : TypeTable.nearest machine.environment.mutableTypes name = some value.type)
    (position : Position) :
    (Run.perform position (.assigned name value.type value) machine).2.Steady ∧
      machine.environment.Widens
        (Run.perform position (.assigned name value.type value) machine).2.environment := by
  unfold Run.perform
  split
  · next after applied =>
      have fits : Change.Fits (.assigned name value.type value) := rfl
      have declared :
          Change.Faithful (declaredTypes (machine.console.history.map Prod.fst))
            (.assigned name value.type value) := by
        rw [← steady.mutableTypes]
        exact faithful
      refine ⟨⟨?_, steady.reached.became fits applied, declared, steady.stored⟩, ?_⟩
      · exact steady.admits.of_routines_eq (Environment.assign_eq_ok applied).1
      · exact .of_mutableTypes_eq ((Environment.mutableTypes_of_assign applied).mpr faithful)
  · exact ⟨steady, .refl _⟩

theorem passage :
    Passage Condition.withoutShadowedTargets
      (Machine.Steady (κ := κ)) Environment.Widens where
  admits steady := steady.admits
  becomes := becomes
  prints _ steady := ⟨steady.admits, steady.reached, steady.stored⟩
  reads _ steady := ⟨steady.admits, steady.reached, steady.stored⟩
  refl := .refl
  trans := .trans
  define := .of_define
  declare := .of_declareRoutine
  scope := .of_scope
  context := .of_context

/-- Before its value is evaluated a name stands for a variable of some data type.  The value adds no
variable of the name, so afterwards the name still stands for a variable of that data type. -/
theorem reassignments (fuel : Nat) :
    Reassignments Condition.withoutShadowedTargets
      (fun α (run _ : Run (Recorder κ) α) => run.Passes Machine.Steady Environment.Widens)
      (bodyRunner fuel) (bodyRunner fuel) := by
  intro position name value unshadowed _ valuePasses machine steady
  simp only [Condition.withoutShadowedTargets, Bool.not_eq_true'] at unshadowed
  simp only [evaluate]
  cases found : machine.environment.lookup ⟨true, name⟩ with
  | error cause =>
      rw [Run.ask_bind_of_error found]
      exact ⟨steady, .refl _⟩
  | ok old =>
      rw [Run.ask_bind_of_ok found]
      obtain ⟨steadyMiddle, wider⟩ := valuePasses machine steady
      have notNew := Run.Settles.evaluate fuel value unshadowed machine
      have typeBefore := Environment.nearest_of_lookup found
      rcases ends : evaluate (bodyRunner fuel) value machine with ⟨outcome, middle⟩
      rw [ends] at steadyMiddle wider notNew
      have typeMiddle := (wider.nearest_eq notNew).trans typeBefore
      cases outcome using Outcome.stop_cases with
      | stopped stop =>
          rw [Run.bind_of_stop ends]
          exact ⟨steadyMiddle, wider⟩
      | ok literal =>
          rw [Run.bind_of_ok ends]
          cases accepted : reassignedValue name old.type position value.position literal with
          | error error => exact ⟨steadyMiddle, wider⟩
          | ok stored =>
              rw [← type_of_reassignedValue accepted] at typeMiddle ⊢
              obtain ⟨steadyAfter, widerAfter⟩ := steadyMiddle.assign typeMiddle position
              change Machine.Steady ((Run.perform _ _ >>= fun _ => pure stored) middle).2 ∧
                machine.environment.Widens
                  ((Run.perform _ _ >>= fun _ => pure stored) middle).2.environment
              rw [Run.bind_pure_machine]
              exact ⟨steadyAfter, wider.trans widerAfter⟩

end Machine.Steady

/-- Programs whose new values stay with their variables leave all variables as declared. -/
theorem Program.runInTurn_steady
    {programs : List Program}
    (unshadowed : ∀ program ∈ programs,
      Condition.withoutShadowedTargets.inProgram program = true)
    (fuel : Nat) (console : κ) :
    (runInTurn fuel programs (Machine.start (Recorder.fresh console))).Steady := by
  have uniform :=
    (Machine.Steady.passage (κ := κ)).uniform Machine.Steady.reassignments
  apply runInTurn_keeps Machine.Steady
  · intro program member machine steady
    exact (uniform.runWith fuel program (unshadowed program member) machine steady).1
  · exact ⟨Condition.admitsAll_initial _, .start, trivial⟩

/-! ## Where a name is found before and after its value -/

/-- A run leaves a name with the scope in which it was found unless it brings the name to the innermost
scope. -/
theorem Environment.Disciplined.holder?_eq_some_iff
    {before after : Environment} {name : String} {place : Nat}
    (disciplined : before.Disciplined after) (held : before.holder? name = some place) :
    after.holder? name = some place ↔
      (after.current.binds ⟨true, name⟩ = true → before.current.binds ⟨true, name⟩ = true) := by
  have outerPlaces :
      (after.outer.findIdx? fun scope => scope.binds ⟨true, name⟩) =
        before.outer.findIdx? fun scope => scope.binds ⟨true, name⟩ := by
    have sameNames :=
      congrArg (List.findIdx? fun names => names ⟨true, name⟩) disciplined.outerNames
    rw [List.findIdx?_map, List.findIdx?_map] at sameNames
    exact sameNames
  simp only [holder?, scopes, List.findIdx?_cons, outerPlaces] at held ⊢
  cases here : before.current.binds ⟨true, name⟩ with
  | true =>
      have stillHere := disciplined.currentNames _ here
      simpa [here, stillHere] using held
  | false =>
      simp only [here, Bool.false_eq_true, if_false] at held
      cases new : after.current.binds ⟨true, name⟩ with
      | false => simpa using held
      | true =>
          obtain ⟨outerPlace, _, shifted⟩ := Option.map_eq_some_iff.mp held
          simp only [if_true, Option.some.injEq]
          constructor
          · intro atZero
            omega
          · intro wasHere
            simp at wasHere

/-- Recording a session makes no difference to it, and a recorded session is made of changes that lead
from each environment to the next.  At all of its points all mutable variables have the data types that
they are declared with exactly if all new values have the data types of the variables that they are
stored in, and this is so if no new value declares the name that it is for.  The variable that a new
value is stored in is the one whose data type it was made to fit exactly if evaluating it has not
brought the name to the innermost scope. -/
theorem declared_types_kept_iff_new_values_fit {κ : Type} [Console κ] (fuel : Nat) :
    (∀ (programs : List Program) (console : κ),
      let recorded := Program.runInTurn fuel programs (Machine.start (Recorder.fresh console))
      recorded.unrecorded = Program.runInTurn fuel programs (Machine.start console) ∧
      Reaches .initial recorded.console.history recorded.environment ∧
      (Throughout TypedAsDeclared recorded.console.history ↔
        Throughout StoredAsDeclared recorded.console.history) ∧
      ((∀ program ∈ programs, Condition.withoutShadowedTargets.inProgram program = true) →
        Throughout TypedAsDeclared recorded.console.history)) ∧
    ∀ (name : String) (value : Expression) (machine middle : Machine κ)
      (old literal stored : Literal) (after : Environment),
      machine.environment.lookup ⟨true, name⟩ = .ok old →
      evaluate (bodyRunner fuel) value machine = (.ok literal, middle) →
      middle.environment.assign name stored = .ok after →
      ∃ (compared written : Nat) (comparedScope writtenScope : Scope),
        machine.environment.holder? name = some compared ∧
        machine.environment.scopes[compared]? = some comparedScope ∧
        comparedScope.get? ⟨true, name⟩ = some old ∧
        middle.environment.holder? name = some written ∧
        middle.environment.scopes[written]? = some writtenScope ∧
        after.scopes =
          middle.environment.scopes.set written (writtenScope.set ⟨true, name⟩ stored) ∧
        (written = compared ↔
          (middle.environment.current.binds ⟨true, name⟩ = true →
            machine.environment.current.binds ⟨true, name⟩ = true)) := by
  constructor
  · intro programs console recorded
    have reached := Program.runInTurn_reached fuel programs console
    have typedIff := reached.typedAsDeclared_iff
    refine ⟨Program.runInTurn_unrecorded fuel programs _, reached, typedIff, ?_⟩
    intro unshadowed
    exact typedIff.mpr (Program.runInTurn_steady unshadowed fuel console).stored
  · intro name value machine middle old literal stored after found ends assigned
    obtain ⟨compared, comparedScope, comparedHeld, comparedThere, oldThere⟩ :=
      Environment.holder?_of_lookup found
    obtain ⟨written, writtenScope, writtenHeld, writtenThere, shape⟩ :=
      Environment.holder?_of_assign assigned
    have disciplined :=
      (Run.Disciplined.uniform.evaluate fuel value
        (Condition.trivial_inExpression value)).disciplined machine
    rw [ends] at disciplined
    have samePlace := disciplined.holder?_eq_some_iff comparedHeld
    rw [writtenHeld, Option.some.injEq] at samePlace
    exact ⟨compared, written, comparedScope, writtenScope, comparedHeld, comparedThere, oldThere,
      writtenHeld, writtenThere, shape, samePlace⟩

/-- A program whose new value for `x` declares only `y`, and is made a whole number for it. -/
def steadyProgram : Program :=
  ⟨[.expression .start
      (.declare .start ⟨true, "x"⟩ .int (.literal .start ⟨.int, .number .zero⟩)),
    .block .start
      [.expression .start
        (.reassign .start "x"
          (.declare .start ⟨true, "y"⟩ .uint (.literal .start ⟨.uint, .number .zero⟩)))]]⟩

theorem declared_types_kept_by_steadyProgram :
    Condition.withoutShadowedTargets.inProgram steadyProgram = true ∧
    Throughout TypedAsDeclared
      (Program.runInTurn 1 [steadyProgram]
        (Machine.start (Recorder.fresh (BufferedConsole.ofInput [])))).console.history := by
  have unshadowed : Condition.withoutShadowedTargets.inProgram steadyProgram = true := by
    decide +kernel
  refine ⟨unshadowed, ?_⟩
  apply ((declared_types_kept_iff_new_values_fit 1).1
    [steadyProgram] (BufferedConsole.ofInput [])).2.2.2
  intro program member
  rw [List.mem_singleton.mp member]
  exact unshadowed

/-! ## A variable that loses its data type -/

/-- In the block the first new value for `x` declares an `x` of its own, with whole numbers as its data
type, and is then stored in it as a number with a fraction. -/
def shadowingSource : String :=
  "@x:dec <- 5.0\n\x7b\n@x <- @x:int <- 1\n@x <- 2.5\n@x ->|\n\x7d"

def shadowingTokens : List Token := [
  ⟨.variable, "@x", ⟨1, 0⟩, ⟨0, 2⟩, some (.string "x")⟩,
  ⟨.colon, ":", ⟨1, 2⟩, ⟨2, 1⟩, none⟩,
  ⟨.keyword, "dec", ⟨1, 3⟩, ⟨3, 3⟩, none⟩,
  ⟨.flowIn, "<-", ⟨1, 7⟩, ⟨7, 2⟩, none⟩,
  ⟨.literal, "5.0", ⟨1, 10⟩, ⟨10, 3⟩, some (.number (.ofBits 0x4014000000000000))⟩,
  ⟨.newLine, "\n", ⟨1, 13⟩, ⟨13, 1⟩, none⟩,
  ⟨.blockOpen, "\x7b", ⟨2, 0⟩, ⟨14, 1⟩, none⟩,
  ⟨.newLine, "\n", ⟨2, 1⟩, ⟨15, 1⟩, none⟩,
  ⟨.variable, "@x", ⟨3, 0⟩, ⟨16, 2⟩, some (.string "x")⟩,
  ⟨.flowIn, "<-", ⟨3, 3⟩, ⟨19, 2⟩, none⟩,
  ⟨.variable, "@x", ⟨3, 6⟩, ⟨22, 2⟩, some (.string "x")⟩,
  ⟨.colon, ":", ⟨3, 8⟩, ⟨24, 1⟩, none⟩,
  ⟨.keyword, "int", ⟨3, 9⟩, ⟨25, 3⟩, none⟩,
  ⟨.flowIn, "<-", ⟨3, 13⟩, ⟨29, 2⟩, none⟩,
  ⟨.literal, "1", ⟨3, 16⟩, ⟨32, 1⟩, some (.number (.ofBits 0x3FF0000000000000))⟩,
  ⟨.newLine, "\n", ⟨3, 17⟩, ⟨33, 1⟩, none⟩,
  ⟨.variable, "@x", ⟨4, 0⟩, ⟨34, 2⟩, some (.string "x")⟩,
  ⟨.flowIn, "<-", ⟨4, 3⟩, ⟨37, 2⟩, none⟩,
  ⟨.literal, "2.5", ⟨4, 6⟩, ⟨40, 3⟩, some (.number (.ofBits 0x4004000000000000))⟩,
  ⟨.newLine, "\n", ⟨4, 9⟩, ⟨43, 1⟩, none⟩,
  ⟨.variable, "@x", ⟨5, 0⟩, ⟨44, 2⟩, some (.string "x")⟩,
  ⟨.output, "->|", ⟨5, 3⟩, ⟨47, 3⟩, none⟩,
  ⟨.newLine, "\n", ⟨5, 6⟩, ⟨50, 1⟩, none⟩,
  ⟨.blockClose, "\x7d", ⟨6, 0⟩, ⟨51, 1⟩, none⟩]

def shadowingProgram : Program :=
  ⟨[.expression ⟨1, 0⟩
      (.declare ⟨1, 0⟩ ⟨true, "x"⟩ .dec
        (.literal ⟨1, 10⟩ ⟨.dec, .number (.ofBits 0x4014000000000000)⟩)),
    .block ⟨2, 0⟩
      [.expression ⟨3, 0⟩
        (.reassign ⟨3, 0⟩ "x"
          (.declare ⟨3, 6⟩ ⟨true, "x"⟩ .int
            (.literal ⟨3, 16⟩ ⟨.int, .number (.ofBits 0x3FF0000000000000)⟩))),
      .expression ⟨4, 0⟩
        (.reassign ⟨4, 0⟩ "x"
          (.literal ⟨4, 6⟩ ⟨.dec, .number (.ofBits 0x4004000000000000)⟩)),
      .print ⟨5, 3⟩ (.variable ⟨5, 0⟩ ⟨true, "x"⟩)]]⟩

theorem shadowingSource_interpretation :
    Interpretation.ofSource shadowingSource =
      .ok ⟨shadowingSource, shadowingTokens, shadowingProgram⟩ := by
  have normal : Text.normalize shadowingSource = shadowingSource := by decide +kernel
  have tokens : Token.tokenize shadowingSource = .ok shadowingTokens := by
    have found : (Token.tokenize shadowingSource).toOption = some shadowingTokens := by
      decide +kernel
    cases tokenized : Token.tokenize shadowingSource with
    | error error =>
        rw [tokenized] at found
        cases found
    | ok tokens =>
        rw [tokenized] at found
        injection found with same
        rw [same]
  have program : Program.parse shadowingTokens = .ok shadowingProgram := by rfl
  simp only [Interpretation.ofSource, normal, tokens, program, bind, Except.bind, pure, Except.pure]

/-- Not all programs keep the data types of their variables. -/
theorem shadowed_target_loses_its_type :
    Interpretation.ofSource shadowingSource =
      .ok ⟨shadowingSource, shadowingTokens, shadowingProgram⟩ ∧
    ¬ Throughout TypedAsDeclared
        (Program.runInTurn 1 [shadowingProgram]
          (Machine.start (Recorder.fresh (BufferedConsole.ofInput [])))).console.history := by
  refine ⟨shadowingSource_interpretation, ?_⟩
  have reached := Program.runInTurn_reached 1 [shadowingProgram] (BufferedConsole.ofInput [])
  rw [reached.typedAsDeclared_iff]
  decide +kernel

end Zoop
