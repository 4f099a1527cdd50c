import Zoop.Proofs.Environment.Values
import Zoop.Proofs.Evaluation.StackDiscipline

/-!
# Contracts

A contract says what is good of a value, what is proper of a data type and what is kept of an
environment.  If every way to make a value makes a good one from good ones, and every change keeps what
is kept, then this is so at every point of every run.  A block is left with what it was entered with,
and so is a call, so a contract need only say what both of these keep as a whole.
-/

namespace Zoop

open Evaluation

/-! ## Endings -/

variable {κ : Type}

/-- However a run ends, something is kept of its environment, and what it gives is good. -/
structure Meets {α : Type} (Kept : Environment → Prop) (Good : α → Prop)
    (ending : Outcome RuntimeError α × Machine κ) : Prop where
  kept : Kept ending.2.environment
  good : ∀ value, ending.1 = .ok value → Good value

namespace Meets

variable
    {α β : Type} {Kept : Environment → Prop} {Good : α → Prop} {Fine : β → Prop}
    {machine : Machine κ}

theorem of_ok
    {ending : Outcome RuntimeError α × Machine κ} {value : α} {after : Machine κ}
    (meets : Meets Kept Good ending) (ends : ending = (.ok value, after)) :
    Kept after.environment ∧ Good value := by
  subst ends
  exact ⟨meets.kept, meets.good value rfl⟩

theorem pure {value : α} (kept : Kept machine.environment) (good : Good value) :
    Meets Kept Good ((Pure.pure value : Run κ α) machine) :=
  ⟨kept, fun _ given => by cases given; exact good⟩

theorem fail
    (cause : RuntimeCause) (position : Position) (kept : Kept machine.environment) :
    Meets Kept Good (Run.fail cause position machine) :=
  ⟨kept, nofun⟩

theorem fault (kept : Kept machine.environment) : Meets Kept Good (Run.fault machine) :=
  ⟨kept, nofun⟩

theorem exhausted (kept : Kept machine.environment) : Meets Kept Good (Run.exhausted machine) :=
  ⟨kept, nofun⟩

/-- A sequence goes on only with what its first part gives. -/
theorem bind
    {run : Run κ α} {next : α → Run κ β} (first : Meets Kept Good (run machine))
    (second : ∀ value after, run machine = (.ok value, after) → Kept after.environment →
      Good value → Meets Kept Fine (next value after)) :
    Meets Kept Fine ((run >>= next) machine) := by
  apply Run.bind_cases
  · intro value after ends
    obtain ⟨kept, good⟩ := first.of_ok ends
    exact second value after ends kept good
  · intro stop after ends
    rw [ends] at first
    exact ⟨first.kept, fun _ impossible => absurd impossible Stop.outcome_ne_ok⟩

theorem ofResult
    {result : Except RuntimeError α} (kept : Kept machine.environment)
    (good : ∀ value, result = .ok value → Good value) :
    Meets Kept Good (Run.ofResult result machine) := by
  cases result with
  | ok value => exact .pure kept (good value rfl)
  | error error => exact .fail error.cause error.position kept

theorem ofResultAt
    {position : Position} {result : Except RuntimeCause α} (kept : Kept machine.environment)
    (good : ∀ value, result = .ok value → Good value) :
    Meets Kept Good (Run.ofResultAt position result machine) := by
  cases result with
  | ok value => exact .pure kept (good value rfl)
  | error cause => exact .fail cause position kept

variable [Console κ]

theorem perform
    {position : Position} {change : Change} (kept : Kept machine.environment)
    (becomes : ∀ after, change.apply machine.environment = .ok after → Kept after) :
    Meets Kept (fun _ => True) (Run.perform position change machine) := by
  unfold Run.perform
  split
  · next after applied => exact ⟨becomes after applied, fun _ _ => trivial⟩
  · exact ⟨kept, nofun⟩

theorem print (position : Position) (line : String) (kept : Kept machine.environment) :
    Meets Kept (fun _ => True) (Run.print position line machine) := by
  refine ⟨?_, fun _ _ => trivial⟩
  rw [Run.print_environment]
  exact kept

theorem read (position : Position) (prompt : String) (kept : Kept machine.environment) :
    Meets Kept (fun _ => True) (Run.read position prompt machine) := by
  refine ⟨?_, fun _ _ => trivial⟩
  rw [Run.read_environment]
  exact kept

end Meets

theorem Environment.routines_popScope (environment : Environment) :
    environment.popScope.routines = environment.routines := by
  unfold popScope
  split <;> rfl

/-! ## Contracts -/

/-- The data type that an expression names. -/
def Expression.namedType? : Expression → Option DataType
  | .declare _ _ type _ | .cast _ type _ | .input _ type _ => some type
  | _ => none

/-- Values are made good: by literals and lines of input, and from good values by operators and casts.
The data types that programs name are proper. -/
structure ValueContract
    (condition : Condition) (Good : Literal → Prop) (Proper : DataType → Prop) : Prop where
  named : ∀ {expression type},
    condition.expression expression = true → expression.namedType? = some type → Proper type
  parameters : ∀ {routine},
    condition.Admits routine → ∀ parameter ∈ routine.parameters, Proper parameter.type
  literal : ∀ {position value},
    condition.expression (.literal position value) = true → Good value
  void : Good .void
  unary : ∀ {operator operand value},
    Good operand → Operation.unary operator operand = .ok value → Good value
  binary : ∀ {operator left right place value},
    Good left.literal → Good right.literal →
    Operation.binary operator left right place = .ok value → Good value
  cast : ∀ {literal type value},
    Good literal → Proper type → literal.cast type = .ok value → Good value
  line : ∀ {type line value}, Proper type → Literal.ofLine type line = .ok value → Good value

/-- A good value of a proper data type, as it is stored. -/
def Stored (Good : Literal → Prop) (Proper : DataType → Prop) (literal : Literal) : Prop :=
  Good literal ∧ Proper literal.type

theorem Stored.of_declaredValue
    {Good : Literal → Prop} {Proper : DataType → Prop}
    {subject : Variable} {type : DataType} {position : Position} {literal stored : Literal}
    (proper : Proper type) (good : Good literal)
    (accepted : declaredValue subject type position literal = .ok stored) :
    Stored Good Proper stored := by
  refine ⟨?_, (type_of_declaredValue accepted).symm ▸ proper⟩
  unfold declaredValue at accepted
  split at accepted
  · cases accepted
    exact good
  · cases accepted

/-- Stored values are found again, and what is kept of an environment is kept by each change that
stores such a value, by a block and by a call with such arguments. -/
structure Contract
    (condition : Condition) (Good : Literal → Prop) (Proper : DataType → Prop)
    (Kept : Environment → Prop) : Prop
    extends ValueContract condition Good Proper where
  lookup : ∀ {environment subject value},
    Kept environment → environment.lookup subject = .ok value → Stored Good Proper value
  define : ∀ {environment after subject value},
    Kept environment → Stored Good Proper value → environment.define subject value = .ok after →
    Kept after
  assign : ∀ {environment after name value},
    Kept environment → Stored Good Proper value → environment.assign name value = .ok after →
    Kept after
  declare : ∀ {environment after routine},
    Kept environment → environment.declareRoutine routine = .ok after → Kept after
  block : ∀ {environment}, Kept environment → Kept (environment.pushScope .block)
  leaveBlock : ∀ {environment after},
    Kept environment → (environment.pushScope .block).Disciplined after → Kept after →
    Kept after.popScope
  call : ∀ {environment entered context},
    Kept environment → Bindings.Every (Stored Good Proper) context →
    environment.pushContext context = .ok entered → Kept (entered.pushScope .routineBody)
  leaveCall : ∀ {environment entered after context},
    Kept environment → environment.pushContext context = .ok entered →
    (entered.pushScope .routineBody).Disciplined after → Kept after →
    Kept after.popScope.popContext

/-- If what is kept is that all values in the environment are stored ones, then good values are all
that a contract needs. -/
theorem ValueContract.contract
    {condition : Condition} {Good : Literal → Prop} {Proper : DataType → Prop}
    (values : ValueContract condition Good Proper) :
    Contract condition Good Proper (Environment.Every (Stored Good Proper)) where
  toValueContract := values
  lookup every found := every.lookup found
  define every stored defined := every.define stored defined
  assign every stored assigned := every.assign stored assigned
  declare every declared := every.declareRoutine declared
  block every := every.pushScope .block
  leaveBlock _ _ every := every.popScope
  call every arguments push := (every.pushContext arguments push).pushScope .routineBody
  leaveCall _ _ _ every := every.popScope.popContext

/-! ## Points -/

/-- Whether a condition holds of a part of a program. -/
def Condition.inTask (condition : Condition) : Task → Bool
  | .expression value => condition.inExpression value
  | .arguments values _ _ => condition.inArguments values
  | .statement single => condition.inStatement single
  | .statements body | .rounds _ body _ | .zoop body | .program body => condition.inStatements body
  | .branch guarded => condition.inBranch guarded
  | .branches guarded => condition.inBranches guarded
  | .otherwise body => condition.inOtherwise body

/-- A value that a statement gives to its zoop is good, and it is not void. -/
def Flow.Gives (Good : Literal → Prop) (flow : Flow) : Prop :=
  ∀ literal, flow = .value literal → Good literal ∧ literal.type ≠ .void

theorem Flow.gives_next {Good : Literal → Prop} : Flow.next.Gives Good := nofun

theorem Flow.gives_giveBack {Good : Literal → Prop} : Flow.giveBack.Gives Good := nofun

theorem Flow.gives_leave {Good : Literal → Prop} : Flow.leave.Gives Good := nofun

namespace Contract

variable
    {condition : Condition} {Good : Literal → Prop} {Proper : DataType → Prop}
    {Kept : Environment → Prop}

/-- What holds of the arguments from before. -/
def Prepared (_ : Contract condition Good Proper Kept) : Task → Prop
  | .arguments _ parameters context =>
      (∀ parameter ∈ parameters, Proper parameter.type) ∧
        Bindings.Every (Stored Good Proper) context
  | _ => True

/-- What is true of the result of a part. -/
def Delivers (_ : Contract condition Good Proper Kept) : (task : Task) → task.Result → Prop
  | .expression _ => Good
  | .arguments _ _ _ => Bindings.Every (Stored Good Proper)
  | .statement _ | .statements _ | .otherwise _ | .rounds _ _ _ | .zoop _ => Flow.Gives Good
  | .branch _ | .branches _ => fun chosen => ∀ flow, chosen = some flow → flow.Gives Good
  | .program _ => fun _ => True

/-- The environment is one that is kept, and its zoops meet the condition. -/
structure Sound (_ : Contract condition Good Proper Kept) (environment : Environment) : Prop where
  kept : Kept environment
  admits : condition.AdmitsAll environment

/-- All that a contract needs at the start of a point. -/
structure Ready (contract : Contract condition Good Proper Kept) (point : Point κ) : Prop where
  sound : contract.Sound point.machine.environment
  holds : condition.inTask point.task = true
  prepared : contract.Prepared point.task

/-- What a contract gives at the end of a point. -/
def Ends [Console κ] (contract : Contract condition Good Proper Kept) (point : Point κ) : Prop :=
  Meets contract.Sound (contract.Delivers point.task) point.ending

variable
    [Console κ] {machine after : Machine κ} {fuel : Nat}
    (contract : Contract condition Good Proper Kept)

include contract

/-! ### Blocks and calls -/

theorem sound_block (sound : contract.Sound machine.environment) :
    contract.Sound (machine.inside .block).environment :=
  ⟨contract.block sound.kept, sound.admits⟩

theorem sound_call
    {context : Context} {entered : Environment}
    (sound : contract.Sound machine.environment)
    (stored : Bindings.Every (Stored Good Proper) context)
    (push : machine.environment.pushContext context = .ok entered) :
    contract.Sound
      ((machine.became (.entered context) entered).inside .routineBody).environment := by
  obtain ⟨_, _, _, shape⟩ := Environment.pushContext_eq_ok push
  have sameRoutines : entered.routines = machine.environment.routines := by rw [shape]
  exact ⟨contract.call sound.kept stored push, sound.admits.of_routines_eq sameRoutines⟩

theorem block_meets
    {body : List Statement} (sound : contract.Sound machine.environment)
    (inside : contract.Ends ⟨fuel, .statements body, machine.inside .block⟩) :
    Meets contract.Sound (Flow.Gives Good)
      (Run.inScope .block (executeAll (bodyRunner fuel) fuel body) machine) := by
  have disciplined := (Run.Disciplined.uniform.task fuel (.statements body)).disciplined
    (machine.inside .block)
  have sameRoutines := (executeAll (bodyRunner fuel) fuel body
    (machine.inside .block)).2.environment.routines_popScope
  exact ⟨⟨contract.leaveBlock sound.kept disciplined inside.kept.kept,
    inside.kept.admits.of_routines_eq sameRoutines⟩, inside.good⟩

omit [Console κ] in
theorem callResult_meets
    {position : Position} {routine : Routine} {flow : Flow}
    (sound : contract.Sound machine.environment) (gives : flow.Gives Good) :
    Meets contract.Sound Good (callResult position routine flow machine) := by
  cases flow with
  | next | giveBack => exact .pure sound contract.void
  | leave => exact .fault sound
  | value literal =>
      simp only [callResult]
      split
      · exact .pure sound (gives literal rfl).1
      · exact .fail _ _ sound

theorem enter_meets
    {position : Position} {routine : Routine} {context : Context}
    (sound : contract.Sound machine.environment)
    (inside : ∀ entered, machine.environment.pushContext context = .ok entered →
      contract.Ends
        ⟨fuel, .zoop routine.body,
          (machine.became (.entered context) entered).inside .routineBody⟩) :
    Meets contract.Sound Good
      (enter (bodyRunner fuel) position routine context machine) := by
  have bodyMeets :
      Meets contract.Sound (Flow.Gives Good)
        (Run.inContext position context
          (Run.inScope .routineBody (bodyRunner fuel routine.body)) machine) := by
    unfold Run.inContext
    split
    · exact ⟨sound, nofun⟩
    · next entered push =>
        have ends := inside entered push
        have disciplined := (Run.Disciplined.uniform.task fuel (.zoop routine.body)).disciplined
          ((machine.became (.entered context) entered).inside .routineBody)
        have sameRoutines := (bodyRunner fuel routine.body
          ((machine.became (.entered context) entered).inside
            .routineBody)).2.environment.routines_popScope
        exact ⟨⟨contract.leaveCall sound.kept push disciplined ends.kept.kept,
          ends.kept.admits.of_routines_eq sameRoutines⟩, ends.good⟩
  exact bodyMeets.bind fun flow after _ soundAfter gives =>
    contract.callResult_meets soundAfter gives

/-! ### Steps -/

/-- A step is ready if the parts that are run before it end as they should. -/
theorem ready_of_step
    {point next : Point κ} (ready : contract.Ready point)
    (ends : ∀ other, Step point other → contract.Ready other →
      contract.Ends other)
    (step : Step point next) : contract.Ready next := by
  obtain ⟨sound, holds, prepared⟩ := ready
  cases step with
  | declared | reassigned | grouped | operand | casted =>
      simp only [Condition.inTask, Condition.inExpression, Bool.and_eq_true] at holds
      exact ⟨sound, holds.2, trivial⟩
  | leftOperand =>
      simp only [Condition.inTask, Condition.inExpression, Bool.and_eq_true] at holds
      exact ⟨sound, holds.2.1, trivial⟩
  | rightOperand leftEnds =>
      simp only [Condition.inTask, Condition.inExpression, Bool.and_eq_true] at holds
      have leftMeets := ends _ .leftOperand ⟨sound, holds.2.1, trivial⟩
      exact ⟨(leftMeets.of_ok leftEnds).1, holds.2.2, trivial⟩
  | arguments found fits =>
      simp only [Condition.inTask, Condition.inExpression, Bool.and_eq_true] at holds
      have proper := contract.parameters (sound.admits.of_routine found)
      exact ⟨sound, holds.2, proper, Bindings.every_empty⟩
  | called found fits argumentsEnd push =>
      simp only [Condition.inTask, Condition.inExpression, Bool.and_eq_true] at holds
      -- the body is not a part of the call, but that of a zoop in the environment
      have admitted := sound.admits.of_routine found
      have argumentsMeet := ends _ (.arguments found fits)
        ⟨sound, holds.2, contract.parameters admitted, Bindings.every_empty⟩
      obtain ⟨soundAfter, stored⟩ := argumentsMeet.of_ok argumentsEnd
      exact ⟨contract.sound_call soundAfter stored push, admitted.2, trivial⟩
  | argument =>
      simp only [Condition.inTask, Condition.inArguments, Bool.and_eq_true] at holds
      exact ⟨sound, holds.1, trivial⟩
  | moreArguments valueEnds typed =>
      simp only [Condition.inTask, Condition.inArguments, Bool.and_eq_true] at holds
      have valueMeets := ends _ .argument ⟨sound, holds.1, trivial⟩
      obtain ⟨soundAfter, good⟩ := valueMeets.of_ok valueEnds
      obtain ⟨proper, stored⟩ := prepared
      obtain ⟨properHere, properLater⟩ := List.forall_mem_cons.mp proper
      exact ⟨soundAfter, holds.2, properLater, stored.set _ ⟨good, typed ▸ properHere⟩⟩
  | zoop | round => exact ⟨sound, holds, trivial⟩
  | effect | printed | givenBack | loop =>
      simp only [Condition.inTask, Condition.inStatement, Bool.and_eq_true] at holds
      exact ⟨sound, holds.2, trivial⟩
  | block =>
      simp only [Condition.inTask, Condition.inStatement, Bool.and_eq_true] at holds
      exact ⟨contract.sound_block sound, holds.2, trivial⟩
  | first =>
      simp only [Condition.inTask, Condition.inStatement, Bool.and_eq_true] at holds
      exact ⟨sound, holds.2.1, trivial⟩
  | others firstEnds =>
      simp only [Condition.inTask, Condition.inStatement, Bool.and_eq_true] at holds
      have firstMeets := ends _ .first ⟨sound, holds.2.1, trivial⟩
      exact ⟨(firstMeets.of_ok firstEnds).1, holds.2.2.1, trivial⟩
  | otherwise firstEnds othersEnd =>
      simp only [Condition.inTask, Condition.inStatement, Bool.and_eq_true] at holds
      have firstMeets := ends _ .first ⟨sound, holds.2.1, trivial⟩
      have othersMeet := ends _ (.others firstEnds)
        ⟨(firstMeets.of_ok firstEnds).1, holds.2.2.1, trivial⟩
      exact ⟨(othersMeet.of_ok othersEnd).1, holds.2.2.2, trivial⟩
  | moreRounds roundEnds =>
      have roundMeets := ends _ .round ⟨sound, holds, trivial⟩
      exact ⟨(roundMeets.of_ok roundEnds).1, holds, trivial⟩
  | statement =>
      simp only [Condition.inTask, Condition.inStatements, Bool.and_eq_true] at holds
      exact ⟨sound, holds.1, trivial⟩
  | moreStatements statementEnds =>
      simp only [Condition.inTask, Condition.inStatements, Bool.and_eq_true] at holds
      have statementMeets := ends _ .statement ⟨sound, holds.1, trivial⟩
      exact ⟨(statementMeets.of_ok statementEnds).1, holds.2, trivial⟩
  | guard =>
      simp only [Condition.inTask, Condition.inBranch, Bool.and_eq_true] at holds
      exact ⟨sound, holds.1, trivial⟩
  | guarded guardEnds passes =>
      simp only [Condition.inTask, Condition.inBranch, Bool.and_eq_true] at holds
      have guardMeets := ends _ .guard ⟨sound, holds.1, trivial⟩
      exact ⟨contract.sound_block (guardMeets.of_ok guardEnds).1, holds.2, trivial⟩
  | branch =>
      simp only [Condition.inTask, Condition.inBranches, Bool.and_eq_true] at holds
      exact ⟨sound, holds.1, trivial⟩
  | moreBranches branchEnds =>
      simp only [Condition.inTask, Condition.inBranches, Bool.and_eq_true] at holds
      have branchMeets := ends _ .branch ⟨sound, holds.1, trivial⟩
      exact ⟨(branchMeets.of_ok branchEnds).1, holds.2, trivial⟩
  | otherwiseBody => exact ⟨contract.sound_block sound, holds, trivial⟩
  | top =>
      simp only [Condition.inTask, Condition.inStatements, Bool.and_eq_true] at holds
      exact ⟨sound, holds.1, trivial⟩
  | moreTop statementEnds =>
      simp only [Condition.inTask, Condition.inStatements, Bool.and_eq_true] at holds
      have statementMeets := ends _ .top ⟨sound, holds.1, trivial⟩
      exact ⟨(statementMeets.of_ok statementEnds).1, holds.2, trivial⟩

/-! ### Expressions -/

theorem reassigned_stored
    {name : String} {type : DataType} {position valuePosition : Position}
    {literal stored : Literal} (proper : Proper type) (good : Good literal)
    (accepted : reassignedValue name type position valuePosition literal = .ok stored) :
    Stored Good Proper stored := by
  refine ⟨?_, (type_of_reassignedValue accepted).symm ▸ proper⟩
  unfold reassignedValue at accepted
  split at accepted
  · cases accepted
    exact good
  · split at accepted
    · cases casted : literal.cast type with
      | error cause =>
          rw [casted] at accepted
          cases accepted
      | ok value =>
          rw [casted] at accepted
          cases accepted
          exact contract.cast good proper casted
    · cases accepted

/-- A value that is accepted is stored, and it is then the value of the whole. -/
theorem store_meets
    {position : Position} {result : Except RuntimeError Literal} {store : Literal → Change}
    (sound : contract.Sound machine.environment)
    (accepts : ∀ value, result = .ok value → Stored Good Proper value)
    (declares : ∀ value routine, store value ≠ .declared routine)
    (keeps : ∀ value after, Stored Good Proper value →
      (store value).apply machine.environment = .ok after → Kept after) :
    Meets contract.Sound Good
      ((do
        let value ← Run.ofResult result
        Run.perform position (store value)
        return value : Run κ Literal) machine) := by
  cases result with
  | error error => exact .fail error.cause error.position sound
  | ok value =>
      have stored := accepts value rfl
      change Meets _ _ ((Run.perform position (store value) >>= fun _ => pure value) machine)
      refine Meets.bind (Meets.perform sound ?_) fun _ _ _ soundAfter _ =>
        .pure soundAfter stored.1
      intro after applied
      refine ⟨keeps value after stored applied, sound.admits.of_apply ?_ applied⟩
      intro routine isDeclared
      exact absurd isDeclared (declares value routine)

theorem expression_ends
    {value : Expression} (ready : contract.Ready ⟨fuel, .expression value, machine⟩)
    (steps : ∀ next, Step ⟨fuel, .expression value, machine⟩ next → contract.Ends next) :
    Meets contract.Sound Good (evaluate (bodyRunner fuel) value machine) := by
  cases value with
  | literal _ value =>
      simp only [evaluate]
      exact .pure ready.sound (contract.literal ready.holds)
  | «variable» position subject =>
      simp only [evaluate]
      exact .ofResultAt ready.sound fun value found =>
        (contract.lookup ready.sound.kept found).1
  | declare position subject type value =>
      have holds := ready.holds
      simp only [Condition.inTask, Condition.inExpression, Bool.and_eq_true] at holds
      have proper := contract.named holds.1 rfl
      simp only [evaluate]
      apply Meets.bind (steps _ .declared)
      intro literal middle _ sound good
      exact contract.store_meets sound (fun _ => .of_declaredValue proper good) nofun
        fun _ _ => contract.define sound.kept
  | reassign position name value =>
      simp only [evaluate]
      cases found : machine.environment.lookup ⟨true, name⟩ with
      | error cause =>
          rw [Run.ask_bind_of_error found]
          exact ⟨ready.sound, nofun⟩
      | ok old =>
          rw [Run.ask_bind_of_ok found]
          have proper := (contract.lookup ready.sound.kept found).2
          apply Meets.bind (steps _ (.reassigned found))
          intro literal middle _ sound good
          exact contract.store_meets sound (fun _ => contract.reassigned_stored proper good) nofun
            fun _ _ => contract.assign sound.kept
  | grouping _ inner =>
      simp only [evaluate]
      exact steps _ .grouped
  | unary position operator operand =>
      simp only [evaluate]
      apply Meets.bind (steps _ .operand)
      intro literal middle _ sound good
      exact .ofResultAt sound fun _ => contract.unary good
  | binary _ operator operatorPosition left right =>
      simp only [evaluate]
      apply Meets.bind (steps _ .leftOperand)
      intro first middle leftEnds _ firstGood
      apply Meets.bind (steps _ (.rightOperand leftEnds))
      intro second after _ sound secondGood
      exact .ofResult sound fun _ => contract.binary firstGood secondGood
  | cast position type inner =>
      have holds := ready.holds
      simp only [Condition.inTask, Condition.inExpression, Bool.and_eq_true] at holds
      have proper := contract.named holds.1 rfl
      simp only [evaluate]
      apply Meets.bind (steps _ .casted)
      intro literal middle _ sound good
      exact .ofResultAt sound fun _ => contract.cast good proper
  | input position type prompt =>
      have proper := contract.named ready.holds rfl
      simp only [evaluate]
      apply Meets.bind (Meets.read position (promptText prompt) ready.sound)
      intro line middle _ sound _
      exact .ofResultAt sound fun _ => contract.line proper
  | call position label values =>
      simp only [evaluate]
      cases found : machine.environment.routine label with
      | error cause =>
          rw [Run.ask_bind_of_error found]
          exact ⟨ready.sound, nofun⟩
      | ok routine =>
          rw [Run.ask_bind_of_ok found]
          split
          · next fits =>
              apply Meets.bind (steps _ (.arguments found fits))
              intro context middle argumentsEnd sound _
              exact contract.enter_meets sound fun entered push =>
                steps _ (.called found fits argumentsEnd push)
          · exact .fail _ _ ready.sound

theorem arguments_end
    {values : List Expression} {parameters : List Parameter} {context : Context}
    (ready : contract.Ready ⟨fuel, .arguments values parameters context, machine⟩)
    (steps : ∀ next, Step ⟨fuel, .arguments values parameters context, machine⟩ next →
      contract.Ends next) :
    Meets contract.Sound (Bindings.Every (Stored Good Proper))
      (evaluateArguments (bodyRunner fuel) values parameters context machine) := by
  cases values with
  | nil =>
      simp only [evaluateArguments]
      exact .pure ready.sound ready.prepared.2
  | cons value values =>
      cases parameters with
      | nil =>
          simp only [evaluateArguments]
          exact .pure ready.sound ready.prepared.2
      | cons parameter parameters =>
          simp only [evaluateArguments]
          apply Meets.bind (steps _ .argument)
          intro literal middle valueEnds sound _
          split
          · next typed => exact steps _ (.moreArguments valueEnds typed)
          · exact .fail _ _ sound

/-! ### Statements -/

theorem statement_ends
    {single : Statement} (ready : contract.Ready ⟨fuel, .statement single, machine⟩)
    (steps : ∀ next, Step ⟨fuel, .statement single, machine⟩ next → contract.Ends next) :
    Meets contract.Sound (Flow.Gives Good)
      (execute (bodyRunner fuel) fuel single machine) := by
  cases single with
  | expression _ value =>
      simp only [execute]
      exact Meets.bind (steps _ .effect) fun _ _ _ sound _ => .pure sound Flow.gives_next
  | print position value =>
      simp only [execute]
      apply Meets.bind (steps _ .printed)
      intro literal middle _ sound _
      split
      · exact .fail _ _ sound
      · exact Meets.bind (Meets.print _ _ sound) fun _ _ _ soundAfter _ =>
          .pure soundAfter Flow.gives_next
  | block _ body =>
      simp only [execute]
      exact contract.block_meets ready.sound (steps _ .block)
  | condition _ first others otherwise =>
      simp only [execute]
      apply Meets.bind (steps _ .first)
      intro chosen middle firstEnds sound gives
      cases chosen with
      | some flow => exact .pure sound (gives flow rfl)
      | none =>
          apply Meets.bind (steps _ (.others firstEnds))
          intro chosen after othersEnd soundAfter gives
          cases chosen with
          | some flow => exact .pure soundAfter (gives flow rfl)
          | none => exact steps _ (.otherwise firstEnds othersEnd)
  | routine position label parameters returnType body =>
      have holds := ready.holds
      simp only [Condition.inTask, Condition.inStatement, Bool.and_eq_true] at holds
      simp only [execute]
      refine Meets.bind (Meets.perform ready.sound ?_) fun _ _ _ sound _ => .pure sound Flow.gives_next
      intro after declared
      refine ⟨contract.declare ready.sound.kept declared, ready.sound.admits.of_apply ?_ declared⟩
      intro routine isDeclared
      cases isDeclared
      exact ⟨⟨position, holds.1⟩, holds.2⟩
  | giveBack _ given =>
      cases given with
      | none =>
          simp only [execute]
          exact .pure ready.sound Flow.gives_giveBack
      | some value =>
          simp only [execute]
          apply Meets.bind (steps _ .givenBack)
          intro literal middle _ sound good
          refine .pure sound ?_
          intro given isGiven
          split at isGiven
          · cases isGiven
          · next nonvoid =>
              cases isGiven
              exact ⟨good, by simpa [Literal.isVoid] using nonvoid⟩
  | loop position body =>
      simp only [execute]
      exact steps _ .loop
  | leave _ =>
      simp only [execute]
      exact .pure ready.sound Flow.gives_leave

theorem statements_end
    {body : List Statement} (ready : contract.Ready ⟨fuel, .statements body, machine⟩)
    (steps : ∀ next, Step ⟨fuel, .statements body, machine⟩ next →
      contract.Ends next) :
    Meets contract.Sound (Flow.Gives Good)
      (executeAll (bodyRunner fuel) fuel body machine) := by
  cases body with
  | nil =>
      simp only [executeAll]
      exact .pure ready.sound Flow.gives_next
  | cons statement rest =>
      simp only [executeAll]
      apply Meets.bind (steps _ .statement)
      intro flow middle statementEnds sound gives
      cases flow with
      | next => exact steps _ (.moreStatements statementEnds)
      | giveBack | leave | value literal => exact .pure sound gives

theorem branch_ends
    {guarded : Branch} (ready : contract.Ready ⟨fuel, .branch guarded, machine⟩)
    (steps : ∀ next, Step ⟨fuel, .branch guarded, machine⟩ next → contract.Ends next) :
    Meets contract.Sound (fun chosen => ∀ flow, chosen = some flow → flow.Gives Good)
      (executeBranch (bodyRunner fuel) fuel guarded machine) := by
  obtain ⟨position, guard, body⟩ := guarded
  simp only [executeBranch]
  apply Meets.bind (steps _ .guard)
  intro literal middle guardEnds sound _
  split
  · next passes =>
      apply Meets.bind (contract.block_meets sound (steps _ (.guarded guardEnds passes)))
      intro flow after _ soundAfter gives
      refine .pure soundAfter ?_
      intro chosen isChosen
      cases isChosen
      exact gives
  · exact .pure sound nofun

theorem branches_end
    {guarded : List Branch} (ready : contract.Ready ⟨fuel, .branches guarded, machine⟩)
    (steps : ∀ next, Step ⟨fuel, .branches guarded, machine⟩ next → contract.Ends next) :
    Meets contract.Sound (fun chosen => ∀ flow, chosen = some flow → flow.Gives Good)
      (executeBranches (bodyRunner fuel) fuel guarded machine) := by
  cases guarded with
  | nil =>
      simp only [executeBranches]
      exact .pure ready.sound nofun
  | cons branch rest =>
      simp only [executeBranches]
      apply Meets.bind (steps _ .branch)
      intro chosen middle branchEnds sound gives
      cases chosen with
      | some flow => exact .pure sound gives
      | none => exact steps _ (.moreBranches branchEnds)

theorem otherwise_ends
    {body : Option (List Statement)} (ready : contract.Ready ⟨fuel, .otherwise body, machine⟩)
    (steps : ∀ next, Step ⟨fuel, .otherwise body, machine⟩ next → contract.Ends next) :
    Meets contract.Sound (Flow.Gives Good)
      (executeOtherwise (bodyRunner fuel) fuel body machine) := by
  cases body with
  | none =>
      simp only [executeOtherwise]
      exact .pure ready.sound Flow.gives_next
  | some body =>
      simp only [executeOtherwise]
      exact contract.block_meets ready.sound (steps _ .otherwiseBody)

theorem rounds_end
    {position : Position} {body : List Statement} {count : Nat}
    (ready : contract.Ready ⟨fuel, .rounds position body count, machine⟩)
    (steps : ∀ next, Step ⟨fuel, .rounds position body count, machine⟩ next →
      contract.Ends next) :
    Meets contract.Sound (Flow.Gives Good)
      (repeatBody position (executeAll (bodyRunner fuel) fuel body) count machine) := by
  cases count with
  | zero => exact .exhausted ready.sound
  | succ count =>
      rw [repeatBody_succ]
      apply Meets.bind (steps _ .round)
      intro flow middle roundEnds sound _
      cases flow with
      | next => exact steps _ (.moreRounds roundEnds)
      | giveBack => exact .pure sound Flow.gives_giveBack
      | leave => exact .pure sound Flow.gives_next
      | value literal => exact .fail _ _ sound

theorem zoop_ends
    {body : List Statement} (ready : contract.Ready ⟨fuel, .zoop body, machine⟩)
    (steps : ∀ next, Step ⟨fuel, .zoop body, machine⟩ next → contract.Ends next) :
    Meets contract.Sound (Flow.Gives Good) (bodyRunner fuel body machine) := by
  cases fuel with
  | zero => exact .exhausted ready.sound
  | succ fuel => exact steps _ .zoop

theorem program_ends
    {statements : List Statement} (ready : contract.Ready ⟨fuel, .program statements, machine⟩)
    (steps : ∀ next, Step ⟨fuel, .program statements, machine⟩ next → contract.Ends next) :
    Meets contract.Sound (fun _ => True) (runStatements fuel statements machine) := by
  cases statements with
  | nil =>
      simp only [runStatements]
      exact .pure ready.sound trivial
  | cons statement rest =>
      simp only [runStatements]
      exact Meets.bind (steps _ .top) fun _ _ statementEnds _ _ => steps _ (.moreTop statementEnds)

/-! ### All points -/

/-- A point ends as it should if all its steps do. -/
theorem ends_of_steps
    {point : Point κ} (ready : contract.Ready point)
    (steps : ∀ next, Step point next → contract.Ends next) : contract.Ends point := by
  obtain ⟨fuel, task, machine⟩ := point
  cases task with
  | expression value => exact contract.expression_ends ready steps
  | arguments values parameters context => exact contract.arguments_end ready steps
  | statement single => exact contract.statement_ends ready steps
  | statements body => exact contract.statements_end ready steps
  | branch guarded => exact contract.branch_ends ready steps
  | branches guarded => exact contract.branches_end ready steps
  | otherwise body => exact contract.otherwise_ends ready steps
  | rounds position body count => exact contract.rounds_end ready steps
  | zoop body => exact contract.zoop_ends ready steps
  | program statements => exact contract.program_ends ready steps

theorem ends {point : Point κ} : contract.Ready point → contract.Ends point := by
  induction point using Step.induction with
  | ofSteps point inductionHypothesis =>
      intro ready
      apply contract.ends_of_steps ready
      intro next step
      -- what is run before the step is itself a step of the point, so it ends as it should
      have readyNext := contract.ready_of_step ready inductionHypothesis step
      exact inductionHypothesis next step readyNext

theorem ready_of_visits
    {start point : Point κ} (visits : Visits start point) (ready : contract.Ready start) :
    contract.Ready point := by
  apply visits.keeps ?_ ready
  intro here next readyHere step
  exact contract.ready_of_step readyHere (fun _ _ => contract.ends) step

/-! ### Programs in turn -/

theorem sound_of_runInTurn
    {programs : List Program} (holds : ∀ program ∈ programs, condition.inProgram program = true)
    (initial : Kept .initial) (console : κ) :
    contract.Sound (Program.runInTurn fuel programs (Machine.start console)).environment := by
  apply Program.runInTurn_keeps fun machine => contract.Sound machine.environment
  · intro program member machine sound
    have ready : contract.Ready ⟨fuel, .program program.statements, machine⟩ :=
      ⟨sound, holds program member, trivial⟩
    exact (contract.ends ready).kept
  · exact ⟨initial, condition.admitsAll_initial⟩

/-- Every point of programs in turn starts and ends as the contract says. -/
theorem of_visited
    {programs : List Program} {console : κ} {point : Point κ}
    (holds : ∀ program ∈ programs, condition.inProgram program = true) (initial : Kept .initial)
    (visited : Program.Visited fuel programs console point) :
    contract.Ready point ∧ contract.Ends point := by
  obtain ⟨earlier, program, later, split, visits⟩ := visited
  have earlierHold : ∀ other ∈ earlier, condition.inProgram other = true := by
    intro other member
    apply holds
    rw [split]
    exact List.mem_append_left _ member
  have programHolds : condition.inProgram program = true := by
    apply holds
    rw [split]
    exact List.mem_append_right earlier List.mem_cons_self
  have sound : contract.Sound (Program.runInTurn fuel earlier (Machine.start console)).environment :=
    contract.sound_of_runInTurn earlierHold initial console
  have ready := contract.ready_of_visits visits ⟨sound, programHolds, trivial⟩
  exact ⟨ready, contract.ends ready⟩

end Contract

end Zoop
