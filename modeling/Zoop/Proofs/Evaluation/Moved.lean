import Zoop.Proofs.Evaluation.Transcript
import Zoop.Proofs.Program.Moved

/-!
# Runs of moved programs

A run makes no use of the places of its program other than to say where an error is.  A program that
is moved therefore runs as before: its errors are moved with it, and so are the bodies of the zoops
that it declares.

A console must not take note of changes here, since a zoop that is declared brings its places along.
-/

namespace Zoop

open Evaluation

-- the theorems on expressions and statements are mutual, and not each of them uses all it shares
set_option linter.unusedSectionVars false

/-! ## Errors and environments -/

section Places

variable (place : Position → Position)

/-- An error at its other place. -/
def RuntimeError.moved (error : RuntimeError) : RuntimeError :=
  { error with position := place error.position }

/-- An outcome with its error at its other place. -/
def Outcome.moved {α : Type} : Outcome RuntimeError α → Outcome RuntimeError α
  | .ok value => .ok value
  | .error cause => .error (cause.moved place)
  | .fault => .fault
  | .outOfFuel => .outOfFuel

def Stop.moved : Stop → Stop
  | .error cause => .error (cause.moved place)
  | .fault => .fault
  | .outOfFuel => .outOfFuel

theorem Stop.moved_outcome {α : Type} (stop : Stop) :
    (stop.outcome : Outcome RuntimeError α).moved place = (stop.moved place).outcome := by
  cases stop <;> rfl

def Routine.moved (routine : Routine) : Routine :=
  { routine with body := Statement.movedAll place routine.body }

def Environment.moved (environment : Environment) : Environment :=
  { environment with routines := environment.routines.map (Routine.moved place) }

def Machine.moved {κ : Type} (machine : Machine κ) : Machine κ :=
  { machine with environment := machine.environment.moved place }

/-- A change with the zoop that it declares, if any, at its other place. -/
def Change.moved : Change → Change
  | .declared routine => .declared (routine.moved place)
  | change => change

def Operand.moved (operand : Operand) : Operand :=
  { operand with position := place operand.position }

variable (environment : Environment)

theorem Environment.findRoutine?_moved (label : String) :
    (environment.moved place).findRoutine? label =
      (environment.findRoutine? label).map (Routine.moved place) := by
  simp only [findRoutine?, moved, List.find?_map]
  rfl

theorem Environment.routine_moved (label : String) :
    (environment.moved place).routine label =
      (environment.routine label).map (Routine.moved place) := by
  simp only [routine, findRoutine?_moved]
  cases environment.findRoutine? label <;> rfl

theorem Environment.popScope_moved :
    (environment.moved place).popScope = environment.popScope.moved place := by
  obtain ⟨current, outer, routines, contexts⟩ := environment
  cases outer <;> rfl

theorem Environment.pushContext_moved (context : Context) :
    (environment.moved place).pushContext context =
      (environment.pushContext context).map (Environment.moved place) := by
  simp only [pushContext, moved]
  cases environment.contexts.push? context <;> rfl

theorem Environment.define_moved (subject : Variable) (value : Literal) :
    (environment.moved place).define subject value =
      (environment.define subject value).map (Environment.moved place) := by
  unfold define
  rw [apply_ite (Except.map (moved place)), apply_ite (Except.map (moved place))]
  rfl

theorem Environment.assign_moved (name : String) (value : Literal) :
    (environment.moved place).assign name value =
      (environment.assign name value).map (Environment.moved place) := by
  have sameScopes : (environment.moved place).scopes = environment.scopes := rfl
  simp only [assign, sameScopes]
  cases assignNearest? name value environment.scopes with
  | none => rfl
  | some scopes => cases scopes <;> rfl

theorem Environment.declareRoutine_moved (routine : Routine) :
    (environment.moved place).declareRoutine (routine.moved place) =
      (environment.declareRoutine routine).map (Environment.moved place) := by
  have sameLabel : (routine.moved place).label = routine.label := rfl
  simp only [declareRoutine, sameLabel, findRoutine?_moved]
  cases environment.findRoutine? routine.label <;> rfl

/-- A moved change does to a moved environment what the change does to the environment. -/
theorem Change.apply_moved (change : Change) :
    (change.moved place).apply (environment.moved place) =
      (change.apply environment).map (Environment.moved place) := by
  cases change with
  | opened kind => rfl
  | closed =>
      simp only [apply, moved, Environment.popScope_moved]
      rfl
  | defined subject type value => exact Environment.define_moved place environment subject value
  | assigned name type value => exact Environment.assign_moved place environment name value
  | declared routine => exact Environment.declareRoutine_moved place environment routine
  | entered context => exact Environment.pushContext_moved place environment context
  | left => rfl

end Places

/-! ## Results -/

section Results

variable (place : Position → Position)

namespace Operation

variable (operator : BinaryOperator) (left right : Operand) (position : Position)

theorem numbers_moved :
    numbers operator (left.moved place) (right.moved place) =
      (numbers operator left right).mapError (RuntimeError.moved place) := by
  simp only [numbers, Operand.moved]
  cases left.literal.value.number? <;> cases right.literal.value.number? <;> rfl

theorem truths_moved :
    truths operator (left.moved place) (right.moved place) =
      (truths operator left right).mapError (RuntimeError.moved place) := by
  simp only [truths, Operand.moved]
  cases left.literal.value.boolean? <;> cases right.literal.value.boolean? <;> rfl

theorem arithmetic_moved (compute : Number → Number → Number) :
    arithmetic operator compute (left.moved place) (right.moved place) (place position) =
      (arithmetic operator compute left right position).mapError (RuntimeError.moved place) := by
  simp only [arithmetic, numbers_moved]
  cases numbers operator left right with
  | error error => rfl
  | ok pair =>
      -- the operand types, the operator and the divisor choose the same case on both sides
      change ite _ _ _ = Except.mapError _ (ite _ _ _)
      rw [apply_ite (Except.mapError (RuntimeError.moved place)),
        apply_ite (Except.mapError (RuntimeError.moved place)),
        apply_ite (Except.mapError (RuntimeError.moved place))]
      rfl

theorem comparison_moved (test : Number → Number → Bool) :
    comparison operator test (left.moved place) (right.moved place) =
      (comparison operator test left right).mapError (RuntimeError.moved place) := by
  simp only [comparison, numbers_moved]
  cases numbers operator left right <;> rfl

theorem logic_moved (connect : Bool → Bool → Bool) :
    logic operator connect (left.moved place) (right.moved place) =
      (logic operator connect left right).mapError (RuntimeError.moved place) := by
  simp only [logic, truths_moved]
  cases truths operator left right <;> rfl

theorem equality_moved (expected : Bool) :
    equality expected (left.moved place) (right.moved place) (place position) =
      (equality expected left right position).mapError (RuntimeError.moved place) := by
  unfold equality
  rw [apply_ite (Except.mapError (RuntimeError.moved place))]
  rfl

theorem concat_moved :
    concat (left.moved place) (right.moved place) =
      (concat left right).mapError (RuntimeError.moved place) := by
  unfold concat
  rw [apply_ite (Except.mapError (RuntimeError.moved place)),
    apply_ite (Except.mapError (RuntimeError.moved place))]
  rfl

/-- An operator between moved operands gives the same value, or the same error at its other place. -/
theorem binary_moved :
    binary operator (left.moved place) (right.moved place) (place position) =
      (binary operator left right position).mapError (RuntimeError.moved place) := by
  cases operator with
  | concat => exact concat_moved place left right
  | add | sub | mul | div => exact arithmetic_moved place _ left right position _
  | and | or => exact logic_moved place _ left right _
  | equal | notEqual => exact equality_moved place left right position _
  | less => exact comparison_moved place .less left right Number.lt
  | lessOrEqual => exact comparison_moved place .lessOrEqual left right Number.le
  | greater =>
      exact comparison_moved place .greater left right fun first second => second.lt first
  | greaterOrEqual =>
      exact comparison_moved place .greaterOrEqual left right fun first second => second.le first

end Operation

namespace Evaluation

theorem declaredValue_moved
    (subject : Variable) (type : DataType) (position : Position) (literal : Literal) :
    declaredValue subject type (place position) literal =
      (declaredValue subject type position literal).mapError (RuntimeError.moved place) := by
  unfold declaredValue
  split <;> rfl

theorem reassignedValue_moved
    (name : String) (type : DataType) (position valuePosition : Position) (literal : Literal) :
    reassignedValue name type (place position) (place valuePosition) literal =
      (reassignedValue name type position valuePosition literal).mapError
        (RuntimeError.moved place) := by
  unfold reassignedValue
  split
  · rfl
  · split
    · cases literal.cast type <;> rfl
    · rfl

end Evaluation

end Results

/-! ## Runs -/

/-- From a moved machine a run does what another run does from the machine itself. -/
def Run.Moves {κ α : Type} (place : Position → Position) (old new : Run κ α) : Prop :=
  ∀ machine, new (machine.moved place) = ((old machine).1.moved place, (old machine).2.moved place)

namespace Run.Moves

variable {κ α β : Type} {place : Position → Position}

theorem value (value : α) : (pure value : Run κ α).Moves place (pure value) :=
  fun _ => rfl

theorem failure (cause : RuntimeCause) (position : Position) :
    (Run.fail cause position : Run κ α).Moves place (Run.fail cause (place position)) :=
  fun _ => rfl

theorem fault : (Run.fault : Run κ α).Moves place Run.fault :=
  fun _ => rfl

theorem exhausted : (Run.exhausted : Run κ α).Moves place Run.exhausted :=
  fun _ => rfl

theorem andThen
    {old new : Run κ α} {oldNext newNext : α → Run κ β}
    (first : old.Moves place new)
    (next : ∀ value, (oldNext value).Moves place (newNext value)) :
    (old >>= oldNext).Moves place (new >>= newNext) := by
  intro machine
  have firstSame := first machine
  apply Run.bind_cases fun result =>
    (new >>= newNext) (machine.moved place) = (result.1.moved place, result.2.moved place)
  · intro value after ends
    rw [ends] at firstSame
    rw [Run.bind_of_ok firstSame]
    exact next value after
  · intro stop after ends
    rw [ends] at firstSame
    dsimp only at firstSame ⊢
    rw [Stop.moved_outcome] at firstSame ⊢
    exact Run.bind_of_stop firstSame

theorem result (result : Except RuntimeError α) :
    (Run.ofResult result : Run κ α).Moves place
      (Run.ofResult (result.mapError (RuntimeError.moved place))) := by
  intro machine
  cases result <;> rfl

theorem resultAt (position : Position) (result : Except RuntimeCause α) :
    (Run.ofResultAt position result : Run κ α).Moves place
      (Run.ofResultAt (place position) result) := by
  intro machine
  cases result <;> rfl

theorem lookup (position : Position) (subject : Variable) :
    (Run.ask position fun environment => environment.lookup subject : Run κ Literal).Moves place
      (Run.ask (place position) fun environment => environment.lookup subject) := by
  intro machine
  exact resultAt position (machine.environment.lookup subject) machine

/-- The zoop that is found has moved as well. -/
theorem routine
    {oldNext newNext : Routine → Run κ α} (position : Position) (label : String)
    (next : ∀ routine, (oldNext routine).Moves place (newNext (routine.moved place))) :
    (Run.ask position (fun environment => environment.routine label) >>= oldNext).Moves place
      (Run.ask (place position) (fun environment => environment.routine label) >>= newNext) := by
  intro machine
  have moved := Environment.routine_moved place machine.environment label
  cases found : machine.environment.routine label with
  | error cause =>
      rw [found] at moved
      rw [Run.ask_bind_of_error moved, Run.ask_bind_of_error found]
      rfl
  | ok routine =>
      rw [found] at moved
      rw [Run.ask_bind_of_ok moved, Run.ask_bind_of_ok found]
      exact next routine machine

variable [Console κ]

theorem print (position : Position) (line : String) :
    (Run.print position line : Run κ Unit).Moves place (Run.print (place position) line) := by
  intro machine
  simp only [Run.print, Machine.moved]
  split <;> rfl

theorem read (position : Position) (prompt : String) :
    (Run.read position prompt : Run κ String).Moves place (Run.read (place position) prompt) := by
  intro machine
  simp only [Run.read, Machine.moved]
  split <;> rfl

variable (silent : Console.Silent κ)

include silent

theorem perform (position : Position) (change : Change) :
    (Run.perform position change : Run κ Unit).Moves place
      (Run.perform (place position) (change.moved place)) := by
  intro machine
  have applied := Change.apply_moved place machine.environment change
  simp only [Run.perform, Machine.moved, applied, Machine.became_of_silent silent]
  cases change.apply machine.environment <;> rfl

theorem inScope {old new : Run κ α} (kind : ScopeKind) (inside : old.Moves place new) :
    (Run.inScope kind old).Moves place (Run.inScope kind new) := by
  intro machine
  have insideSame :
      new ⟨(machine.moved place).environment.pushScope kind, (machine.moved place).console⟩ = _ :=
    inside ⟨machine.environment.pushScope kind, machine.console⟩
  simp only [Run.inScope, Machine.became_of_silent silent]
  rw [insideSame]
  simp only [Machine.moved, Environment.popScope_moved]

theorem inContext
    {old new : Run κ α} (position : Position) (context : Context)
    (inside : old.Moves place new) :
    (Run.inContext position context old).Moves place
      (Run.inContext (place position) context new) := by
  intro machine
  have pushed :
      (machine.moved place).environment.pushContext context =
        (machine.environment.pushContext context).map (Environment.moved place) :=
    Environment.pushContext_moved place machine.environment context
  simp only [Run.inContext, Machine.became_of_silent silent]
  rw [pushed]
  cases machine.environment.pushContext context with
  | error cause => rfl
  | ok entered =>
      have insideSame : new ⟨entered.moved place, (machine.moved place).console⟩ = _ :=
        inside ⟨entered, machine.console⟩
      simp only [Except.map]
      rw [insideSame]
      rfl

end Run.Moves

/-! ## Expressions -/

section Expressions

open Run.Moves

variable
    {κ : Type} [Console κ] {place : Position → Position} {old new : BodyRunner κ}

/-- The runs of moved bodies do what the runs of the bodies do. -/
def BodiesMove (place : Position → Position) (old new : BodyRunner κ) : Prop :=
  ∀ body, (old body).Moves place (new (Statement.movedAll place body))

variable (silent : Console.Silent κ) (bodies : BodiesMove place old new)

omit [Console κ] in
theorem callResult_moves (position : Position) (routine : Routine) (flow : Flow) :
    (callResult position routine flow : Run κ Literal).Moves place
      (callResult (place position) (routine.moved place) flow) := by
  cases flow with
  | next => exact value Literal.void
  | giveBack => exact value Literal.void
  | leave => exact fault
  | value literal =>
      simp only [callResult, show (routine.moved place).resultType = routine.resultType from rfl]
      split
      · exact value literal
      · exact failure _ position

include silent bodies

theorem enter_moves (position : Position) (routine : Routine) (context : Context) :
    (enter old position routine context).Moves place
      (enter new (place position) (routine.moved place) context) := by
  unfold enter
  apply andThen
  · exact inContext silent position context (inScope silent .routineBody (bodies routine.body))
  · intro flow
    exact callResult_moves position routine flow

mutual

/-- A moved expression has the same value. -/
theorem evaluate_moves :
    ∀ expression,
      (evaluate old expression).Moves place (evaluate new (expression.moved place))
  | .literal _ literal => by
      simp only [Expression.moved, evaluate]
      exact value literal
  | .variable position subject => by
      simp only [Expression.moved, evaluate]
      exact lookup position subject
  | .declare position subject type inner => by
      simp only [Expression.moved, evaluate, Expression.position_moved]
      apply andThen (evaluate_moves inner)
      intro literal
      rw [declaredValue_moved]
      apply andThen (result _)
      intro stored
      exact andThen (perform silent position _) fun _ => value stored
  | .reassign position name inner => by
      simp only [Expression.moved, evaluate, Expression.position_moved]
      apply andThen (lookup position _)
      intro previous
      apply andThen (evaluate_moves inner)
      intro literal
      rw [reassignedValue_moved]
      apply andThen (result _)
      intro stored
      exact andThen (perform silent position _) fun _ => value stored
  | .grouping _ inner => by
      simp only [Expression.moved, evaluate]
      exact evaluate_moves inner
  | .unary position operator operand => by
      simp only [Expression.moved, evaluate]
      exact andThen (evaluate_moves operand) fun literal => resultAt position _
  | .binary _ operator operatorPosition left right => by
      simp only [Expression.moved, evaluate, Expression.position_moved]
      apply andThen (evaluate_moves left)
      intro first
      apply andThen (evaluate_moves right)
      intro second
      have moved :=
        Operation.binary_moved place operator ⟨first, left.position⟩ ⟨second, right.position⟩
          operatorPosition
      simp only [Operand.moved] at moved
      rw [moved]
      exact result _
  | .cast position type inner => by
      simp only [Expression.moved, evaluate]
      exact andThen (evaluate_moves inner) fun literal => resultAt position _
  | .input position type prompt => by
      simp only [Expression.moved, evaluate]
      exact andThen (read position _) fun line => resultAt position _
  | .call position label arguments => by
      simp only [Expression.moved, evaluate, Expression.length_movedAll]
      apply routine
      intro routine
      have sameArity : (routine.moved place).arity = routine.arity := rfl
      have sameParameters : (routine.moved place).parameters = routine.parameters := rfl
      rw [sameArity, sameParameters]
      split
      · apply andThen (evaluateArguments_moves arguments routine.parameters .empty)
        intro context
        exact enter_moves silent bodies position routine context
      · exact failure _ position

theorem evaluateArguments_moves :
    ∀ arguments parameters context,
      (evaluateArguments old arguments parameters context).Moves place
        (evaluateArguments new (Expression.movedAll place arguments) parameters context)
  | [], _, context => by
      simp only [Expression.movedAll, evaluateArguments]
      exact value context
  | _ :: _, [], context => by
      simp only [Expression.movedAll, evaluateArguments]
      exact value context
  | argument :: arguments, parameter :: parameters, context => by
      simp only [Expression.movedAll, evaluateArguments, Expression.position_moved]
      apply andThen (evaluate_moves argument)
      intro literal
      split
      · exact evaluateArguments_moves arguments parameters _
      · exact failure _ argument.position

end

end Expressions

/-! ## Statements -/

section Statements

open Run.Moves

variable {κ : Type} {place : Position → Position}

/-- A loop whose body is moved goes on and ends as before, round by round. -/
theorem repeatBody_moves
    {old new : Run κ Flow} (position : Position) (body : old.Moves place new) (fuel : Nat) :
    (repeatBody position old fuel).Moves place (repeatBody (place position) new fuel) := by
  induction fuel with
  | zero => exact exhausted
  | succ fuel inductionHypothesis =>
      rw [repeatBody_succ, repeatBody_succ]
      apply andThen body
      intro flow
      cases flow with
      | next => exact inductionHypothesis
      | giveBack => exact value Flow.giveBack
      | leave => exact value Flow.next
      | value literal => exact failure _ position

variable
    [Console κ] {old new : BodyRunner κ} (fuel : Nat)
    (silent : Console.Silent κ) (bodies : BodiesMove place old new)

include silent bodies

mutual

/-- A moved statement does the same. -/
theorem execute_moves :
    ∀ statement,
      (execute old fuel statement).Moves place (execute new fuel (statement.moved place))
  | .expression _ inner => by
      simp only [Statement.moved, execute]
      exact andThen (evaluate_moves silent bodies inner) fun _ => value Flow.next
  | .print position inner => by
      simp only [Statement.moved, execute]
      apply andThen (evaluate_moves silent bodies inner)
      intro literal
      split
      · exact failure _ position
      · exact andThen (print position _) fun _ => value Flow.next
  | .block _ body => by
      simp only [Statement.moved, execute]
      exact inScope silent .block (executeAll_moves body)
  | .condition _ first others otherwise => by
      simp only [Statement.moved, execute]
      apply andThen (executeBranch_moves first)
      intro chosen
      cases chosen with
      | some flow => exact value flow
      | none =>
          apply andThen (executeBranches_moves others)
          intro chosen
          cases chosen with
          | some flow => exact value flow
          | none => exact executeOtherwise_moves otherwise
  | .routine position label parameters returnType body => by
      simp only [Statement.moved, execute]
      exact andThen (perform silent position (.declared ⟨label, parameters, returnType, body⟩))
        fun _ => value Flow.next
  | .giveBack _ none => by
      simp only [Statement.moved, execute]
      exact value Flow.giveBack
  | .giveBack _ (some inner) => by
      simp only [Statement.moved, execute]
      exact andThen (evaluate_moves silent bodies inner) fun literal => value _
  | .loop position body => by
      simp only [Statement.moved, execute]
      exact repeatBody_moves position (executeAll_moves body) fuel
  | .leave _ => by
      simp only [Statement.moved, execute]
      exact value Flow.leave

theorem executeAll_moves :
    ∀ body,
      (executeAll old fuel body).Moves place (executeAll new fuel (Statement.movedAll place body))
  | [] => by
      simp only [Statement.movedAll, executeAll]
      exact value Flow.next
  | statement :: rest => by
      simp only [Statement.movedAll, executeAll]
      apply andThen (execute_moves statement)
      intro flow
      cases flow with
      | next => exact executeAll_moves rest
      | giveBack => exact value Flow.giveBack
      | leave => exact value Flow.leave
      | value literal => exact value (Flow.value literal)

theorem executeBranch_moves :
    ∀ branch,
      (executeBranch old fuel branch).Moves place
        (executeBranch new fuel (Statement.movedBranch place branch))
  | .mk _ guard body => by
      simp only [Statement.movedBranch, executeBranch]
      apply andThen (evaluate_moves silent bodies guard)
      intro literal
      split
      · exact andThen (inScope silent .block (executeAll_moves body))
          fun flow => value (some flow)
      · exact value none

theorem executeBranches_moves :
    ∀ branches,
      (executeBranches old fuel branches).Moves place
        (executeBranches new fuel (Statement.movedBranches place branches))
  | [] => by
      simp only [Statement.movedBranches, executeBranches]
      exact value none
  | branch :: rest => by
      simp only [Statement.movedBranches, executeBranches]
      apply andThen (executeBranch_moves branch)
      intro chosen
      cases chosen with
      | some flow => exact value (some flow)
      | none => exact executeBranches_moves rest

theorem executeOtherwise_moves :
    ∀ otherwise,
      (executeOtherwise old fuel otherwise).Moves place
        (executeOtherwise new fuel (Statement.movedOtherwise place otherwise))
  | none => by
      simp only [Statement.movedOtherwise, executeOtherwise]
      exact value Flow.next
  | some body => by
      simp only [Statement.movedOtherwise, executeOtherwise]
      exact inScope silent .block (executeAll_moves body)

end

end Statements

/-! ## Programs -/

section Programs

variable
    {κ : Type} [Console κ] (place : Position → Position) (fuel : Nat)
    (silent : Console.Silent κ)

include silent

theorem bodyRunner_moves :
    BodiesMove place (bodyRunner fuel : BodyRunner κ) (bodyRunner fuel) := by
  induction fuel with
  | zero => exact fun _ => Run.Moves.exhausted
  | succ fuel inductionHypothesis =>
      intro body
      exact executeAll_moves fuel silent inductionHypothesis body

theorem runStatements_moves :
    ∀ statements : List Statement,
      (runStatements fuel statements : Run κ Unit).Moves place
        (runStatements fuel (Statement.movedAll place statements))
  | [] => Run.Moves.value ()
  | statement :: rest => by
      simp only [Statement.movedAll, runStatements]
      exact Run.Moves.andThen
        (execute_moves fuel silent (bodyRunner_moves place fuel silent) statement)
        fun _ => runStatements_moves rest

/-- A moved program runs on a moved machine as the program runs on the machine: the console goes
through the same, and an error is the same at its other place. -/
theorem Program.runWith_moved (program : Program) (machine : Machine κ) :
    (program.moved place).runWith fuel (machine.moved place) =
      ((program.runWith fuel machine).1.moved place,
        (program.runWith fuel machine).2.moved place) :=
  runStatements_moves place fuel silent program.statements machine

end Programs

end Zoop
