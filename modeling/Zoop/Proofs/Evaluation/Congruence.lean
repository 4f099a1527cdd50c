import Zoop.Proofs.Evaluation.Run
import Zoop.Proofs.Program.Condition

/-!
# Congruences between runs

A program is run by a few effects that are put in sequence and in scopes.  A relation between runs, on
one console or on two, that passes from the parts of a sequence to the whole and holds of each effect
therefore holds of all expressions and all statements.  Which expressions and statements may occur is
limited by a condition; then only zoops that meet the condition are declared, and so only such zoops
are called.

What a relation has to say for itself about three constructs is left to each use: the call of a zoop,
the new value for a variable, and the loop.
-/

namespace Zoop

open Evaluation

-- the theorems on expressions and statements are mutual, and not each of them uses all it shares
set_option linter.unusedSectionVars false

variable {κ₁ κ₂ : Type} [Console κ₁] [Console κ₂]

/-- A relation between runs that holds of each effect and passes from the parts of a sequence, and of a
scope, to the whole. -/
structure Congruence
    (condition : Condition)
    (Related : (α : Type) → Run κ₁ α → Run κ₂ α → Prop) : Prop where
  value : ∀ {α : Type} (value : α), Related α (pure value) (pure value)
  failure : ∀ {α : Type} (cause : RuntimeCause) (position : Position),
    Related α (Run.fail cause position) (Run.fail cause position)
  sequence :
    ∀ {α β : Type}
      {first₁ : Run κ₁ α} {first₂ : Run κ₂ α}
      {next₁ : α → Run κ₁ β} {next₂ : α → Run κ₂ β},
      Related α first₁ first₂ →
      (∀ value, Related β (next₁ value) (next₂ value)) →
      Related β (first₁ >>= next₁) (first₂ >>= next₂)
  lookup : ∀ (position : Position) (subject : Variable),
    Related Literal
      (Run.ask position fun environment => environment.lookup subject)
      (Run.ask position fun environment => environment.lookup subject)
  routine :
    ∀ {next₁ : Routine → Run κ₁ Literal} {next₂ : Routine → Run κ₂ Literal}
      (position : Position) (label : String),
      (∀ routine, condition.Admits routine → Related Literal (next₁ routine) (next₂ routine)) →
      Related Literal
        (Run.ask position (fun environment => environment.routine label) >>= next₁)
        (Run.ask position (fun environment => environment.routine label) >>= next₂)
  define : ∀ (position : Position) (subject : Variable) (literal : Literal),
    Related Unit
      (Run.perform position (.defined subject literal.type literal))
      (Run.perform position (.defined subject literal.type literal))
  declare : ∀ (position : Position) (routine : Routine),
    condition.Admits routine →
    Related Unit
      (Run.perform position (.declared routine)) (Run.perform position (.declared routine))
  scope :
    ∀ {run₁ : Run κ₁ Flow} {run₂ : Run κ₂ Flow} (kind : ScopeKind),
      Related Flow run₁ run₂ →
      Related Flow (Run.inScope kind run₁) (Run.inScope kind run₂)
  print : ∀ (position : Position) (line : String),
    Related Unit (Run.print position line) (Run.print position line)
  read : ∀ (position : Position) (prompt : String),
    Related String (Run.read position prompt) (Run.read position prompt)

/-! ## The constructs that are left to each use -/

section Constructs

variable
    (condition : Condition)
    (Related : (α : Type) → Run κ₁ α → Run κ₂ α → Prop)
    (run₁ : BodyRunner κ₁) (run₂ : BodyRunner κ₂)

/-- The relation holds of the calls of zoops that meet the condition. -/
def Calls : Prop :=
  ∀ (position : Position) (routine : Routine) (context : Context),
    condition.Admits routine →
    Related Literal
      (enter run₁ position routine context) (enter run₂ position routine context)

/-- The relation passes from the new value for a variable to the change of the variable. -/
def Reassignments : Prop :=
  ∀ (position : Position) (name : String) (value : Expression),
    condition.expression (.reassign position name value) = true →
    condition.inExpression value = true →
    Related Literal (evaluate run₁ value) (evaluate run₂ value) →
    Related Literal
      (evaluate run₁ (.reassign position name value))
      (evaluate run₂ (.reassign position name value))

/-- The relation passes from the body of a loop to the loop. -/
def Loops (fuel₁ fuel₂ : Nat) : Prop :=
  ∀ (position : Position) (body : List Statement),
    condition.statement (.loop position body) = true →
    Related Flow (executeAll run₁ fuel₁ body) (executeAll run₂ fuel₂ body) →
    Related Flow
      (repeatBody position (executeAll run₁ fuel₁ body) fuel₁)
      (repeatBody position (executeAll run₂ fuel₂ body) fuel₂)

end Constructs

namespace Congruence

variable {condition : Condition} {Related : (α : Type) → Run κ₁ α → Run κ₂ α → Prop}

theorem resultThen
    {α β : Type} (congruence : Congruence condition Related) (result : Except RuntimeError α)
    {next₁ : α → Run κ₁ β} {next₂ : α → Run κ₂ β}
    (related : ∀ value, result = .ok value → Related β (next₁ value) (next₂ value)) :
    Related β (Run.ofResult result >>= next₁) (Run.ofResult result >>= next₂) := by
  cases result with
  | ok value => exact related value rfl
  | error error => exact congruence.failure error.cause error.position

theorem result
    {α : Type} (congruence : Congruence condition Related) (result : Except RuntimeError α) :
    Related α (Run.ofResult result) (Run.ofResult result) := by
  cases result with
  | ok value => exact congruence.value value
  | error error => exact congruence.failure error.cause error.position

theorem resultAt
    {α : Type} (congruence : Congruence condition Related)
    (position : Position) (result : Except RuntimeCause α) :
    Related α (Run.ofResultAt position result) (Run.ofResultAt position result) := by
  cases result with
  | ok value => exact congruence.value value
  | error cause => exact congruence.failure cause position

/-! ## Expressions -/

section Expressions

/-- The effect of a new value is enough for the whole construct. -/
theorem reassignments
    (congruence : Congruence condition Related)
    (run₁ : BodyRunner κ₁) (run₂ : BodyRunner κ₂)
    (assign : ∀ (position : Position) (name : String) (literal : Literal),
      Related Unit
        (Run.perform position (.assigned name literal.type literal))
        (Run.perform position (.assigned name literal.type literal))) :
    Reassignments condition Related run₁ run₂ := by
  intro position name value _ _ valueRelated
  simp only [evaluate]
  apply congruence.sequence (congruence.lookup position _)
  intro old
  apply congruence.sequence valueRelated
  intro literal
  apply congruence.resultThen
  intro result stored
  rw [← type_of_reassignedValue stored]
  exact congruence.sequence (assign position name result) fun _ => congruence.value result

/-- A call has a result like any other effect, unless the end of a loop has come out of its body. -/
theorem callResult
    (congruence : Congruence condition Related) (position : Position) (routine : Routine)
    {flow : Flow} (faults : flow = .leave → Related Literal Run.fault Run.fault) :
    Related Literal
      (Evaluation.callResult position routine flow)
      (Evaluation.callResult position routine flow) := by
  cases flow with
  | next => exact congruence.value Literal.void
  | giveBack => exact congruence.value Literal.void
  | leave => exact faults rfl
  | value literal =>
      simp only [Evaluation.callResult]
      split
      · exact congruence.value literal
      · exact congruence.failure _ position

/-- The relation passes from the body of a zoop to its call, if it holds of faults. -/
theorem enter
    {run₁ : BodyRunner κ₁} {run₂ : BodyRunner κ₂} (congruence : Congruence condition Related)
    (fault : Related Literal Run.fault Run.fault)
    {position : Position} {routine : Routine} {context : Context}
    (inside : Related Flow
      (Run.inContext position context (Run.inScope .routineBody (run₁ routine.body)))
      (Run.inContext position context (Run.inScope .routineBody (run₂ routine.body)))) :
    Related Literal
      (Evaluation.enter run₁ position routine context)
      (Evaluation.enter run₂ position routine context) :=
  congruence.sequence inside fun _ => congruence.callResult position routine fun _ => fault

variable
    {run₁ : BodyRunner κ₁} {run₂ : BodyRunner κ₂}
    (congruence : Congruence condition Related)
    (calls : Calls condition Related run₁ run₂)

include congruence calls

variable (reassignments : Reassignments condition Related run₁ run₂)

include reassignments

mutual

/-- A congruence holds of the evaluation of every expression. -/
theorem evaluate :
    ∀ expression, condition.inExpression expression = true →
      Related Literal (Evaluation.evaluate run₁ expression) (Evaluation.evaluate run₂ expression)
  | .literal _ value, _ => by
      simp only [Evaluation.evaluate]
      exact congruence.value value
  | .variable position subject, _ => by
      simp only [Evaluation.evaluate]
      exact congruence.lookup position subject
  | .declare position subject type value, holds => by
      simp only [Condition.inExpression, Bool.and_eq_true] at holds
      simp only [Evaluation.evaluate]
      apply congruence.sequence (evaluate value holds.2)
      intro literal
      apply congruence.resultThen
      intro stored accepted
      rw [← type_of_declaredValue accepted]
      exact congruence.sequence (congruence.define position subject stored)
        fun _ => congruence.value stored
  | .reassign position name value, holds => by
      simp only [Condition.inExpression, Bool.and_eq_true] at holds
      exact reassignments position name value holds.1 holds.2
        (evaluate value holds.2)
  | .grouping _ inner, holds => by
      simp only [Condition.inExpression, Bool.and_eq_true] at holds
      simp only [Evaluation.evaluate]
      exact evaluate inner holds.2
  | .unary position operator operand, holds => by
      simp only [Condition.inExpression, Bool.and_eq_true] at holds
      simp only [Evaluation.evaluate]
      exact congruence.sequence (evaluate operand holds.2)
        fun literal => congruence.resultAt position _
  | .binary _ operator operatorPosition left right, holds => by
      simp only [Condition.inExpression, Bool.and_eq_true] at holds
      simp only [Evaluation.evaluate]
      apply congruence.sequence (evaluate left holds.2.1)
      intro first
      apply congruence.sequence (evaluate right holds.2.2)
      intro second
      exact congruence.result _
  | .cast position type inner, holds => by
      simp only [Condition.inExpression, Bool.and_eq_true] at holds
      simp only [Evaluation.evaluate]
      exact congruence.sequence (evaluate inner holds.2)
        fun literal => congruence.resultAt position _
  | .input position type prompt, _ => by
      simp only [Evaluation.evaluate]
      exact congruence.sequence (congruence.read position _)
        fun line => congruence.resultAt position _
  | .call position label arguments, holds => by
      simp only [Condition.inExpression, Bool.and_eq_true] at holds
      simp only [Evaluation.evaluate]
      apply congruence.routine
      intro routine admitted
      split
      · apply congruence.sequence
          (evaluateArguments arguments routine.parameters .empty
            holds.2)
        intro context
        exact calls position routine context admitted
      · exact congruence.failure _ position

theorem evaluateArguments :
    ∀ (arguments : List Expression) (parameters : List Parameter) (context : Context),
      condition.inArguments arguments = true →
      Related Context
        (Evaluation.evaluateArguments run₁ arguments parameters context)
        (Evaluation.evaluateArguments run₂ arguments parameters context)
  | [], _, context, _ => by
      simp only [Evaluation.evaluateArguments]
      exact congruence.value context
  | _ :: _, [], context, _ => by
      simp only [Evaluation.evaluateArguments]
      exact congruence.value context
  | argument :: arguments, parameter :: parameters, context, holds => by
      simp only [Condition.inArguments, Bool.and_eq_true] at holds
      simp only [Evaluation.evaluateArguments]
      apply congruence.sequence (evaluate argument holds.1)
      intro literal
      split
      · exact evaluateArguments arguments parameters _ holds.2
      · exact congruence.failure _ argument.position

end

end Expressions

/-! ## Statements -/

section Statements

/-- A round of a loop passes a congruence on, so that its end with the bound is enough for the whole
construct. -/
theorem repeatBody
    (congruence : Congruence condition Related)
    (exhausted : Related Flow Run.exhausted Run.exhausted)
    {body₁ : Run κ₁ Flow} {body₂ : Run κ₂ Flow} (position : Position)
    (bodyRelated : Related Flow body₁ body₂) (fuel : Nat) :
    Related Flow
      (Evaluation.repeatBody position body₁ fuel) (Evaluation.repeatBody position body₂ fuel) := by
  induction fuel with
  | zero => exact exhausted
  | succ fuel inductionHypothesis =>
      rw [repeatBody_succ, repeatBody_succ]
      apply congruence.sequence bodyRelated
      intro flow
      cases flow with
      | next => exact inductionHypothesis
      | giveBack => exact congruence.value Flow.giveBack
      | leave => exact congruence.value Flow.next
      | value literal => exact congruence.failure _ position

variable
    {run₁ : BodyRunner κ₁} {run₂ : BodyRunner κ₂} {fuel₁ fuel₂ : Nat}
    (congruence : Congruence condition Related)
    (calls : Calls condition Related run₁ run₂)
    (reassignments : Reassignments condition Related run₁ run₂)
    (loops : Loops condition Related run₁ run₂ fuel₁ fuel₂)

include congruence calls reassignments loops

mutual

/-- A congruence holds of the execution of every statement. -/
theorem execute :
    ∀ statement, condition.inStatement statement = true →
      Related Flow
        (Evaluation.execute run₁ fuel₁ statement) (Evaluation.execute run₂ fuel₂ statement)
  | .expression _ value, holds => by
      simp only [Condition.inStatement, Bool.and_eq_true] at holds
      simp only [Evaluation.execute]
      exact congruence.sequence (congruence.evaluate calls reassignments value holds.2)
        fun _ => congruence.value Flow.next
  | .print position value, holds => by
      simp only [Condition.inStatement, Bool.and_eq_true] at holds
      simp only [Evaluation.execute]
      apply congruence.sequence (congruence.evaluate calls reassignments value holds.2)
      intro literal
      split
      · exact congruence.failure _ position
      · exact congruence.sequence (congruence.print position _) fun _ => congruence.value Flow.next
  | .block _ body, holds => by
      simp only [Condition.inStatement, Bool.and_eq_true] at holds
      simp only [Evaluation.execute]
      exact congruence.scope .block (executeAll body holds.2)
  | .condition _ first others otherwise, holds => by
      simp only [Condition.inStatement, Bool.and_eq_true] at holds
      simp only [Evaluation.execute]
      apply congruence.sequence
        (executeBranch first holds.2.1)
      intro chosen
      cases chosen with
      | some flow => exact congruence.value flow
      | none =>
          apply congruence.sequence
            (executeBranches others holds.2.2.1)
          intro chosen
          cases chosen with
          | some flow => exact congruence.value flow
          | none =>
              exact executeOtherwise otherwise holds.2.2.2
  | .routine position label parameters returnType body, holds => by
      simp only [Condition.inStatement, Bool.and_eq_true] at holds
      simp only [Evaluation.execute]
      exact congruence.sequence
        (congruence.declare position ⟨label, parameters, returnType, body⟩
          ⟨⟨position, holds.1⟩, holds.2⟩)
        fun _ => congruence.value Flow.next
  | .giveBack _ none, _ => by
      simp only [Evaluation.execute]
      exact congruence.value Flow.giveBack
  | .giveBack _ (some value), holds => by
      simp only [Condition.inStatement, Bool.and_eq_true] at holds
      simp only [Evaluation.execute]
      exact congruence.sequence (congruence.evaluate calls reassignments value holds.2)
        fun literal => congruence.value _
  | .loop position body, holds => by
      simp only [Condition.inStatement, Bool.and_eq_true] at holds
      simp only [Evaluation.execute]
      exact loops position body holds.1
        (executeAll body holds.2)
  | .leave _, _ => by
      simp only [Evaluation.execute]
      exact congruence.value Flow.leave

theorem executeAll :
    ∀ body, condition.inStatements body = true →
      Related Flow
        (Evaluation.executeAll run₁ fuel₁ body) (Evaluation.executeAll run₂ fuel₂ body)
  | [], _ => by
      simp only [Evaluation.executeAll]
      exact congruence.value Flow.next
  | statement :: rest, holds => by
      simp only [Condition.inStatements, Bool.and_eq_true] at holds
      simp only [Evaluation.executeAll]
      apply congruence.sequence
        (execute statement holds.1)
      intro flow
      cases flow with
      | next => exact executeAll rest holds.2
      | giveBack => exact congruence.value Flow.giveBack
      | leave => exact congruence.value Flow.leave
      | value literal => exact congruence.value (Flow.value literal)

theorem executeBranch :
    ∀ branch, condition.inBranch branch = true →
      Related (Option Flow)
        (Evaluation.executeBranch run₁ fuel₁ branch) (Evaluation.executeBranch run₂ fuel₂ branch)
  | .mk _ guard body, holds => by
      simp only [Condition.inBranch, Bool.and_eq_true] at holds
      simp only [Evaluation.executeBranch]
      apply congruence.sequence (congruence.evaluate calls reassignments guard holds.1)
      intro literal
      split
      · exact congruence.sequence
          (congruence.scope .block
            (executeAll body holds.2))
          fun flow => congruence.value (some flow)
      · exact congruence.value none

theorem executeBranches :
    ∀ branches, condition.inBranches branches = true →
      Related (Option Flow)
        (Evaluation.executeBranches run₁ fuel₁ branches)
        (Evaluation.executeBranches run₂ fuel₂ branches)
  | [], _ => by
      simp only [Evaluation.executeBranches]
      exact congruence.value none
  | branch :: rest, holds => by
      simp only [Condition.inBranches, Bool.and_eq_true] at holds
      simp only [Evaluation.executeBranches]
      apply congruence.sequence
        (executeBranch branch holds.1)
      intro chosen
      cases chosen with
      | some flow => exact congruence.value (some flow)
      | none => exact executeBranches rest holds.2

theorem executeOtherwise :
    ∀ otherwise, condition.inOtherwise otherwise = true →
      Related Flow
        (Evaluation.executeOtherwise run₁ fuel₁ otherwise)
        (Evaluation.executeOtherwise run₂ fuel₂ otherwise)
  | none, _ => by
      simp only [Evaluation.executeOtherwise]
      exact congruence.value Flow.next
  | some body, holds => by
      simp only [Evaluation.executeOtherwise]
      exact congruence.scope .block (executeAll body holds)

end

end Statements

theorem runStatements
    {fuel₁ fuel₂ : Nat} (congruence : Congruence condition Related)
    (executes : ∀ statement, condition.inStatement statement = true →
      Related Flow
        (Evaluation.execute (bodyRunner fuel₁) fuel₁ statement)
        (Evaluation.execute (bodyRunner fuel₂) fuel₂ statement)) :
    ∀ body, condition.inStatements body = true →
      Related Unit (Evaluation.runStatements fuel₁ body) (Evaluation.runStatements fuel₂ body)
  | [], _ => by
      simp only [Evaluation.runStatements]
      exact congruence.value ()
  | statement :: rest, holds => by
      simp only [Condition.inStatements, Bool.and_eq_true] at holds
      simp only [Evaluation.runStatements]
      exact congruence.sequence (executes statement holds.1)
        fun _ => runStatements congruence executes rest holds.2

end Congruence

/-! ## Uniform congruences -/

/-- A congruence that holds of the calls, the new values and the loops of runs with the same fuel. -/
structure UniformCongruence
    (condition : Condition)
    (Related : (α : Type) → Run κ₁ α → Run κ₂ α → Prop) : Prop
    extends Congruence condition Related where
  fault : Related Literal Run.fault Run.fault
  exhausted : Related Flow Run.exhausted Run.exhausted
  context :
    ∀ {run₁ : Run κ₁ Flow} {run₂ : Run κ₂ Flow} (position : Position) (context : Context),
      Related Flow run₁ run₂ →
      Related Flow (Run.inContext position context run₁) (Run.inContext position context run₂)
  reassignments : ∀ fuel : Nat,
    Reassignments condition Related (bodyRunner fuel) (bodyRunner fuel)

namespace UniformCongruence

variable
    {condition : Condition} {Related : (α : Type) → Run κ₁ α → Run κ₂ α → Prop}
    (uniform : UniformCongruence condition Related)

include uniform

theorem loops (run₁ : BodyRunner κ₁) (run₂ : BodyRunner κ₂) (fuel : Nat) :
    Loops condition Related run₁ run₂ fuel fuel := by
  intro position body _ bodyRelated
  exact uniform.toCongruence.repeatBody uniform.exhausted position bodyRelated fuel

theorem calls_of_bodies
    {run₁ : BodyRunner κ₁} {run₂ : BodyRunner κ₂}
    (bodies : ∀ body, condition.inStatements body = true → Related Flow (run₁ body) (run₂ body)) :
    Calls condition Related run₁ run₂ := by
  intro position routine context admitted
  exact uniform.toCongruence.enter uniform.fault (uniform.context position context
    (uniform.scope .routineBody (bodies routine.body admitted.2)))

theorem body (fuel : Nat) :
    ∀ body, condition.inStatements body = true →
      Related Flow (bodyRunner fuel body) (bodyRunner fuel body) := by
  induction fuel with
  | zero =>
      intro body _
      exact uniform.exhausted
  | succ fuel inductionHypothesis =>
      intro body holds
      exact uniform.toCongruence.executeAll
        (uniform.calls_of_bodies inductionHypothesis)
        (uniform.reassignments fuel)
        (uniform.loops _ _ fuel)
        body holds

theorem calls (fuel : Nat) :
    Calls condition Related (bodyRunner fuel) (bodyRunner fuel) :=
  uniform.calls_of_bodies (uniform.body fuel)

theorem evaluate
    (fuel : Nat) (expression : Expression) (holds : condition.inExpression expression = true) :
    Related Literal
      (Evaluation.evaluate (bodyRunner fuel) expression)
      (Evaluation.evaluate (bodyRunner fuel) expression) :=
  uniform.toCongruence.evaluate (uniform.calls fuel) (uniform.reassignments fuel) expression holds

theorem execute
    (fuel : Nat) (statement : Statement) (holds : condition.inStatement statement = true) :
    Related Flow
      (Evaluation.execute (bodyRunner fuel) fuel statement)
      (Evaluation.execute (bodyRunner fuel) fuel statement) :=
  uniform.toCongruence.execute (uniform.calls fuel) (uniform.reassignments fuel)
    (uniform.loops _ _ fuel) statement holds

theorem executeAll
    (fuel : Nat) (body : List Statement) (holds : condition.inStatements body = true) :
    Related Flow
      (Evaluation.executeAll (bodyRunner fuel) fuel body)
      (Evaluation.executeAll (bodyRunner fuel) fuel body) :=
  uniform.toCongruence.executeAll (uniform.calls fuel) (uniform.reassignments fuel)
    (uniform.loops _ _ fuel) body holds

theorem runWith
    (fuel : Nat) (program : Program) (holds : condition.inProgram program = true) :
    Related Unit (program.runWith fuel) (program.runWith fuel) :=
  uniform.toCongruence.runStatements (uniform.execute fuel) program.statements holds

end UniformCongruence

end Zoop
