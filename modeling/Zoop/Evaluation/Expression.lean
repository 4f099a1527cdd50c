import Zoop.Evaluation.Operation
import Zoop.Evaluation.Run

/-!
# Evaluating expressions

Expressions are evaluated by recursion on their structure, operands from left to right and each once.
Only a call leaves the structure of the expression: it runs the body of the zoop, and how a body is
run is a parameter here.
-/

namespace Zoop

/-- How a statement ends. -/
inductive Flow where
  | next
  /-- The zoop ends without a value. -/
  | giveBack
  /-- The innermost loop ends. -/
  | leave
  /-- The zoop ends with a value. -/
  | value (literal : Literal)
deriving DecidableEq

/-- The prompt for a line of input. -/
def promptText : Option String → String
  | none => "<-| "
  | some label => "<-| " ++ label ++ " "

namespace Evaluation

/-- How the body of a zoop is run. -/
abbrev BodyRunner (κ : Type) : Type :=
  List Statement → Run κ Flow

variable {κ : Type}

/-- The value of a call whose body has ended.  A body that ends without a value gives the absence of
one, and a value has to be of the data type that the zoop names.  The end of a loop does not come out of
a body. -/
def callResult (position : Position) (routine : Routine) : Flow → Run κ Literal
  | .next | .giveBack => pure .void
  | .leave => Run.fault
  | .value literal =>
      if literal.type = routine.resultType then
        pure literal
      else
        Run.fail (.returnType routine.resultType literal.type) position

/-- Run the body of a zoop with its arguments, in a scope of its own. -/
def enter
    [Console κ]
    (runBody : BodyRunner κ)
    (position : Position)
    (routine : Routine)
    (context : Context) : Run κ Literal := do
  let flow ← Run.inContext position context (Run.inScope .routineBody (runBody routine.body))
  callResult position routine flow

/-- The value that a declaration stores, which has to be of the declared data type. -/
def declaredValue (subject : Variable) (type : DataType) (position : Position)
    (literal : Literal) : Except RuntimeError Literal :=
  if literal.type = type then
    .ok literal
  else
    .error ⟨.assignType literal.type subject type, position⟩

/-- The value that a new value for a variable stores.  A number becomes one of the data type of the
variable; all other values have to be of that data type. -/
def reassignedValue
    (name : String)
    (type : DataType)
    (position valuePosition : Position)
    (literal : Literal) : Except RuntimeError Literal :=
  if literal.type = type then
    .ok literal
  else if literal.type.isNumeric && type.isNumeric then
    (literal.cast type).mapError fun cause => ⟨cause, position⟩
  else
    .error ⟨.assignType literal.type ⟨true, name⟩ type, valuePosition⟩

variable [Console κ] (runBody : BodyRunner κ)

mutual

/-- The value of an expression. -/
def evaluate : Expression → Run κ Literal
  | .literal _ value => pure value
  | .variable position subject => Run.ask position fun environment => environment.lookup subject
  | .declare position subject type value => do
      let literal ← evaluate value
      let literal ← Run.ofResult (declaredValue subject type value.position literal)
      Run.perform position (.defined subject type literal)
      return literal
  | .reassign position name value => do
      let old ← Run.ask position fun environment => environment.lookup ⟨true, name⟩
      let literal ← evaluate value
      let literal ←
        Run.ofResult (reassignedValue name old.type position value.position literal)
      Run.perform position (.assigned name old.type literal)
      return literal
  | .grouping _ inner => evaluate inner
  | .unary position operator operand => do
      let literal ← evaluate operand
      Run.ofResultAt position (Operation.unary operator literal)
  | .binary _ operator operatorPosition left right => do
      let first ← evaluate left
      let second ← evaluate right
      Run.ofResult
        (Operation.binary operator ⟨first, left.position⟩ ⟨second, right.position⟩
          operatorPosition)
  | .cast position type inner => do
      let literal ← evaluate inner
      Run.ofResultAt position (literal.cast type)
  | .input position type prompt => do
      let line ← Run.read position (promptText prompt)
      Run.ofResultAt position (Literal.ofLine type line)
  | .call position label arguments => do
      let routine ← Run.ask position fun environment => environment.routine label
      if routine.arity = arguments.length then
        let context ← evaluateArguments arguments routine.parameters .empty
        enter runBody position routine context
      else
        Run.fail (.argumentCount routine.arity arguments.length) position

/-- The arguments of a call, each of which has to be of the data type of its parameter. -/
def evaluateArguments : List Expression → List Parameter → Context → Run κ Context
  | argument :: arguments, parameter :: parameters, context => do
      let literal ← evaluate argument
      if literal.type = parameter.type then
        evaluateArguments arguments parameters (context.set parameter.name literal)
      else
        Run.fail (.argumentType parameter.type literal.type) argument.position
  | _, _, context => pure context

end

end Evaluation

end Zoop
