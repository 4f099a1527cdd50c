import Zoop.Proofs.Evaluation.MoreInput
import Zoop.Proofs.Grammar.Yield

/-!
# Prompts of expressions

Operands are evaluated from left to right, each once, whatever the operands before them have given.  So
an expression without calls asks for its inputs in the order in which they stand in the source, up to the
place where it fails, and each prompt takes a line of input.
-/

namespace Zoop

open Evaluation

/-! ## Inputs of expressions -/

namespace Expression

mutual

/-- The inputs that stand in an expression, from left to right: their positions and their labels. -/
def inputs : Expression → List (Position × Option String)
  | .literal _ _ | .variable _ _ => []
  | .declare _ _ _ value | .reassign _ _ value => value.inputs
  | .grouping _ inner | .cast _ _ inner => inner.inputs
  | .unary _ _ operand => operand.inputs
  | .binary _ _ _ left right => left.inputs ++ right.inputs
  | .input position _ prompt => [(position, prompt)]
  | .call _ _ arguments => inputsOfAll arguments

/-- The inputs that stand in the arguments of a call. -/
def inputsOfAll : List Expression → List (Position × Option String)
  | [] => []
  | first :: others => first.inputs ++ inputsOfAll others

end

/-- The texts of the prompts for the inputs of an expression. -/
def prompts (tree : Expression) : List String :=
  tree.inputs.map fun input => promptText input.2

theorem prompts_binary
    (position place : Position) (operator : BinaryOperator) (left right : Expression) :
    prompts (.binary position operator place left right) = left.prompts ++ right.prompts := by
  rw [prompts, inputs, List.map_append]
  rfl

mutual

/-- The inputs stand in the source in this order. -/
theorem Yields.inputs_sublist
    {tree : Expression} {taken : List Token} (yields : tree.Yields taken) :
    (tree.inputs.map Prod.fst).Sublist (taken.map Token.position) := by
  match yields with
  | .literal _ | .reference _ => exact List.nil_sublist _
  | .declare _ _ _ _ valueYields =>
      have inner := valueYields.inputs_sublist
      rw [inputs]
      simp only [List.map_cons]
      exact (((inner.cons _).cons _).cons _).cons _
  | .reassign _ _ _ valueYields =>
      have inner := valueYields.inputs_sublist
      rw [inputs]
      simp only [List.map_cons]
      exact (inner.cons _).cons _
  | .grouping _ innerYields _ =>
      have inner := innerYields.inputs_sublist
      rw [inputs, List.map_cons, List.map_append]
      exact (inner.trans (List.sublist_append_left _ _)).cons _
  | .unary _ operandYields =>
      have inner := operandYields.inputs_sublist
      rw [inputs, List.map_cons]
      exact inner.cons _
  | .binary leftYields _ rightYields =>
      have first := leftYields.inputs_sublist
      have second := rightYields.inputs_sublist
      rw [inputs, List.map_append, List.map_append, List.map_cons]
      exact first.append (second.cons _)
  | .cast innerYields _ _ =>
      have inner := innerYields.inputs_sublist
      rw [inputs, List.map_append]
      exact inner.trans (List.sublist_append_left _ _)
  | .input _ _ _ =>
      rw [inputs, List.map_cons, List.map_cons]
      exact (List.nil_sublist _).cons_cons _
  | .call _ _ argumentsYield =>
      have inner := argumentsYield.inputs_sublist
      rw [inputs, List.map_cons, List.map_cons]
      exact (inner.cons _).cons _

theorem AllYield.inputs_sublist
    {values : List Expression} {taken : List Token} (yield : AllYield values taken) :
    ((inputsOfAll values).map Prod.fst).Sublist (taken.map Token.position) := by
  match yield with
  | .nil => exact List.nil_sublist _
  | .cons firstYields othersYield =>
      have first := firstYields.inputs_sublist
      have others := othersYield.inputs_sublist
      rw [inputsOfAll, List.map_append, List.map_append]
      exact first.append others

end

end Expression

/-- No expression is a call. -/
def Condition.withoutCalls : Condition where
  expression
    | .call _ _ _ => false
    | _ => true
  statement _ := true

/-! ## Runs that ask -/

namespace BufferedConsole

/-- The console after prompts with the given texts, each of which has taken a line of input as long as
there was one. -/
def afterPrompts (console : BufferedConsole) (texts : List String) : BufferedConsole :=
  { console with
    prompts := console.prompts ++ texts.toArray
    input := console.input.drop texts.length }

theorem afterPrompts_nil (console : BufferedConsole) : console.afterPrompts [] = console := by
  simp [afterPrompts]

theorem afterPrompts_append (console : BufferedConsole) (earlier later : List String) :
    console.afterPrompts (earlier ++ later) = (console.afterPrompts earlier).afterPrompts later := by
  simp [afterPrompts, List.drop_drop]

theorem afterPrompts_singleton (console : BufferedConsole) (text : String) :
    console.afterPrompts [text] = (console.read text).2 := by
  simp [afterPrompts, read]

end BufferedConsole

/-- A run asks for the given prompts in their order, up to the place where it fails, and does nothing
else to its console. -/
def Run.Asks {α : Type} (run : Run BufferedConsole α) (texts : List String) : Prop :=
  ∀ machine, ∃ shown,
    shown <+: texts ∧
    (run machine).2.console = machine.console.afterPrompts shown ∧
    (run machine).1.Settled ∧
    ∀ value, (run machine).1 = .ok value → shown = texts

namespace Run.Asks

variable {α β : Type}

/-- A run that leaves the console alone and comes to an end asks for nothing. -/
theorem of_console_eq
    {run : Run BufferedConsole α}
    (same : ∀ machine, (run machine).2.console = machine.console)
    (ends : ∀ machine, (run machine).1.Settled) : run.Asks [] := by
  intro machine
  refine ⟨[], List.prefix_refl _, ?_, ends machine, fun _ _ => rfl⟩
  rw [same, BufferedConsole.afterPrompts_nil]

theorem pure (value : α) : (Pure.pure value : Run BufferedConsole α).Asks [] :=
  of_console_eq (fun _ => rfl) fun _ => .ok value

theorem ofResult (result : Except RuntimeError α) :
    (Run.ofResult result : Run BufferedConsole α).Asks [] :=
  of_console_eq (fun machine => by rw [ofResult_machine]) (.ofResult result)

theorem ofResultAt (position : Position) (result : Except RuntimeCause α) :
    (Run.ofResultAt position result : Run BufferedConsole α).Asks [] :=
  of_console_eq (fun machine => by rw [ofResultAt_machine]) (.ofResultAt position result)

theorem ask (position : Position) (question : Environment → Except RuntimeCause α) :
    (Run.ask position question : Run BufferedConsole α).Asks [] := by
  intro machine
  exact ofResultAt position (question machine.environment) machine

theorem perform (position : Position) (change : Change) :
    (Run.perform position change : Run BufferedConsole Unit).Asks [] := by
  refine of_console_eq (fun machine => ?_) (.perform position change)
  unfold Run.perform
  split
  · rw [Machine.became_of_silent BufferedConsole.silent]
  · rfl

/-- The prompt is shown also when there is no line left. -/
theorem read (position : Position) (text : String) :
    (Run.read position text : Run BufferedConsole String).Asks [text] := by
  intro machine
  refine ⟨[text], List.prefix_refl _, ?_, .read position text machine, fun _ _ => rfl⟩
  rw [BufferedConsole.afterPrompts_singleton]
  unfold Run.read
  simp only [Console.readLine]
  split <;> simp_all

/-- The second run goes on where the first one has ended, and only if that one has given a value. -/
theorem bind
    {run : Run BufferedConsole α} {next : α → Run BufferedConsole β} {earlier later : List String}
    (first : run.Asks earlier) (second : ∀ value, (next value).Asks later) :
    (run >>= next).Asks (earlier ++ later) := by
  intro machine
  obtain ⟨shown, isPrefix, console, finishes, whole⟩ := first machine
  rcases ends : run machine with ⟨outcome, after⟩
  rw [ends] at console finishes whole
  cases finishes with
  | ok value =>
      obtain rfl := whole value rfl
      obtain ⟨shownNext, isPrefixNext, consoleNext, finishesNext, wholeNext⟩ := second value after
      rw [bind_of_ok ends]
      refine ⟨shown ++ shownNext, (List.prefix_append_right_inj shown).mpr isPrefixNext, ?_,
        finishesNext, fun result gives => by rw [wholeNext result gives]⟩
      rw [consoleNext, console, BufferedConsole.afterPrompts_append]
  | error cause =>
      rw [bind_of_error ends]
      exact ⟨shown, isPrefix.trans (List.prefix_append _ _), console, .error cause, nofun⟩

/-- What comes before asks for nothing. -/
theorem bind_silent
    {run : Run BufferedConsole α} {next : α → Run BufferedConsole β} {texts : List String}
    (first : run.Asks []) (second : ∀ value, (next value).Asks texts) : (run >>= next).Asks texts :=
  first.bind second

/-- What comes after asks for nothing. -/
theorem bind_rest
    {run : Run BufferedConsole α} {next : α → Run BufferedConsole β} {texts : List String}
    (first : run.Asks texts) (second : ∀ value, (next value).Asks []) : (run >>= next).Asks texts := by
  have both := first.bind second
  rwa [List.append_nil] at both

end Run.Asks

/-! ## Expressions without calls -/

/-- An expression without calls asks for its inputs from left to right. -/
theorem evaluate_asks (runBody : BodyRunner BufferedConsole) :
    ∀ tree : Expression, Condition.withoutCalls.inExpression tree = true →
      (evaluate runBody tree).Asks tree.prompts
  | .literal _ value, _ => .pure value
  | .variable position _, _ => .ask position _
  | .declare position subject type value, callFree => by
      have inner := evaluate_asks runBody value (Bool.and_eq_true_iff.mp callFree).2
      rw [evaluate]
      exact inner.bind_rest fun literal => (Run.Asks.ofResult _).bind_silent fun stored =>
        (Run.Asks.perform position _).bind_silent fun _ => .pure stored
  | .reassign position name value, callFree => by
      have inner := evaluate_asks runBody value (Bool.and_eq_true_iff.mp callFree).2
      rw [evaluate]
      exact (Run.Asks.ask position _).bind_silent fun old => inner.bind_rest fun literal =>
        (Run.Asks.ofResult _).bind_silent fun stored =>
          (Run.Asks.perform position _).bind_silent fun _ => .pure stored
  | .grouping _ inner, callFree => by
      rw [evaluate]
      exact evaluate_asks runBody inner (Bool.and_eq_true_iff.mp callFree).2
  | .unary position operator operand, callFree => by
      have inner := evaluate_asks runBody operand (Bool.and_eq_true_iff.mp callFree).2
      rw [evaluate]
      exact inner.bind_rest fun literal => .ofResultAt position _
  | .binary position operator place left right, callFree => by
      have parts := Bool.and_eq_true_iff.mp (Bool.and_eq_true_iff.mp callFree).2
      have first := evaluate_asks runBody left parts.1
      have second := evaluate_asks runBody right parts.2
      rw [evaluate, Expression.prompts_binary]
      exact first.bind fun _ => second.bind_rest fun _ => .ofResult _
  | .cast position type inner, callFree => by
      have inside := evaluate_asks runBody inner (Bool.and_eq_true_iff.mp callFree).2
      rw [evaluate]
      exact inside.bind_rest fun literal => .ofResultAt position _
  | .input position type prompt, _ => by
      rw [evaluate]
      exact (Run.Asks.read position _).bind_rest fun line => .ofResultAt position _

/-- The prompts of an expression without calls are those of its inputs in the order of the source, up to
the place where it fails: all of them if it has a value.  Each takes a line of input while there is one.
The console is left alone in every other way, and there is always a value or an error. -/
theorem inputs_are_asked_for_in_source_order
    (runBody : BodyRunner BufferedConsole) {tree : Expression}
    (callFree : Condition.withoutCalls.inExpression tree = true) (machine : Machine BufferedConsole) :
    (∃ shown outcome environment,
      evaluate runBody tree machine =
        (outcome, ⟨environment, machine.console.afterPrompts shown⟩) ∧
      shown <+: tree.prompts ∧
      ((∃ literal, outcome = .ok literal) ∨ ∃ error, outcome = .error error) ∧
      ∀ literal, outcome = .ok literal → shown = tree.prompts) ∧
    ∀ taken, tree.Yields taken →
      (tree.inputs.map Prod.fst).Sublist (taken.map Token.position) := by
  refine ⟨?_, fun _ yields => yields.inputs_sublist⟩
  obtain ⟨shown, isPrefix, console, finishes, whole⟩ := evaluate_asks runBody tree callFree machine
  rcases ends : evaluate runBody tree machine with ⟨outcome, environment, after⟩
  rw [ends] at console finishes whole
  obtain rfl : after = machine.console.afterPrompts shown := console
  refine ⟨shown, outcome, environment, rfl, isPrefix, ?_, whole⟩
  cases finishes with
  | ok literal => exact .inl ⟨literal, rfl⟩
  | error error => exact .inr ⟨error, rfl⟩

/-- An expression whose first operand settles its value. -/
def eitherFlag : Expression :=
  .binary ⟨1, 0⟩ .or ⟨1, 17⟩ (.input ⟨1, 0⟩ .bool (some "first")) (.input ⟨1, 19⟩ .bool none)

theorem inputs_of_eitherFlag_are_asked_for :
    Condition.withoutCalls.inExpression eitherFlag = true ∧
    ∃ environment,
      evaluate (bodyRunner 0) eitherFlag
          (Machine.start (BufferedConsole.ofInput ["true", "false", "spare"])) =
        (.ok (.boolean true),
          ⟨environment, BufferedConsole.mk #[] #["<-| first ", "<-| "] ["spare"]⟩) := by
  have callFree : Condition.withoutCalls.inExpression eitherFlag = true := rfl
  obtain ⟨⟨shown, outcome, environment, evaluated, _, _, whole⟩, _⟩ :=
    inputs_are_asked_for_in_source_order (bodyRunner 0) callFree
      (Machine.start (BufferedConsole.ofInput ["true", "false", "spare"]))
  obtain rfl : outcome = .ok (.boolean true) := (congrArg Prod.fst evaluated).symm
  obtain rfl := whole _ rfl
  exact ⟨callFree, environment, evaluated⟩

end Zoop
