import Zoop.Proofs.Evaluation.ErrorCauses
import Zoop.Proofs.Evaluation.Points
import Zoop.Proofs.Evaluation.Transcript

/-!
# Where errors come from

A run that ends with an error has come to a point that raises it: an expression or a statement whose
parts have all ended without an error, and which fails for a reason of its own.  From there on nothing
is done but to leave the scopes and the calls that are open, so the console is left as it was.
-/

namespace Zoop

open Evaluation

/-! ## Sequences that end with an error -/

namespace Run

variable {κ α β : Type} {machine after : Machine κ} {error : RuntimeError}

theorem bind_eq_error
    {run : Run κ α} {next : α → Run κ β}
    (ends : (run >>= next) machine = (.error error, after)) :
    run machine = (.error error, after) ∨
      ∃ value middle, run machine = (.ok value, middle) ∧ next value middle = (.error error, after) := by
  rcases runEnds : run machine with ⟨outcome, middle⟩
  cases outcome using Outcome.stop_cases with
  | ok value =>
      rw [bind_of_ok runEnds] at ends
      exact .inr ⟨value, middle, rfl, ends⟩
  | stopped stop =>
      rw [bind_of_stop runEnds] at ends
      cases stop <;> cases ends
      exact .inl rfl

theorem ofResult_eq_error
    {result : Except RuntimeError α} (ends : ofResult result machine = (.error error, after)) :
    result = .error error ∧ after = machine := by
  cases result with
  | ok value => cases ends
  | error cause =>
      cases ends
      exact ⟨rfl, rfl⟩

theorem ofResultAt_eq_error
    {position : Position} {result : Except RuntimeCause α}
    (ends : ofResultAt position result machine = (.error error, after)) :
    ∃ cause, result = .error cause ∧ error = ⟨cause, position⟩ ∧ after = machine := by
  cases result with
  | ok value => cases ends
  | error cause =>
      cases ends
      exact ⟨cause, rfl, rfl, rfl⟩

theorem ofResult_eq_ok
    {result : Except RuntimeError α} {value : α}
    (ends : ofResult result machine = (.ok value, after)) : result = .ok value ∧ after = machine := by
  cases result with
  | ok given =>
      cases ends
      exact ⟨rfl, rfl⟩
  | error cause => cases ends

variable [Console κ]

theorem perform_eq_error
    {position : Position} {change : Change}
    (ends : perform position change machine = (.error error, after)) :
    ∃ cause, change.apply machine.environment = .error cause ∧ error = ⟨cause, position⟩ ∧
      after = machine := by
  unfold perform at ends
  split at ends
  · cases ends
  · next cause refused =>
      cases ends
      exact ⟨cause, refused, rfl, rfl⟩

/-- A value is refused, or it is accepted and storing it is refused. -/
theorem store_eq_error
    {position : Position} {result : Except RuntimeError α} {store : α → Change}
    (ends : (do
      let value ← ofResult result
      perform position (store value)
      return value : Run κ α) machine = (.error error, after)) :
    after = machine ∧
      (result = .error error ∨
        ∃ value cause, result = .ok value ∧
          (store value).apply machine.environment = .error cause ∧ error = ⟨cause, position⟩) := by
  rcases bind_eq_error ends with resultFails | ⟨value, middle, resultEnds, storeEnds⟩
  · obtain ⟨refused, same⟩ := ofResult_eq_error resultFails
    exact ⟨same, .inl refused⟩
  · obtain ⟨accepted, sameMiddle⟩ := ofResult_eq_ok resultEnds
    rw [sameMiddle] at storeEnds
    rcases bind_eq_error storeEnds with storeFails | ⟨_, _, _, valueEnds⟩
    · obtain ⟨cause, refused, same, sameAfter⟩ := perform_eq_error storeFails
      exact ⟨sameAfter, .inr ⟨value, cause, accepted, refused, same⟩⟩
    · cases valueEnds

theorem inScope_eq_error
    {kind : ScopeKind} {run : Run κ α} (ends : inScope kind run machine = (.error error, after)) :
    ∃ between, run (machine.inside kind) = (.error error, between) ∧
      after = between.became .closed between.environment.popScope := by
  simp only [inScope] at ends
  rcases inside : run (machine.inside kind) with ⟨outcome, between⟩
  simp only [Machine.inside] at inside
  rw [inside] at ends
  cases ends
  exact ⟨between, rfl, rfl⟩

end Run

/-! ## Errors that are raised -/

variable {κ : Type} [Console κ]

/-- A point raises an error of its own, and leaves a machine: one case for each reason to fail. -/
inductive Raises : Point κ → RuntimeError → Machine κ → Prop where
  | unknownVariable {fuel machine position subject}
      (refused : machine.environment.lookup subject = .error (.undefinedVariable subject)) :
      Raises ⟨fuel, .expression (.variable position subject), machine⟩
        ⟨.undefinedVariable subject, position⟩ machine
  | declaredType {fuel machine after position subject type value literal}
      (valueEnds : evaluate (bodyRunner fuel) value machine = (.ok literal, after))
      (differs : literal.type ≠ type) :
      Raises ⟨fuel, .expression (.declare position subject type value), machine⟩
        ⟨.assignType literal.type subject type, value.position⟩ after
  | argumentName {fuel machine after position subject type value literal}
      (valueEnds : evaluate (bodyRunner fuel) value machine = (.ok literal, after))
      (refused :
        after.environment.define subject literal = .error (.contextRedefinition subject.name)) :
      Raises ⟨fuel, .expression (.declare position subject type value), machine⟩
        ⟨.contextRedefinition subject.name, position⟩ after
  | redefined {fuel machine after position subject type value literal}
      (valueEnds : evaluate (bodyRunner fuel) value machine = (.ok literal, after))
      (refused : after.environment.define subject literal = .error (.redefinition subject.name)) :
      Raises ⟨fuel, .expression (.declare position subject type value), machine⟩
        ⟨.redefinition subject.name, position⟩ after
  | unknownTarget {fuel machine position name value}
      (refused :
        machine.environment.lookup ⟨true, name⟩ = .error (.undefinedVariable ⟨true, name⟩)) :
      Raises ⟨fuel, .expression (.reassign position name value), machine⟩
        ⟨.undefinedVariable ⟨true, name⟩, position⟩ machine
  | reassignedType {fuel machine after position name value old literal}
      (found : machine.environment.lookup ⟨true, name⟩ = .ok old)
      (valueEnds : evaluate (bodyRunner fuel) value machine = (.ok literal, after))
      (differs : literal.type ≠ old.type) :
      Raises ⟨fuel, .expression (.reassign position name value), machine⟩
        ⟨.assignType literal.type ⟨true, name⟩ old.type, value.position⟩ after
  | reassignedCast {fuel machine after position name value old literal}
      (found : machine.environment.lookup ⟨true, name⟩ = .ok old)
      (valueEnds : evaluate (bodyRunner fuel) value machine = (.ok literal, after))
      (numeric : (literal.type.isNumeric && old.type.isNumeric) = true)
      (refused : literal.cast old.type = .error (.invalidCast literal.type old.type)) :
      Raises ⟨fuel, .expression (.reassign position name value), machine⟩
        ⟨.invalidCast literal.type old.type, position⟩ after
  | lostTarget {fuel machine after position name value old literal stored}
      (found : machine.environment.lookup ⟨true, name⟩ = .ok old)
      (valueEnds : evaluate (bodyRunner fuel) value machine = (.ok literal, after))
      (refused : after.environment.assign name stored = .error (.notDefined name)) :
      Raises ⟨fuel, .expression (.reassign position name value), machine⟩
        ⟨.notDefined name, position⟩ after
  | notOperand {fuel machine after position operator operand literal}
      (operandEnds : evaluate (bodyRunner fuel) operand machine = (.ok literal, after))
      (refused : Operation.unary operator literal = .error .notOperand) :
      Raises ⟨fuel, .expression (.unary position operator operand), machine⟩
        ⟨.notOperand, position⟩ after
  | negateOperand {fuel machine after position operator operand literal}
      (operandEnds : evaluate (bodyRunner fuel) operand machine = (.ok literal, after))
      (refused : Operation.unary operator literal = .error .negateOperand) :
      Raises ⟨fuel, .expression (.unary position operator operand), machine⟩
        ⟨.negateOperand, position⟩ after
  | operands {fuel machine between after position operator operatorPosition left right first second
        error}
      (leftEnds : evaluate (bodyRunner fuel) left machine = (.ok first, between))
      (rightEnds : evaluate (bodyRunner fuel) right between = (.ok second, after))
      (refused :
        Operation.Refuses operator ⟨first, left.position⟩ ⟨second, right.position⟩ operatorPosition
          error) :
      Raises
        ⟨fuel, .expression (.binary position operator operatorPosition left right), machine⟩
        error after
  | casted {fuel machine after position type inner literal}
      (innerEnds : evaluate (bodyRunner fuel) inner machine = (.ok literal, after))
      (refused : literal.cast type = .error (.invalidCast literal.type type)) :
      Raises ⟨fuel, .expression (.cast position type inner), machine⟩
        ⟨.invalidCast literal.type type, position⟩ after
  | noLine {fuel environment console after position type prompt}
      (answered : Console.readLine (promptText prompt) console = (.ok none, after)) :
      Raises ⟨fuel, .expression (.input position type prompt), ⟨environment, console⟩⟩
        ⟨.inputCancelled, position⟩ ⟨environment, after⟩
  | readFailed {fuel environment console after position type prompt reason}
      (answered : Console.readLine (promptText prompt) console = (.error reason, after)) :
      Raises ⟨fuel, .expression (.input position type prompt), ⟨environment, console⟩⟩
        ⟨.console reason, position⟩ ⟨environment, after⟩
  | wrongLine {fuel environment console after position type prompt line}
      (answered : Console.readLine (promptText prompt) console = (.ok (some line), after))
      (refused : Literal.ofLine type line = .error (.invalidInput type line)) :
      Raises ⟨fuel, .expression (.input position type prompt), ⟨environment, console⟩⟩
        ⟨.invalidInput type line, position⟩ ⟨environment, after⟩
  | unknownZoop {fuel machine position label values}
      (refused : machine.environment.routine label = .error (.routineNotDeclared label)) :
      Raises ⟨fuel, .expression (.call position label values), machine⟩
        ⟨.routineNotDeclared label, position⟩ machine
  | arity {fuel machine position label values routine}
      (found : machine.environment.routine label = .ok routine)
      (differs : routine.arity ≠ values.length) :
      Raises ⟨fuel, .expression (.call position label values), machine⟩
        ⟨.argumentCount routine.arity values.length, position⟩ machine
  | tooDeep {fuel machine after position label values routine context}
      (found : machine.environment.routine label = .ok routine)
      (fits : routine.arity = values.length)
      (argumentsEnd :
        evaluateArguments (bodyRunner fuel) values routine.parameters .empty machine =
          (.ok context, after))
      (refused : after.environment.pushContext context = .error .contextOverflow) :
      Raises ⟨fuel, .expression (.call position label values), machine⟩
        ⟨.contextOverflow, position⟩ after
  | returnedType {fuel machine between after position label values routine context literal}
      (found : machine.environment.routine label = .ok routine)
      (fits : routine.arity = values.length)
      (argumentsEnd :
        evaluateArguments (bodyRunner fuel) values routine.parameters .empty machine =
          (.ok context, between))
      (bodyEnds :
        Run.inContext position context
          (Run.inScope .routineBody (bodyRunner fuel routine.body)) between =
            (.ok (.value literal), after))
      (differs : literal.type ≠ routine.resultType) :
      Raises ⟨fuel, .expression (.call position label values), machine⟩
        ⟨.returnType routine.resultType literal.type, position⟩ after
  | argumentType {fuel machine after value values parameter parameters context literal}
      (valueEnds : evaluate (bodyRunner fuel) value machine = (.ok literal, after))
      (differs : literal.type ≠ parameter.type) :
      Raises ⟨fuel, .arguments (value :: values) (parameter :: parameters) context, machine⟩
        ⟨.argumentType parameter.type literal.type, value.position⟩ after
  | printedVoid {fuel machine after position value literal}
      (valueEnds : evaluate (bodyRunner fuel) value machine = (.ok literal, after))
      (isVoid : literal.isVoid = true) :
      Raises ⟨fuel, .statement (.print position value), machine⟩ ⟨.printVoid, position⟩ after
  | printFailed {fuel machine environment before after position value literal reason}
      (valueEnds :
        evaluate (bodyRunner fuel) value machine = (.ok literal, ⟨environment, before⟩))
      (nonvoid : literal.isVoid = false)
      (answered : Console.printLine literal.value.text before = (.error reason, after)) :
      Raises ⟨fuel, .statement (.print position value), machine⟩ ⟨.console reason, position⟩
        ⟨environment, after⟩
  | redeclared {fuel machine position label parameters returnType body}
      (refused :
        machine.environment.declareRoutine ⟨label, parameters, returnType, body⟩ =
          .error (.routineRedeclared label)) :
      Raises ⟨fuel, .statement (.routine position label parameters returnType body), machine⟩
        ⟨.routineRedeclared label, position⟩ machine
  | valueInLoop {fuel machine after position body count literal}
      (roundEnds : executeAll (bodyRunner fuel) fuel body machine = (.ok (.value literal), after)) :
      Raises ⟨fuel, .rounds position body (count + 1), machine⟩ ⟨.unknownLoopResult, position⟩ after

/-- An error with which a point ends is raised there, or it is one of a part.  Between the end of a part
and that of the whole the console is not called. -/
inductive Stems (point : Point κ) (error : RuntimeError) (after : Machine κ) : Prop where
  | raised (raises : Raises point error after)
  | passed {next : Point κ} {between : Machine κ}
      (step : Step point next)
      (ends : next.ending = (.error error, between))
      (sameConsole : Console.Silent κ → after.console = between.console)

namespace Stems

variable {fuel : Nat} {machine after : Machine κ} {error : RuntimeError}

theorem part
    {point next : Point κ} (step : Step point next) (ends : next.ending = (.error error, after)) :
    Stems point error after :=
  .passed step ends fun _ => rfl

/-- What is done to the environment after a part does not call the console. -/
theorem leave
    {point next : Point κ} {between : Machine κ} {change : Change} {environment : Environment}
    (step : Step point next) (ends : next.ending = (.error error, between))
    (left : after = between.became change environment) : Stems point error after := by
  refine .passed step ends fun silent => ?_
  rw [left, Machine.became_of_silent silent]

/-! ## Expressions -/

theorem input
    {position : Position} {type : DataType} {prompt : Option String}
    (ends : evaluate (bodyRunner fuel) (.input position type prompt) machine =
      (.error error, after)) :
    Raises ⟨fuel, .expression (.input position type prompt), machine⟩ error after := by
  obtain ⟨environment, console⟩ := machine
  simp only [evaluate] at ends
  rcases Run.bind_eq_error ends with readEnds | ⟨line, middle, readEnds, ends⟩
  · unfold Run.read at readEnds
    split at readEnds
    · cases readEnds
    · next answered =>
        cases readEnds
        exact .noLine answered
    · next answered =>
        cases readEnds
        exact .readFailed answered
  · obtain ⟨cause, refused, rfl, rfl⟩ := Run.ofResultAt_eq_error ends
    obtain rfl := Literal.ofLine_eq_error refused
    unfold Run.read at readEnds
    split at readEnds
    · next answered =>
        cases readEnds
        exact .wrongLine answered refused
    · cases readEnds
    · cases readEnds

/-- A call fails before its arguments, in one of them, between them and its body, in its body, or after
it. -/
theorem call
    {position : Position} {label : String} {values : List Expression}
    (ends : evaluate (bodyRunner fuel) (.call position label values) machine =
      (.error error, after)) :
    Stems ⟨fuel, .expression (.call position label values), machine⟩ error after := by
  simp only [evaluate] at ends
  cases found : machine.environment.routine label with
  | error cause =>
      rw [Run.ask_bind_of_error found] at ends
      cases ends
      obtain rfl := Environment.routine_eq_error found
      exact .raised (.unknownZoop found)
  | ok routine =>
      rw [Run.ask_bind_of_ok found] at ends
      by_cases fits : routine.arity = values.length
      · rw [if_pos fits] at ends
        rcases Run.bind_eq_error ends with argumentsFail | ⟨context, between, argumentsEnd, ends⟩
        · exact .part (.arguments found fits) argumentsFail
        · rcases Run.bind_eq_error ends with bodyFails | ⟨flow, left, bodyEnds, ends⟩
          · simp only [Run.inContext] at bodyFails
            cases push : between.environment.pushContext context with
            | error cause =>
                rw [push] at bodyFails
                cases bodyFails
                obtain rfl := Environment.pushContext_eq_error push
                exact .raised (.tooDeep found fits argumentsEnd push)
            | ok entered =>
                rw [push] at bodyFails
                dsimp only at bodyFails
                rcases inside : Run.inScope .routineBody (bodyRunner fuel routine.body)
                  (between.became (.entered context) entered) with ⟨outcome, returned⟩
                rw [inside] at bodyFails
                cases bodyFails
                obtain ⟨last, lastEnds, rfl⟩ := Run.inScope_eq_error inside
                refine .passed (.called found fits argumentsEnd push) lastEnds fun silent => ?_
                rw [Machine.became_of_silent silent, Machine.became_of_silent silent]
          · cases flow with
            | next | giveBack | leave => cases ends
            | value literal =>
                simp only [callResult] at ends
                split at ends
                · cases ends
                · next differs =>
                    cases ends
                    exact .raised (.returnedType found fits argumentsEnd bodyEnds differs)
      · rw [if_neg fits] at ends
        cases ends
        exact .raised (.arity found fits)

theorem expression
    {value : Expression}
    (ends : evaluate (bodyRunner fuel) value machine = (.error error, after)) :
    Stems ⟨fuel, .expression value, machine⟩ error after := by
  cases value with
  | literal position value =>
      simp only [evaluate] at ends
      cases ends
  | «variable» position subject =>
      simp only [evaluate, Run.ask] at ends
      obtain ⟨cause, refused, rfl, rfl⟩ := Run.ofResultAt_eq_error ends
      obtain rfl := Environment.lookup_eq_error refused
      exact .raised (.unknownVariable refused)
  | declare position subject type value =>
      simp only [evaluate] at ends
      rcases Run.bind_eq_error ends with valueFails | ⟨literal, middle, valueEnds, ends⟩
      · exact .part .declared valueFails
      · obtain ⟨rfl, refused | ⟨stored, cause, accepted, refused, rfl⟩⟩ := Run.store_eq_error ends
        · obtain ⟨differs, rfl⟩ := declaredValue_eq_error refused
          exact .raised (.declaredType valueEnds differs)
        · obtain rfl := declaredValue_eq_ok accepted
          rcases Environment.define_eq_error refused with rfl | rfl
          · exact .raised (.argumentName valueEnds refused)
          · exact .raised (.redefined valueEnds refused)
  | reassign position name value =>
      simp only [evaluate] at ends
      cases found : machine.environment.lookup ⟨true, name⟩ with
      | error cause =>
          rw [Run.ask_bind_of_error found] at ends
          cases ends
          obtain rfl := Environment.lookup_eq_error found
          exact .raised (.unknownTarget found)
      | ok old =>
          rw [Run.ask_bind_of_ok found] at ends
          rcases Run.bind_eq_error ends with valueFails | ⟨literal, middle, valueEnds, ends⟩
          · exact .part (.reassigned found) valueFails
          · obtain ⟨rfl, refused | ⟨stored, cause, accepted, refused, rfl⟩⟩ :=
              Run.store_eq_error ends
            · obtain ⟨differs, why⟩ := reassignedValue_eq_error refused
              split at why
              · next numeric =>
                  obtain ⟨noCast, rfl⟩ := why
                  exact .raised (.reassignedCast found valueEnds numeric noCast)
              · obtain rfl := why
                exact .raised (.reassignedType found valueEnds differs)
            · obtain rfl := Environment.assign_eq_error refused
              exact .raised (.lostTarget found valueEnds refused)
  | grouping position inner =>
      simp only [evaluate] at ends
      exact .part .grouped ends
  | unary position operator operand =>
      simp only [evaluate] at ends
      rcases Run.bind_eq_error ends with operandFails | ⟨literal, middle, operandEnds, ends⟩
      · exact .part .operand operandFails
      · obtain ⟨cause, refused, rfl, rfl⟩ := Run.ofResultAt_eq_error ends
        rcases Operation.unary_eq_error refused with rfl | rfl
        · exact .raised (.notOperand operandEnds refused)
        · exact .raised (.negateOperand operandEnds refused)
  | binary position operator operatorPosition left right =>
      simp only [evaluate] at ends
      rcases Run.bind_eq_error ends with leftFails | ⟨first, between, leftEnds, ends⟩
      · exact .part .leftOperand leftFails
      · rcases Run.bind_eq_error ends with rightFails | ⟨second, middle, rightEnds, ends⟩
        · exact .part (.rightOperand leftEnds) rightFails
        · obtain ⟨refused, rfl⟩ := Run.ofResult_eq_error ends
          exact .raised (.operands leftEnds rightEnds (Operation.binary_eq_error refused))
  | cast position type inner =>
      simp only [evaluate] at ends
      rcases Run.bind_eq_error ends with innerFails | ⟨literal, middle, innerEnds, ends⟩
      · exact .part .casted innerFails
      · obtain ⟨cause, refused, rfl, rfl⟩ := Run.ofResultAt_eq_error ends
        obtain rfl := Literal.cast_eq_error refused
        exact .raised (.casted innerEnds refused)
  | input position type prompt => exact .raised (input ends)
  | call position label values => exact call ends

theorem arguments
    {values : List Expression} {parameters : List Parameter} {context : Context}
    (ends : evaluateArguments (bodyRunner fuel) values parameters context machine =
      (.error error, after)) :
    Stems ⟨fuel, .arguments values parameters context, machine⟩ error after := by
  cases values with
  | nil =>
      simp only [evaluateArguments] at ends
      cases ends
  | cons value values =>
      cases parameters with
      | nil =>
          simp only [evaluateArguments] at ends
          cases ends
      | cons parameter parameters =>
          simp only [evaluateArguments] at ends
          rcases Run.bind_eq_error ends with valueFails | ⟨literal, middle, valueEnds, ends⟩
          · exact .part .argument valueFails
          · split at ends
            · next typed => exact .part (.moreArguments valueEnds typed) ends
            · next differs =>
                cases ends
                exact .raised (.argumentType valueEnds differs)

/-! ## Statements -/

theorem statement
    {single : Statement}
    (ends : execute (bodyRunner fuel) fuel single machine = (.error error, after)) :
    Stems ⟨fuel, .statement single, machine⟩ error after := by
  cases single with
  | expression position value =>
      simp only [execute] at ends
      rcases Run.bind_eq_error ends with valueFails | ⟨_, _, _, ends⟩
      · exact .part .effect valueFails
      · cases ends
  | print position value =>
      simp only [execute] at ends
      rcases Run.bind_eq_error ends with valueFails | ⟨literal, middle, valueEnds, ends⟩
      · exact .part .printed valueFails
      · by_cases isVoid : literal.isVoid = true
        · rw [if_pos isVoid] at ends
          cases ends
          exact .raised (.printedVoid valueEnds isVoid)
        · rw [if_neg isVoid] at ends
          rcases Run.bind_eq_error ends with printEnds | ⟨_, _, _, ends⟩
          · unfold Run.print at printEnds
            split at printEnds
            · cases printEnds
            · next answered =>
                cases printEnds
                exact .raised (.printFailed valueEnds (by simpa using isVoid) answered)
          · cases ends
  | block position body =>
      simp only [execute] at ends
      obtain ⟨between, insideEnds, left⟩ := Run.inScope_eq_error ends
      exact .leave .block insideEnds left
  | condition position first others otherwise =>
      simp only [execute] at ends
      rcases Run.bind_eq_error ends with firstFails | ⟨chosen, middle, firstEnds, ends⟩
      · exact .part .first firstFails
      · cases chosen with
        | some flow => cases ends
        | none =>
            rcases Run.bind_eq_error ends with othersFail | ⟨chosen, last, othersEnd, ends⟩
            · exact .part (.others firstEnds) othersFail
            · cases chosen with
              | some flow => cases ends
              | none => exact .part (.otherwise firstEnds othersEnd) ends
  | routine position label parameters returnType body =>
      simp only [execute] at ends
      rcases Run.bind_eq_error ends with declarationFails | ⟨_, _, _, ends⟩
      · obtain ⟨cause, refused, rfl, rfl⟩ := Run.perform_eq_error declarationFails
        obtain rfl := Environment.declareRoutine_eq_error refused
        exact .raised (.redeclared refused)
      · cases ends
  | giveBack position value =>
      cases value with
      | none =>
          simp only [execute] at ends
          cases ends
      | some value =>
          simp only [execute] at ends
          rcases Run.bind_eq_error ends with valueFails | ⟨_, _, _, ends⟩
          · exact .part .givenBack valueFails
          · cases ends
  | loop position body =>
      simp only [execute] at ends
      exact .part .loop ends
  | leave position =>
      simp only [execute] at ends
      cases ends

theorem statements
    {body : List Statement}
    (ends : executeAll (bodyRunner fuel) fuel body machine = (.error error, after)) :
    Stems ⟨fuel, .statements body, machine⟩ error after := by
  cases body with
  | nil =>
      simp only [executeAll] at ends
      cases ends
  | cons statement rest =>
      simp only [executeAll] at ends
      rcases Run.bind_eq_error ends with statementFails | ⟨flow, middle, statementEnds, ends⟩
      · exact .part .statement statementFails
      · cases flow with
        | next => exact .part (.moreStatements statementEnds) ends
        | giveBack | leave | value => cases ends

theorem branch
    {guarded : Branch}
    (ends : executeBranch (bodyRunner fuel) fuel guarded machine = (.error error, after)) :
    Stems ⟨fuel, .branch guarded, machine⟩ error after := by
  obtain ⟨position, guard, body⟩ := guarded
  simp only [executeBranch] at ends
  rcases Run.bind_eq_error ends with guardFails | ⟨literal, middle, guardEnds, ends⟩
  · exact .part .guard guardFails
  · split at ends
    · next passes =>
        rcases Run.bind_eq_error ends with bodyFails | ⟨_, _, _, ends⟩
        · obtain ⟨between, insideEnds, left⟩ := Run.inScope_eq_error bodyFails
          exact .leave (.guarded guardEnds passes) insideEnds left
        · cases ends
    · cases ends

theorem branches
    {guarded : List Branch}
    (ends : executeBranches (bodyRunner fuel) fuel guarded machine = (.error error, after)) :
    Stems ⟨fuel, .branches guarded, machine⟩ error after := by
  cases guarded with
  | nil =>
      simp only [executeBranches] at ends
      cases ends
  | cons branch rest =>
      simp only [executeBranches] at ends
      rcases Run.bind_eq_error ends with branchFails | ⟨chosen, middle, branchEnds, ends⟩
      · exact .part .branch branchFails
      · cases chosen with
        | some flow => cases ends
        | none => exact .part (.moreBranches branchEnds) ends

theorem otherwise
    {body : Option (List Statement)}
    (ends : executeOtherwise (bodyRunner fuel) fuel body machine = (.error error, after)) :
    Stems ⟨fuel, .otherwise body, machine⟩ error after := by
  cases body with
  | none =>
      simp only [executeOtherwise] at ends
      cases ends
  | some body =>
      simp only [executeOtherwise] at ends
      obtain ⟨between, insideEnds, left⟩ := Run.inScope_eq_error ends
      exact .leave .otherwiseBody insideEnds left

theorem rounds
    {position : Position} {body : List Statement} {count : Nat}
    (ends : repeatBody position (executeAll (bodyRunner fuel) fuel body) count machine =
      (.error error, after)) :
    Stems ⟨fuel, .rounds position body count, machine⟩ error after := by
  cases count with
  | zero => cases ends
  | succ count =>
      rw [repeatBody_succ] at ends
      rcases Run.bind_eq_error ends with roundFails | ⟨flow, middle, roundEnds, ends⟩
      · exact .part .round roundFails
      · cases flow with
        | next => exact .part (.moreRounds roundEnds) ends
        | giveBack | leave => cases ends
        | value literal =>
            cases ends
            exact .raised (.valueInLoop roundEnds)

theorem zoop
    {body : List Statement} (ends : bodyRunner fuel body machine = (.error error, after)) :
    Stems ⟨fuel, .zoop body, machine⟩ error after := by
  cases fuel with
  | zero => cases ends
  | succ fuel => exact .part .zoop ends

theorem program
    {rest : List Statement} (ends : runStatements fuel rest machine = (.error error, after)) :
    Stems ⟨fuel, .program rest, machine⟩ error after := by
  cases rest with
  | nil =>
      simp only [runStatements] at ends
      cases ends
  | cons statement rest =>
      simp only [runStatements] at ends
      rcases Run.bind_eq_error ends with statementFails | ⟨flow, middle, statementEnds, ends⟩
      · exact .part .top statementFails
      · exact .part (.moreTop statementEnds) ends

theorem of_ending {point : Point κ} (ends : point.ending = (.error error, after)) :
    Stems point error after := by
  obtain ⟨fuel, task, machine⟩ := point
  cases task with
  | expression value => exact expression ends
  | arguments values parameters context => exact arguments ends
  | statement single => exact statement ends
  | statements body => exact statements ends
  | branch guarded => exact branch ends
  | branches guarded => exact branches ends
  | otherwise body => exact otherwise ends
  | rounds position body count => exact rounds ends
  | zoop body => exact zoop ends
  | program rest => exact program ends

end Stems

/-! ## The point that raises an error -/

theorem Visits.of_step
    {start next point : Point κ} (step : Step start next) (visits : Visits next point) :
    Visits start point := by
  induction visits with
  | here => exact .next .here step
  | next _ last inductionHypothesis => exact .next inductionHypothesis last

/-- A run that ends with an error comes to the point that raises it, and leaves the console as that
point has left it. -/
theorem Point.raised_at
    (point : Point κ) :
    ∀ {error after}, point.ending = (.error error, after) →
      ∃ source left, Visits point source ∧ Raises source error left ∧
        (Console.Silent κ → after.console = left.console) := by
  induction point using Step.induction with
  | ofSteps point inductionHypothesis =>
      intro error after ends
      cases Stems.of_ending ends with
      | raised raises => exact ⟨point, after, .here, raises, fun _ => rfl⟩
      | @passed next between step nextEnds sameConsole =>
          obtain ⟨source, left, visits, raises, sameLeft⟩ := inductionHypothesis next step nextEnds
          refine ⟨source, left, visits.of_step step, raises, fun silent => ?_⟩
          rw [sameConsole silent, sameLeft silent]

end Zoop
