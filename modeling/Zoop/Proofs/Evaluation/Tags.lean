import Zoop.Proofs.Evaluation.Contract
import Zoop.Proofs.Grammar.WellFormed

/-!
# Values and their data types

A value and its data type are independent data.  In the programs that the grammar accepts they agree
wherever a value is computed, stored or given back, and nothing that is void is stored, given back or
printed.
-/

namespace Zoop

open Evaluation

/-! ## Ways to make values -/

namespace Literal

theorem isNumeric_of_agrees
    {literal : Literal} {number : Number} (agrees : literal.agrees = true)
    (isNumber : literal.value = .number number) : literal.type.isNumeric = true := by
  obtain ⟨type, value⟩ := literal
  subst isNumber
  cases type with
  | int | uint | dec | udec => rfl
  | string | bool | label | void => cases agrees

/-- Nothing but void has the data type of void, or its value. -/
theorem type_eq_void_iff_of_agrees {literal : Literal} (agrees : literal.agrees = true) :
    literal.type = .void ↔ literal.value = .void := by
  obtain ⟨type, value⟩ := literal
  cases type <;> cases value <;> simp_all [Literal.agrees]

theorem eq_void_of_agrees
    {literal : Literal} (agrees : literal.agrees = true) (isVoid : literal.type = .void) :
    literal = .void := by
  have hasNone := (type_eq_void_iff_of_agrees agrees).mp isVoid
  obtain ⟨type, value⟩ := literal
  subst isVoid hasNone
  rfl

theorem agrees_ofNumber {type : DataType} (numeric : type.isNumeric = true) (number : Number) :
    (ofNumber type number).agrees = true :=
  agrees_number numeric (type.fit number)

theorem agrees_cast
    {literal value : Literal} {target : DataType} (agrees : literal.agrees = true)
    (casted : literal.cast target = .ok value) : value.agrees = true := by
  unfold cast at casted
  split at casted
  · cases casted
    exact agrees
  · split at casted
    · cases casted
    · cases target <;> simp only at casted
      case int | uint | dec | udec =>
        split at casted
        · cases casted
          exact agrees_ofNumber rfl _
        · cases casted
      case string | bool =>
        cases casted
        rfl
      case label =>
        split at casted
        · cases casted
          rfl
        · cases casted
      case void => cases casted

theorem agrees_ofLine
    {type : DataType} {line : String} {value : Literal} (read : ofLine type line = .ok value) :
    value.agrees = true := by
  unfold ofLine at read
  cases type <;> simp only at read
  case int | uint | dec | udec =>
    split at read
    · cases read
      rfl
    · cases read
  case string | label =>
    cases read
    rfl
  case bool =>
    split at read
    · cases read
      rfl
    · split at read
      · cases read
        rfl
      · cases read
  case void => cases read

end Literal

namespace Operation

theorem agrees_unary
    {operator : UnaryOperator} {operand value : Literal} (agrees : operand.agrees = true)
    (computed : unary operator operand = .ok value) : value.agrees = true := by
  unfold unary at computed
  split at computed
  · cases computed
    rfl
  · cases computed
  · next isNumber =>
      cases computed
      exact Literal.agrees_ofNumber (Literal.isNumeric_of_agrees agrees isNumber) _
  · cases computed

theorem numbers_eq_ok
    {operator : BinaryOperator} {left right : Operand} {pair : Number × Number}
    (found : numbers operator left right = .ok pair) :
    left.literal.value = .number pair.1 := by
  unfold numbers at found
  split at found
  · next first _ isFirst _ =>
      cases found
      cases valueIs : left.literal.value with
      | number value =>
          rw [valueIs] at isFirst
          cases isFirst
          rfl
      | string | boolean | void =>
          rw [valueIs] at isFirst
          cases isFirst
  · cases found
  · cases found

theorem agrees_arithmetic
    {operator : BinaryOperator} {compute : Number → Number → Number} {left right : Operand}
    {place : Position} {value : Literal} (agrees : left.literal.agrees = true)
    (computed : arithmetic operator compute left right place = .ok value) :
    value.agrees = true := by
  unfold arithmetic at computed
  cases found : numbers operator left right with
  | error error =>
      rw [found] at computed
      cases computed
  | ok pair =>
      rw [found] at computed
      have numeric := Literal.isNumeric_of_agrees agrees (numbers_eq_ok found)
      simp only [Bind.bind, Except.bind] at computed
      split at computed
      · cases computed
      · split at computed
        · split at computed
          · cases computed
          · cases computed
            exact Literal.agrees_ofNumber rfl _
        · cases computed
          exact Literal.agrees_ofNumber numeric _

theorem agrees_comparison
    {operator : BinaryOperator} {test : Number → Number → Bool} {left right : Operand}
    {value : Literal} (computed : comparison operator test left right = .ok value) :
    value.agrees = true := by
  unfold comparison at computed
  cases found : numbers operator left right with
  | error error =>
      rw [found] at computed
      cases computed
  | ok pair =>
      rw [found] at computed
      cases computed
      rfl

theorem agrees_logic
    {operator : BinaryOperator} {connect : Bool → Bool → Bool} {left right : Operand}
    {value : Literal} (computed : logic operator connect left right = .ok value) :
    value.agrees = true := by
  unfold logic at computed
  cases found : truths operator left right with
  | error error =>
      rw [found] at computed
      cases computed
  | ok pair =>
      rw [found] at computed
      cases computed
      rfl

theorem agrees_equality
    {expected : Bool} {left right : Operand} {place : Position} {value : Literal}
    (computed : equality expected left right place = .ok value) : value.agrees = true := by
  unfold equality at computed
  split at computed
  · cases computed
  · cases computed
    rfl

theorem agrees_concat
    {left right : Operand} {value : Literal} (computed : concat left right = .ok value) :
    value.agrees = true := by
  unfold concat at computed
  split at computed
  · cases computed
  · split at computed
    · cases computed
    · cases computed
      rfl

theorem agrees_binary
    {operator : BinaryOperator} {left right : Operand} {place : Position} {value : Literal}
    (agrees : left.literal.agrees = true)
    (computed : binary operator left right place = .ok value) : value.agrees = true := by
  unfold binary at computed
  cases operator with
  | add | sub | mul | div => exact agrees_arithmetic agrees computed
  | less | lessOrEqual | greater | greaterOrEqual => exact agrees_comparison computed
  | and | or => exact agrees_logic computed
  | equal | notEqual => exact agrees_equality computed
  | concat => exact agrees_concat computed

end Operation

/-! ## The contract -/

/-- The value of a literal that may be stored is of its data type, which is not that of void. -/
def Literal.Tagged (literal : Literal) : Prop :=
  literal.agrees = true ∧ literal.type ≠ .void

theorem Expression.ne_void_of_isWellFormed
    {expression : Expression} {type : DataType} (wellFormed : expression.isWellFormed = true)
    (named : expression.namedType? = some type) : type ≠ .void := by
  match expression with
  | .declare _ _ _ _ =>
      cases named
      simp only [isWellFormed, Bool.and_eq_true, bne_iff_ne] at wellFormed
      exact wellFormed.2
  | .cast _ _ _ | .input _ _ _ =>
      cases named
      simpa [isWellFormed] using wellFormed
  | .literal _ _ | .variable _ _ | .reassign _ _ _ | .grouping _ _ | .unary _ _ _
  | .binary _ _ _ _ _ | .call _ _ _ => cases named

theorem Condition.wellFormed_tags :
    ValueContract Condition.wellFormed (fun literal => literal.agrees = true)
      (fun type => type ≠ .void) where
  named := Expression.ne_void_of_isWellFormed
  parameters := by
    rintro routine ⟨⟨position, wellFormed⟩, _⟩ parameter member
    simp only [wellFormed_statement, Statement.isWellFormed, Bool.and_eq_true, List.all_eq_true,
      bne_iff_ne] at wellFormed
    exact (wellFormed.1 parameter member).2
  literal := by
    intro position value wellFormed
    simp only [wellFormed_expression, Expression.isWellFormed, Bool.and_eq_true] at wellFormed
    exact wellFormed.1
  void := rfl
  unary := Operation.agrees_unary
  binary agrees _ := Operation.agrees_binary agrees
  cast agrees _ := Literal.agrees_cast agrees
  line _ := Literal.agrees_ofLine

/-! ## Calls -/

theorem callResult_eq_ok
    {κ : Type} {position : Position} {routine : Routine} {flow : Flow} {machine after : Machine κ}
    {literal : Literal} (ends : callResult position routine flow machine = (.ok literal, after)) :
    literal = .void ∨ literal.type = routine.resultType := by
  cases flow with
  | next | giveBack =>
      cases ends
      exact .inl rfl
  | leave => cases ends
  | value given =>
      simp only [callResult] at ends
      split at ends
      · next typed =>
          cases ends
          exact .inr typed
      · cases ends

theorem evaluate_call_eq_ok
    {κ : Type} [Console κ] {runBody : BodyRunner κ} {position : Position} {label : String}
    {arguments : List Expression} {machine after : Machine κ} {literal : Literal}
    (ends : evaluate runBody (.call position label arguments) machine = (.ok literal, after)) :
    ∃ routine, machine.environment.routine label = .ok routine ∧
      (literal = .void ∨ literal.type = routine.resultType) := by
  simp only [evaluate] at ends
  cases found : machine.environment.routine label with
  | error cause =>
      rw [Run.ask_bind_of_error found] at ends
      cases ends
  | ok routine =>
      rw [Run.ask_bind_of_ok found] at ends
      refine ⟨routine, rfl, ?_⟩
      split at ends
      · obtain ⟨context, between, _, ends⟩ := Run.bind_eq_ok ends
        obtain ⟨flow, returned, _, ends⟩ := Run.bind_eq_ok ends
        exact callResult_eq_ok ends
      · cases ends

/-! ## Points -/

/-- What a part of a program gives agrees with its data type, and a value for a zoop is not void. -/
def Task.Tagged : (task : Task) → task.Result → Prop
  | .expression _ => fun literal => literal.agrees = true
  | .arguments _ _ _ => Bindings.Every Literal.Tagged
  | .statement _ | .statements _ | .otherwise _ | .rounds _ _ _ | .zoop _ => fun flow =>
      ∀ literal, flow = .value literal → literal.Tagged
  | .branch _ | .branches _ => fun chosen =>
      ∀ literal, chosen = some (.value literal) → literal.Tagged
  | .program _ => fun _ => True

variable {κ : Type} [Console κ]

/-- Values agree with their data types at a point, before and after it is run. -/
structure Point.Tagged (point : Point κ) : Prop where
  before : point.machine.environment.Every Literal.Tagged
  after : point.ending.2.environment.Every Literal.Tagged
  result : ∀ result, point.ending.1 = .ok result → point.task.Tagged result
  /-- A value that is printed is not void, and at one that is void the console is left alone. -/
  prints : ∀ position value literal after,
    point.task = .statement (.print position value) →
    evaluate (bodyRunner point.fuel) value point.machine = (.ok literal, after) →
    literal.agrees = true ∧
      (if literal.type = .void then
        execute (bodyRunner point.fuel) point.fuel (.print position value) point.machine =
          (.error ⟨.printVoid, position⟩, after)
      else
        literal.value ≠ .void ∧
          execute (bodyRunner point.fuel) point.fuel (.print position value) point.machine =
            (Run.print position literal.value.text >>= fun _ => pure .next) after)
  /-- A call gives a value of the data type that the zoop names, or void. -/
  calls : ∀ position label arguments literal after,
    point.task = .expression (.call position label arguments) →
    evaluate (bodyRunner point.fuel) (.call position label arguments) point.machine =
      (.ok literal, after) →
    ∃ routine, point.machine.environment.routine label = .ok routine ∧
      (literal = .void ∨ routine.returnType = some literal.type)

theorem Routine.returnType_eq_some
    {routine : Routine} {type : DataType} (typed : type = routine.resultType)
    (nonvoid : type ≠ .void) : routine.returnType = some type := by
  unfold resultType at typed
  cases named : routine.returnType with
  | none =>
      rw [named] at typed
      exact absurd typed nonvoid
  | some result =>
      rw [named] at typed
      rw [typed]
      rfl

theorem execute_print
    {runBody : BodyRunner κ} {fuel : Nat} {position : Position} {value : Expression}
    {machine after : Machine κ} {literal : Literal}
    (ends : evaluate runBody value machine = (.ok literal, after)) :
    execute runBody fuel (.print position value) machine =
      if literal.type = .void then
        (.error ⟨.printVoid, position⟩, after)
      else
        (Run.print position literal.value.text >>= fun _ => pure .next) after := by
  simp only [execute]
  rw [Run.bind_of_ok ends]
  by_cases isVoid : literal.type = .void
  · simp [Literal.isVoid, isVoid, Run.fail]
  · simp [Literal.isVoid, isVoid]

/-- At every point of the runs of programs that the grammar accepts, one after the other on one machine
and whether they fail or not, values agree with their data types, and nothing that is void is stored,
given back or printed. -/
theorem tags_agree_at_every_point
    (fuel : Nat) (programs : List Program) (console : κ)
    (accepted : ∀ program ∈ programs, ∃ tokens, Program.parse tokens = .ok program)
    (point : Point κ) (visited : Program.Visited fuel programs console point) : point.Tagged := by
  have wellFormed : ∀ program ∈ programs, Condition.wellFormed.inProgram program = true := by
    intro program member
    obtain ⟨tokens, parsed⟩ := accepted program member
    exact Program.wellFormed_of_parse parsed
  have contract := Condition.wellFormed_tags.contract
  obtain ⟨ready, ends⟩ := contract.of_visited wellFormed Environment.every_initial visited
  refine ⟨ready.sound.kept, ends.kept.kept, ?_, ?_, ?_⟩
  · intro result given
    have delivers := ends.good result given
    obtain ⟨pointFuel, task, machine⟩ := point
    cases task with
    | branch | branches => exact fun literal chosen => delivers (.value literal) chosen literal rfl
    | _ => exact delivers
  · intro position value literal after isPrint valueEnds
    obtain ⟨pointFuel, task, machine⟩ := point
    subst isPrint
    have valueReady := contract.ready_of_step ready (fun _ _ => contract.ends) .printed
    have agrees := ((contract.ends valueReady).of_ok valueEnds).2
    refine ⟨agrees, ?_⟩
    rw [execute_print valueEnds]
    split
    · rfl
    · next nonvoid =>
        refine ⟨?_, rfl⟩
        intro isVoid
        exact nonvoid ((Literal.type_eq_void_iff_of_agrees agrees).mpr isVoid)
  · intro position label arguments literal after isCall callEnds
    obtain ⟨pointFuel, task, machine⟩ := point
    subst isCall
    obtain ⟨routine, found, typed⟩ := evaluate_call_eq_ok callEnds
    refine ⟨routine, found, ?_⟩
    have agrees := (ends.of_ok callEnds).2
    by_cases isVoid : literal.type = .void
    · exact .inl (Literal.eq_void_of_agrees agrees isVoid)
    · rcases typed with rfl | typed
      · exact absurd rfl isVoid
      · exact .inr (Routine.returnType_eq_some typed isVoid)

/-- A zoop that gives its argument back, and a call of it with a text. -/
def echoTokens : List Token := [
  ⟨.keyword, "zoop", ⟨1, 0⟩, ⟨0, 4⟩, none⟩,
  ⟨.colon, ":", ⟨1, 4⟩, ⟨4, 1⟩, none⟩,
  ⟨.keyword, "string", ⟨1, 5⟩, ⟨5, 6⟩, none⟩,
  ⟨.literal, "\x60f\x60", ⟨1, 12⟩, ⟨12, 3⟩, some (.string "f")⟩,
  ⟨.flowIn, "<-", ⟨1, 16⟩, ⟨16, 2⟩, none⟩,
  ⟨.variable, "$n", ⟨1, 19⟩, ⟨19, 2⟩, some (.string "n")⟩,
  ⟨.colon, ":", ⟨1, 21⟩, ⟨21, 1⟩, none⟩,
  ⟨.keyword, "string", ⟨1, 22⟩, ⟨22, 6⟩, none⟩,
  ⟨.direct, "=>", ⟨1, 29⟩, ⟨29, 2⟩, none⟩,
  ⟨.variable, "$n", ⟨1, 32⟩, ⟨32, 2⟩, some (.string "n")⟩,
  ⟨.flowOut, "->", ⟨1, 35⟩, ⟨35, 2⟩, none⟩,
  ⟨.newLine, "\n", ⟨1, 37⟩, ⟨37, 1⟩, none⟩,
  ⟨.literal, "\x60f\x60", ⟨2, 0⟩, ⟨38, 3⟩, some (.string "f")⟩,
  ⟨.keyword, "de", ⟨2, 4⟩, ⟨42, 2⟩, none⟩,
  ⟨.literal, "\"x\"", ⟨2, 7⟩, ⟨45, 3⟩, some (.string "x")⟩]

def echoBody : List Statement :=
  [.giveBack ⟨1, 35⟩ (some (.variable ⟨1, 32⟩ ⟨false, "n"⟩))]

def echoProgram : Program :=
  ⟨[.routine ⟨1, 0⟩ "f" [⟨"n", .string⟩] (some .string) echoBody,
    .expression ⟨2, 0⟩ (.call ⟨2, 0⟩ "f" [.literal ⟨2, 7⟩ (.string "x")])]⟩

theorem tags_agree_in_echoBody :
    Program.parse echoTokens = .ok echoProgram ∧
    ∃ machine : Machine BufferedConsole,
      Program.Visited 1 [echoProgram] (BufferedConsole.ofInput []) ⟨1, .zoop echoBody, machine⟩ ∧
      machine.environment.contexts.items = [⟨[("n", .string "x")]⟩] ∧
      Point.Tagged ⟨1, .zoop echoBody, machine⟩ := by
  have parsed : Program.parse echoTokens = .ok echoProgram := by rfl
  have accepted :
      ∀ program ∈ [echoProgram], ∃ tokens, Program.parse tokens = .ok program := by
    intro program member
    rw [List.mem_singleton.mp member]
    exact ⟨echoTokens, parsed⟩
  let start : Point BufferedConsole :=
    ⟨1, .program echoProgram.statements, Machine.start (BufferedConsole.ofInput [])⟩
  have declared : Visits start _ := .next .here (.moreTop rfl)
  have called := ((declared.next .top).next .effect).next (.called rfl rfl rfl rfl)
  have visited :
      Program.Visited 1 [echoProgram] (BufferedConsole.ofInput []) ⟨1, .zoop echoBody, _⟩ :=
    ⟨[], echoProgram, [], rfl, called⟩
  exact ⟨parsed, _, visited, rfl, tags_agree_at_every_point 1 _ _ accepted _ visited⟩

end Zoop
