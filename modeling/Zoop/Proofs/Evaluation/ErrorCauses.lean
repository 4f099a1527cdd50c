import Zoop.Evaluation.Expression

/-!
# The causes of errors

Each question to an environment, each change of it and each operation on values is refused for causes of
its own.  None of them fails for a cause that another one fails for, and none blames the console.
-/

namespace Zoop

/-! ## Environments -/

namespace Environment

variable {environment : Environment} {cause : RuntimeCause}

theorem lookup_eq_error
    {subject : Variable} (refused : environment.lookup subject = .error cause) :
    cause = .undefinedVariable subject := by
  unfold lookup at refused
  split at refused
  · cases refused
  · split at refused
    · cases refused
    · cases refused
      rfl

/-- A declaration is refused for the name of an argument, or for a name that the scope has already. -/
theorem define_eq_error
    {subject : Variable} {value : Literal}
    (refused : environment.define subject value = .error cause) :
    cause = .contextRedefinition subject.name ∨ cause = .redefinition subject.name := by
  unfold define at refused
  split at refused
  · cases refused
    exact .inl rfl
  · split at refused
    · cases refused
      exact .inr rfl
    · cases refused

theorem assign_eq_error
    {name : String} {value : Literal} (refused : environment.assign name value = .error cause) :
    cause = .notDefined name := by
  unfold assign at refused
  split at refused
  · cases refused
  · cases refused
    rfl

theorem routine_eq_error
    {label : String} (refused : environment.routine label = .error cause) :
    cause = .routineNotDeclared label := by
  unfold routine at refused
  split at refused
  · cases refused
  · cases refused
    rfl

theorem declareRoutine_eq_error
    {routine : Routine} (refused : environment.declareRoutine routine = .error cause) :
    cause = .routineRedeclared routine.label := by
  unfold declareRoutine at refused
  split at refused
  · cases refused
    rfl
  · cases refused

theorem pushContext_eq_error
    {context : Context} (refused : environment.pushContext context = .error cause) :
    cause = .contextOverflow := by
  unfold pushContext at refused
  split at refused
  · cases refused
  · cases refused
    rfl

end Environment

/-! ## Values -/

theorem Literal.cast_eq_error
    {literal : Literal} {target : DataType} {cause : RuntimeCause}
    (refused : literal.cast target = .error cause) :
    cause = .invalidCast literal.type target := by
  unfold cast at refused
  split at refused
  · cases refused
  · split at refused
    · cases refused
      rfl
    · cases target <;> simp only at refused
      case int | uint | dec | udec | label =>
        split at refused
        · cases refused
        · cases refused
          rfl
      case string | bool => cases refused
      case void =>
        cases refused
        rfl

theorem Literal.ofLine_eq_error
    {type : DataType} {line : String} {cause : RuntimeCause}
    (refused : ofLine type line = .error cause) : cause = .invalidInput type line := by
  unfold ofLine at refused
  cases type <;> simp only at refused
  case string | label => cases refused
  case bool =>
    split at refused
    · cases refused
    · split at refused
      · cases refused
      · cases refused
        rfl
  case int | uint | dec | udec =>
    split at refused
    · cases refused
    · cases refused
      rfl
  case void =>
    cases refused
    rfl

namespace Evaluation

theorem declaredValue_eq_error
    {subject : Variable} {type : DataType} {position : Position} {literal : Literal}
    {error : RuntimeError} (refused : declaredValue subject type position literal = .error error) :
    literal.type ≠ type ∧ error = ⟨.assignType literal.type subject type, position⟩ := by
  unfold declaredValue at refused
  split at refused
  · cases refused
  · next differs =>
      cases refused
      exact ⟨differs, rfl⟩

/-- A declaration stores its value as it is. -/
theorem declaredValue_eq_ok
    {subject : Variable} {type : DataType} {position : Position} {literal stored : Literal}
    (accepted : declaredValue subject type position literal = .ok stored) : literal = stored := by
  unfold declaredValue at accepted
  split at accepted
  · cases accepted
    rfl
  · cases accepted

/-- A new value is refused because it cannot be cast, or because it is of another data type that no cast
is tried for. -/
theorem reassignedValue_eq_error
    {name : String} {type : DataType} {position valuePosition : Position} {literal : Literal}
    {error : RuntimeError}
    (refused : reassignedValue name type position valuePosition literal = .error error) :
    literal.type ≠ type ∧
      if literal.type.isNumeric && type.isNumeric then
        literal.cast type = .error (.invalidCast literal.type type) ∧
          error = ⟨.invalidCast literal.type type, position⟩
      else
        error = ⟨.assignType literal.type ⟨true, name⟩ type, valuePosition⟩ := by
  unfold reassignedValue at refused
  split at refused
  · cases refused
  · next differs =>
      refine ⟨differs, ?_⟩
      split at refused
      · next numeric =>
          rw [if_pos numeric]
          cases casted : literal.cast type with
          | ok stored =>
              rw [casted] at refused
              cases refused
          | error cause =>
              obtain rfl := Literal.cast_eq_error casted
              rw [casted] at refused
              cases refused
              exact ⟨rfl, rfl⟩
      · next notNumeric =>
          rw [if_neg notNumeric]
          cases refused
          rfl

end Evaluation

/-! ## Operators -/

namespace Operation

theorem unary_eq_error
    {operator : UnaryOperator} {operand : Literal} {cause : RuntimeCause}
    (refused : unary operator operand = .error cause) :
    cause = .notOperand ∨ cause = .negateOperand := by
  unfold unary at refused
  split at refused
  · cases refused
  · cases refused
    exact .inl rfl
  · cases refused
  · cases refused
    exact .inr rfl

/-- The errors of an operator between two operands, each at the operand that is at fault or at the
operator. -/
inductive Refuses (operator : BinaryOperator) (left right : Operand) (place : Position) :
    RuntimeError → Prop where
  | leftNumber :
      Refuses operator left right place
        ⟨.numericOperands operator left.literal.type, left.position⟩
  | rightNumber :
      Refuses operator left right place
        ⟨.numericOperands operator right.literal.type, right.position⟩
  | mixed :
      Refuses operator left right place
        ⟨.mixedOperation operator left.literal.type right.literal.type, place⟩
  | zero : Refuses operator left right place ⟨.divisionByZero, right.position⟩
  | leftTruth :
      Refuses operator left right place ⟨.logicOperands operator left.literal.type, left.position⟩
  | rightTruth :
      Refuses operator left right place
        ⟨.logicOperands operator right.literal.type, right.position⟩
  | differentTypes :
      Refuses operator left right place
        ⟨.equalityTypes left.literal.type right.literal.type, place⟩
  | leftVoid : Refuses operator left right place ⟨.concatVoid, left.position⟩
  | rightVoid : Refuses operator left right place ⟨.concatVoid, right.position⟩

section

variable
    {operator : BinaryOperator} {left right : Operand} {place : Position} {error : RuntimeError}

theorem Refuses.of_numbers (refused : numbers operator left right = .error error) :
    Refuses operator left right place error := by
  unfold numbers at refused
  split at refused
  · cases refused
  · cases refused
    exact .leftNumber
  · cases refused
    exact .rightNumber

theorem Refuses.of_truths (refused : truths operator left right = .error error) :
    Refuses operator left right place error := by
  unfold truths at refused
  split at refused
  · cases refused
  · cases refused
    exact .leftTruth
  · cases refused
    exact .rightTruth

theorem Refuses.of_arithmetic
    {compute : Number → Number → Number}
    (refused : arithmetic operator compute left right place = .error error) :
    Refuses operator left right place error := by
  unfold arithmetic at refused
  cases operands : numbers operator left right with
  | error cause =>
      rw [operands] at refused
      cases refused
      exact .of_numbers operands
  | ok pair =>
      rw [operands] at refused
      simp only [bind, Except.bind] at refused
      split at refused
      · cases refused
        exact .mixed
      · split at refused
        · split at refused
          · cases refused
            exact .zero
          · cases refused
        · cases refused

theorem Refuses.of_comparison
    {test : Number → Number → Bool}
    (refused : comparison operator test left right = .error error) :
    Refuses operator left right place error := by
  unfold comparison at refused
  cases operands : numbers operator left right with
  | error cause =>
      rw [operands] at refused
      cases refused
      exact .of_numbers operands
  | ok pair =>
      rw [operands] at refused
      cases refused

theorem Refuses.of_logic
    {connect : Bool → Bool → Bool} (refused : logic operator connect left right = .error error) :
    Refuses operator left right place error := by
  unfold logic at refused
  cases operands : truths operator left right with
  | error cause =>
      rw [operands] at refused
      cases refused
      exact .of_truths operands
  | ok pair =>
      rw [operands] at refused
      cases refused

theorem Refuses.of_equality
    {expected : Bool} (refused : equality expected left right place = .error error) :
    Refuses operator left right place error := by
  unfold equality at refused
  split at refused
  · cases refused
    exact .differentTypes
  · cases refused

theorem Refuses.of_concat (refused : concat left right = .error error) :
    Refuses operator left right place error := by
  unfold concat at refused
  split at refused
  · cases refused
    exact .leftVoid
  · split at refused
    · cases refused
      exact .rightVoid
    · cases refused

theorem binary_eq_error (refused : binary operator left right place = .error error) :
    Refuses operator left right place error := by
  cases operator with
  | concat => exact .of_concat refused
  | add | sub | mul | div => exact .of_arithmetic refused
  | and | or => exact .of_logic refused
  | equal | notEqual => exact .of_equality refused
  | less | lessOrEqual | greater | greaterOrEqual =>
      simp only [binary] at refused
      exact .of_comparison refused

end

end Operation

end Zoop
