import Zoop.Proofs.Evaluation.ErrorOrigin
import Zoop.Proofs.Evaluation.Tags

/-!
# New values of variables

Between the question for a variable and the storing of its new value any expression may be evaluated.
Still neither of the two errors that a reassignment may have after its checks comes about: no run loses
a name, so there is a variable to store in, and a value whose data type is numeric is a number, so it
can be cast to any other numeric type.
-/

namespace Zoop

open Evaluation

/-! ## Names that can be assigned -/

namespace Environment

variable {before after : Environment} {name : String}

/-- A name that some scope binds before a run is bound by some scope after it. -/
theorem Disciplined.still_bound
    {subject : Variable} {scope : Scope} (disciplined : before.Disciplined after)
    (member : scope ∈ before.scopes) (bound : scope.binds subject = true) :
    ∃ later ∈ after.scopes, later.binds subject = true := by
  rcases List.mem_cons.mp member with rfl | outerMember
  · exact ⟨after.current, List.mem_cons_self, disciplined.currentNames subject bound⟩
  · have sameNames : scope.binds ∈ after.outer.map Scope.binds := by
      rw [disciplined.outerNames]
      exact List.mem_map_of_mem outerMember
    obtain ⟨later, laterMember, same⟩ := List.mem_map.mp sameNames
    refine ⟨later, List.mem_cons_of_mem _ laterMember, ?_⟩
    rw [same]
    exact bound

/-- A variable that is found before a run can be assigned after it. -/
theorem Disciplined.assign_of_lookup
    {old : Literal} (disciplined : before.Disciplined after)
    (found : before.lookup ⟨true, name⟩ = .ok old) (value : Literal) :
    ∃ stored, after.assign name value = .ok stored := by
  obtain ⟨scope, member, bound⟩ := bound_of_lookup found
  obtain ⟨later, laterMember, laterBound⟩ := disciplined.still_bound member bound
  exact assign_of_bound laterMember laterBound value

end Environment

/-! ## Numbers that can be cast -/

namespace Literal

variable {literal : Literal} {target : DataType}

theorem exists_number_of_agrees
    (agrees : literal.agrees = true) (numeric : literal.type.isNumeric = true) :
    ∃ number, literal.value = .number number := by
  obtain ⟨type, value⟩ := literal
  cases value with
  | number number => exact ⟨number, rfl⟩
  | string | boolean | void =>
      cases type with
      | int | uint | dec | udec => cases agrees
      | string | bool | label | void => cases numeric

theorem cast_self (same : literal.type = target) : literal.cast target = .ok literal := by
  unfold cast
  rw [if_pos same]

theorem cast_of_number
    {number : Number} (isNumber : literal.value = .number number)
    (numeric : literal.type.isNumeric = true) (targetNumeric : target.isNumeric = true) :
    ∃ casted, literal.cast target = .ok casted := by
  by_cases same : literal.type = target
  · exact ⟨literal, cast_self same⟩
  · have notVoid : literal.isVoid = false :=
      beq_false_of_ne (DataType.ne_void_of_isNumeric numeric)
    refine ⟨ofNumber target number, ?_⟩
    unfold cast
    rw [if_neg same, notVoid, isNumber]
    cases target with
    | int | uint | dec | udec => rfl
    | string | bool | label | void => cases targetNumeric

end Literal

/-- A new value is compared with its variable by their data types: they are the same, or both are
numeric. -/
def Literal.GoesWith (literal old : Literal) : Prop :=
  literal.type = old.type ∨ literal.type.isNumeric = true ∧ old.type.isNumeric = true

theorem Literal.GoesWith.cast
    {literal old : Literal} (goesWith : literal.GoesWith old) (agrees : literal.agrees = true) :
    ∃ casted, literal.cast old.type = .ok casted := by
  rcases goesWith with same | ⟨numeric, oldNumeric⟩
  · exact ⟨literal, cast_self same⟩
  · obtain ⟨number, isNumber⟩ := exists_number_of_agrees agrees numeric
    exact cast_of_number isNumber numeric oldNumeric

theorem reassignedValue_of_cast
    {literal old casted : Literal} (goesWith : literal.GoesWith old)
    (castEnds : literal.cast old.type = .ok casted)
    (name : String) (position valuePosition : Position) :
    reassignedValue name old.type position valuePosition literal = .ok casted := by
  unfold reassignedValue
  by_cases same : literal.type = old.type
  · have unchanged : literal = casted :=
      Except.ok.inj ((Literal.cast_self same).symm.trans castEnds)
    rw [if_pos same, unchanged]
  · have bothNumeric : (literal.type.isNumeric && old.type.isNumeric) = true :=
      (Bool.and_eq_true _ _).mpr (goesWith.resolve_left same)
    rw [if_neg same, if_pos bothNumeric, castEnds]
    rfl

/-! ## Reassignments -/

variable {κ : Type} [Console κ]

/-- At a point a reassignment has found its variable and evaluated its new value, and the two go
together. -/
structure Point.Compares
    (point : Point κ) (position : Position) (name : String) (value : Expression)
    (old literal : Literal) (middle : Machine κ) : Prop where
  task : point.task = .expression (.reassign position name value)
  found : point.machine.environment.lookup ⟨true, name⟩ = .ok old
  valueEnds : evaluate (bodyRunner point.fuel) value point.machine = (.ok literal, middle)
  goesWith : literal.GoesWith old

/-- The new value is cast to the data type of its variable and stored, and then it is the value of the
reassignment. -/
structure Point.Stores
    (point : Point κ) (position : Position) (name : String) (value : Expression)
    (old literal : Literal) (middle : Machine κ) (casted : Literal) (after : Environment) :
    Prop where
  castEnds : literal.cast old.type = .ok casted
  assigned : middle.environment.assign name casted = .ok after
  ends :
    evaluate (bodyRunner point.fuel) (.reassign position name value) point.machine =
      (.ok casted, middle.became (.assigned name old.type casted) after)

theorem evaluate_reassign
    {fuel : Nat} {position : Position} {name : String} {value : Expression}
    {machine middle : Machine κ} {old literal casted : Literal} {after : Environment}
    (found : machine.environment.lookup ⟨true, name⟩ = .ok old)
    (valueEnds : evaluate (bodyRunner fuel) value machine = (.ok literal, middle))
    (accepted : reassignedValue name old.type position value.position literal = .ok casted)
    (assigned : middle.environment.assign name casted = .ok after) :
    evaluate (bodyRunner fuel) (.reassign position name value) machine =
      (.ok casted, middle.became (.assigned name old.type casted) after) := by
  have storeEnds :
      Run.perform position (.assigned name old.type casted) middle =
        (.ok (), middle.became (.assigned name old.type casted) after) := by
    simp only [Run.perform, Change.apply, assigned]
  simp only [evaluate]
  rw [Run.ask_bind_of_ok found, Run.bind_of_ok valueEnds, accepted]
  change (Run.perform position (.assigned name old.type casted) >>= fun _ => pure casted) middle = _
  rw [Run.bind_of_ok storeEnds]
  rfl

/-- If its new value agrees with its data type, a reassignment gets past its checks to its end. -/
theorem Point.Compares.stores
    {point : Point κ} {position : Position} {name : String} {value : Expression}
    {old literal : Literal} {middle : Machine κ}
    (compares : point.Compares position name value old literal middle)
    (agrees : literal.agrees = true) :
    ∃ casted after, point.Stores position name value old literal middle casted after := by
  obtain ⟨casted, castEnds⟩ := compares.goesWith.cast agrees
  have disciplined := Task.disciplined_of_run (.expression value) compares.valueEnds
  obtain ⟨after, assigned⟩ := disciplined.assign_of_lookup compares.found casted
  have accepted :=
    reassignedValue_of_cast compares.goesWith castEnds name position value.position
  exact ⟨casted, after, castEnds, assigned,
    evaluate_reassign compares.found compares.valueEnds accepted assigned⟩

/-! ## Errors that do not come about -/

/-- No point of any run finds that a variable is gone. -/
theorem Raises.cause_ne_notDefined
    {point : Point κ} {error : RuntimeError} {left : Machine κ} (raises : Raises point error left)
    (name : String) : error.cause ≠ .notDefined name := by
  intro isGone
  obtain ⟨cause, position⟩ := error
  subst isGone
  cases raises with
  | operands _ _ refused => cases refused
  | lostTarget found valueEnds refused =>
      have disciplined := Task.disciplined_of_run (.expression _) valueEnds
      obtain ⟨after, assigned⟩ := disciplined.assign_of_lookup found _
      rw [assigned] at refused
      cases refused

/-- An error with which a point ends is none that a reassignment has after its checks: no variable is
gone, and a cast that fails is one that the program has, at a point on the way. -/
structure Point.FailsElsewhere (point : Point κ) (error : RuntimeError) : Prop where
  notDefined : ∀ name, error.cause ≠ .notDefined name
  invalidCast : ∀ source target, error.cause = .invalidCast source target →
    ∃ raising inner left,
      Visits point raising ∧
      raising.task = .expression (.cast error.position target inner) ∧
      Raises raising error left

namespace Program

variable
    {fuel : Nat} {programs : List Program} {console : κ} {point next : Point κ}
    (accepted : ∀ program ∈ programs, ∃ tokens, parse tokens = .ok program)
    (visited : Visited fuel programs console point)

include visited in
theorem Visited.onward (visits : Visits point next) : Visited fuel programs console next := by
  obtain ⟨earlier, program, later, split, fromStart⟩ := visited
  exact ⟨earlier, program, later, split, visits.keeps .next fromStart⟩

include accepted visited

/-- The new value at a reassignment agrees with its data type. -/
theorem newValue_agrees
    {position : Position} {name : String} {value : Expression} {old literal : Literal}
    {middle : Machine κ} (isReassign : point.task = .expression (.reassign position name value))
    (found : point.machine.environment.lookup ⟨true, name⟩ = .ok old)
    (valueEnds : evaluate (bodyRunner point.fuel) value point.machine = (.ok literal, middle)) :
    literal.agrees = true := by
  have wellFormed : ∀ program ∈ programs, Condition.wellFormed.inProgram program = true := by
    intro program member
    obtain ⟨tokens, parsed⟩ := accepted program member
    exact wellFormed_of_parse parsed
  have contract := Condition.wellFormed_tags.contract
  obtain ⟨ready, _⟩ := contract.of_visited wellFormed Environment.every_initial visited
  obtain ⟨pointFuel, task, machine⟩ := point
  subst isReassign
  have valueReady := contract.ready_of_step ready (fun _ _ => contract.ends) (.reassigned found)
  exact ((contract.ends valueReady).of_ok valueEnds).2

/-- A cast fails only where the program has one. -/
theorem cast_of_invalidCast
    {error : RuntimeError} {left : Machine κ} (raises : Raises point error left)
    {source target : DataType} (isCast : error.cause = .invalidCast source target) :
    ∃ inner, point.task = .expression (.cast error.position target inner) := by
  obtain ⟨cause, position⟩ := error
  subst isCast
  cases raises with
  | operands _ _ refused => cases refused
  | casted => exact ⟨_, rfl⟩
  | reassignedCast found valueEnds numeric refused =>
      have agrees := newValue_agrees accepted visited rfl found valueEnds
      have goesWith : Literal.GoesWith _ _ := .inr ((Bool.and_eq_true _ _).mp numeric)
      obtain ⟨casted, castEnds⟩ := goesWith.cast agrees
      rw [castEnds] at refused
      cases refused

theorem failsElsewhere
    {error : RuntimeError} {left : Machine κ} (ends : point.ending = (.error error, left)) :
    point.FailsElsewhere error := by
  obtain ⟨raising, between, visits, raises, _⟩ := point.raised_at ends
  refine ⟨raises.cause_ne_notDefined, ?_⟩
  intro source target isCast
  obtain ⟨inner, castThere⟩ :=
    cast_of_invalidCast accepted (visited.onward visits) raises isCast
  exact ⟨raising, inner, between, visits, castThere, raises⟩

end Program

/-- A reassignment does not fail after its checks. -/
structure Point.ReassignsSafely (point : Point κ) : Prop where
  stores : ∀ position name value old literal middle,
    point.Compares position name value old literal middle →
    ∃ casted after, point.Stores position name value old literal middle casted after
  raises : ∀ error left, Raises point error left →
    (∀ name, error.cause ≠ .notDefined name) ∧
    ∀ source target, error.cause = .invalidCast source target →
      ∃ inner, point.task = .expression (.cast error.position target inner)
  ends : ∀ error left, point.ending = (.error error, left) → point.FailsElsewhere error

/-- In programs that the grammar accepts, run one after the other on whatever console, a reassignment
that has found its variable, evaluated its new value and compared the two casts and stores the value.
No point of these runs, and so none of the runs as a whole, ends with the error of a variable that is
gone, or with that of a cast other than one that the program has. -/
theorem reassignment_succeeds_after_its_checks
    (fuel : Nat) (programs : List Program) (console : κ)
    (accepted : ∀ program ∈ programs, ∃ tokens, Program.parse tokens = .ok program) :
    (∀ point, Program.Visited fuel programs console point → point.ReassignsSafely) ∧
    ∀ earlier program later, programs = earlier ++ program :: later →
      let start := Program.runInTurn fuel earlier (Machine.start console)
      ∀ error left, program.runWith fuel start = (.error error, left) →
        Point.FailsElsewhere ⟨fuel, .program program.statements, start⟩ error := by
  constructor
  · intro point visited
    refine ⟨?_, ?_, fun error left => Program.failsElsewhere accepted visited⟩
    · intro position name value old literal middle compares
      have agrees :=
        Program.newValue_agrees accepted visited compares.task compares.found compares.valueEnds
      exact compares.stores agrees
    · intro error left raises
      exact ⟨raises.cause_ne_notDefined, fun source target =>
        Program.cast_of_invalidCast accepted visited raises⟩
  · intro earlier program later split start error left ends
    exact Program.failsElsewhere accepted ⟨earlier, program, later, split, .here⟩ ends

/-- A variable for numbers with a fraction, which gets the whole number that a zoop gives. -/
def promotingTokens : List Token := [
  ⟨.keyword, "zoop", ⟨1, 0⟩, ⟨0, 4⟩, none⟩,
  ⟨.colon, ":", ⟨1, 4⟩, ⟨4, 1⟩, none⟩,
  ⟨.keyword, "int", ⟨1, 5⟩, ⟨5, 3⟩, none⟩,
  ⟨.literal, "\x60f\x60", ⟨1, 9⟩, ⟨9, 3⟩, some (.string "f")⟩,
  ⟨.flowIn, "<-", ⟨1, 13⟩, ⟨13, 2⟩, none⟩,
  ⟨.direct, "=>", ⟨1, 16⟩, ⟨16, 2⟩, none⟩,
  ⟨.literal, "2", ⟨1, 19⟩, ⟨19, 1⟩, some (.number (.ofBits 0x4000000000000000))⟩,
  ⟨.flowOut, "->", ⟨1, 21⟩, ⟨21, 2⟩, none⟩,
  ⟨.newLine, "\n", ⟨1, 23⟩, ⟨23, 1⟩, none⟩,
  ⟨.variable, "@x", ⟨2, 0⟩, ⟨24, 2⟩, some (.string "x")⟩,
  ⟨.colon, ":", ⟨2, 2⟩, ⟨26, 1⟩, none⟩,
  ⟨.keyword, "dec", ⟨2, 3⟩, ⟨27, 3⟩, none⟩,
  ⟨.flowIn, "<-", ⟨2, 7⟩, ⟨31, 2⟩, none⟩,
  ⟨.literal, "1.5", ⟨2, 10⟩, ⟨34, 3⟩, some (.number (.ofBits 0x3FF8000000000000))⟩,
  ⟨.newLine, "\n", ⟨2, 13⟩, ⟨37, 1⟩, none⟩,
  ⟨.variable, "@x", ⟨3, 0⟩, ⟨38, 2⟩, some (.string "x")⟩,
  ⟨.flowIn, "<-", ⟨3, 3⟩, ⟨41, 2⟩, none⟩,
  ⟨.literal, "\x60f\x60", ⟨3, 6⟩, ⟨44, 3⟩, some (.string "f")⟩,
  ⟨.keyword, "de", ⟨3, 9⟩, ⟨47, 2⟩, none⟩]

def wholeTwo : Literal :=
  ⟨.int, .number (.ofBits 0x4000000000000000)⟩

def promotingProgram : Program :=
  ⟨[.routine ⟨1, 0⟩ "f" [] (some .int) [.giveBack ⟨1, 21⟩ (some (.literal ⟨1, 19⟩ wholeTwo))],
    .expression ⟨2, 0⟩
      (.declare ⟨2, 0⟩ ⟨true, "x"⟩ .dec
        (.literal ⟨2, 10⟩ ⟨.dec, .number (.ofBits 0x3FF8000000000000)⟩)),
    .expression ⟨3, 0⟩ (.reassign ⟨3, 0⟩ "x" (.call ⟨3, 6⟩ "f" []))]⟩

theorem reassignment_succeeds_in_promotingProgram :
    Program.parse promotingTokens = .ok promotingProgram ∧
    ∃ (machine middle : Machine BufferedConsole) (after : Environment),
      Program.Visited 1 [promotingProgram] (BufferedConsole.ofInput [])
        ⟨1, .expression (.reassign ⟨3, 0⟩ "x" (.call ⟨3, 6⟩ "f" [])), machine⟩ ∧
      evaluate (bodyRunner 1) (.call ⟨3, 6⟩ "f" []) machine = (.ok wholeTwo, middle) ∧
      middle.environment.assign "x" ⟨.dec, wholeTwo.value⟩ = .ok after ∧
      evaluate (bodyRunner 1) (.reassign ⟨3, 0⟩ "x" (.call ⟨3, 6⟩ "f" [])) machine =
        (.ok ⟨.dec, wholeTwo.value⟩,
          middle.became (.assigned "x" .dec ⟨.dec, wholeTwo.value⟩) after) := by
  have parsed : Program.parse promotingTokens = .ok promotingProgram := by rfl
  have accepted :
      ∀ program ∈ [promotingProgram], ∃ tokens, Program.parse tokens = .ok program := by
    intro program member
    rw [List.mem_singleton.mp member]
    exact ⟨promotingTokens, parsed⟩
  let start : Point BufferedConsole :=
    ⟨1, .program promotingProgram.statements, Machine.start (BufferedConsole.ofInput [])⟩
  have declared : Visits start _ := .next (.next .here (.moreTop rfl)) (.moreTop rfl)
  have visited :
      Program.Visited 1 [promotingProgram] (BufferedConsole.ofInput [])
        ⟨1, .expression (.reassign ⟨3, 0⟩ "x" (.call ⟨3, 6⟩ "f" [])), _⟩ :=
    ⟨[], promotingProgram, [], rfl, (declared.next .top).next .effect⟩
  obtain ⟨safely, _⟩ :=
    reassignment_succeeds_after_its_checks 1 [promotingProgram] (BufferedConsole.ofInput []) accepted
  obtain ⟨casted, after, stores⟩ :=
    (safely _ visited).stores ⟨3, 0⟩ "x" (.call ⟨3, 6⟩ "f" []) _ wholeTwo _
      ⟨rfl, rfl, rfl, .inr ⟨rfl, rfl⟩⟩
  have isTwo : casted = ⟨.dec, wholeTwo.value⟩ := Except.ok.inj stores.castEnds.symm
  subst isTwo
  exact ⟨parsed, _, _, after, visited, rfl, stores.assigned, stores.ends⟩

end Zoop
