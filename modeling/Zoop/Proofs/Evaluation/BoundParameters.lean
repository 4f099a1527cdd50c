import Zoop.Interpretation
import Zoop.Proofs.Evaluation.ActiveCalls
import Zoop.Proofs.Token.Pieces

/-!
# Parameters and their arguments

In the body of a zoop the name of a parameter stands for an argument, and for the same one as long as
the call is the innermost one.  The arguments are kept by name, so where parameters share a name it
stands for the argument of the last of them.
-/

namespace Zoop

open Evaluation

/-! ## The last parameter of a name -/

/-- The last of the parameters with a given name is at a given place. -/
structure LastNamed (parameters : List Parameter) (name : String) (place : Nat) : Prop where
  named : ∃ parameter, parameters[place]? = some parameter ∧ parameter.name = name
  last : ∀ later parameter,
    place < later → parameters[later]? = some parameter → parameter.name ≠ name

namespace LastNamed

variable {first : Parameter} {parameters : List Parameter} {name : String} {place : Nat}

theorem of_tail (lastNamed : LastNamed parameters name place) :
    LastNamed (first :: parameters) name (place + 1) := by
  refine ⟨lastNamed.named, ?_⟩
  intro later parameter behind there
  obtain ⟨before, rfl⟩ := Nat.exists_eq_add_one_of_ne_zero (Nat.ne_zero_of_lt behind)
  exact lastNamed.last before parameter (Nat.lt_of_add_lt_add_right behind) there

theorem tail (lastNamed : LastNamed (first :: parameters) name (place + 1)) :
    LastNamed parameters name place := by
  refine ⟨lastNamed.named, ?_⟩
  intro later parameter behind there
  exact lastNamed.last (later + 1) parameter (Nat.add_lt_add_right behind 1) there

/-- None of the parameters after the first one has its name, if it is the last one of that name. -/
theorem head_unnamed (lastNamed : LastNamed (first :: parameters) name 0) :
    ∀ parameter ∈ parameters, parameter.name ≠ name := by
  intro parameter member
  obtain ⟨later, there⟩ := List.mem_iff_getElem?.mp member
  exact lastNamed.last (later + 1) parameter (Nat.succ_pos later) there

theorem of_unnamed (unnamed : ∀ parameter ∈ parameters, parameter.name ≠ first.name) :
    LastNamed (first :: parameters) first.name 0 := by
  refine ⟨⟨first, rfl, rfl⟩, ?_⟩
  intro later parameter behind there
  obtain ⟨before, rfl⟩ := Nat.exists_eq_add_one_of_ne_zero (Nat.ne_zero_of_lt behind)
  exact unnamed parameter (List.mem_of_getElem? there)

/-- Of the parameters with the name of one of them there is a last one. -/
theorem exists_of_mem {parameter : Parameter} (member : parameter ∈ parameters) :
    ∃ last, LastNamed parameters parameter.name last := by
  induction parameters generalizing parameter with
  | nil => cases member
  | cons first rest inductionHypothesis =>
      by_cases again : ∃ other ∈ rest, other.name = parameter.name
      · obtain ⟨other, otherMember, sameName⟩ := again
        obtain ⟨last, lastNamed⟩ := inductionHypothesis otherMember
        rw [sameName] at lastNamed
        exact ⟨last + 1, lastNamed.of_tail⟩
      · have unnamed : ∀ other ∈ rest, other.name ≠ parameter.name :=
          fun other otherMember sameName => again ⟨other, otherMember, sameName⟩
        rcases List.mem_cons.mp member with rfl | later
        · exact ⟨0, .of_unnamed unnamed⟩
        · exact absurd rfl (unnamed parameter later)

end LastNamed

/-! ## Contexts -/

namespace Context

variable {context : Context} {parameters : List Parameter} {literals : List Literal} {name : String}

/-- Arguments of other names change nothing about a name. -/
theorem get?_withArguments_of_unnamed
    (unnamed : ∀ parameter ∈ parameters, parameter.name ≠ name) :
    (context.withArguments parameters literals).get? name = context.get? name := by
  induction parameters generalizing context literals with
  | nil => rw [withArguments_nil]
  | cons parameter parameters inductionHypothesis =>
      obtain ⟨different, unnamedLater⟩ := List.forall_mem_cons.mp unnamed
      cases literals with
      | nil => rw [withArguments_nil_right]
      | cons literal literals =>
          rw [withArguments_cons, inductionHypothesis unnamedLater]
          exact Bindings.get?_set_of_ne context literal different.symm

/-- A name has the argument of the last parameter of that name. -/
theorem get?_withArguments_of_lastNamed
    {place : Nat} {literal : Literal} (lastNamed : LastNamed parameters name place)
    (given : literals[place]? = some literal) :
    (context.withArguments parameters literals).get? name = some literal := by
  induction parameters generalizing context literals place with
  | nil =>
      obtain ⟨_, there, _⟩ := lastNamed.named
      cases there
  | cons parameter parameters inductionHypothesis =>
      cases literals with
      | nil => cases given
      | cons first literals =>
          rw [withArguments_cons]
          cases place with
          | zero =>
              obtain ⟨_, there, rfl⟩ := lastNamed.named
              cases there
              cases given
              rw [get?_withArguments_of_unnamed lastNamed.head_unnamed]
              exact Bindings.get?_set_self context parameter.name literal
          | succ place => exact inductionHypothesis lastNamed.tail given

end Context

/-! ## Calls -/

variable {κ : Type} [Console κ]

/-- From a body of a zoop on, as long as its call is the innermost one, an immutable name has a
value. -/
def Point.Binds (body : Point κ) (name : String) (value : Literal) : Prop :=
  ∀ point, VisitsWithin body 0 point →
    point.machine.environment.lookup ⟨false, name⟩ = .ok value ∧
      point.ending.2.environment.lookup ⟨false, name⟩ = .ok value

theorem Point.Binds.unique
    {body : Point κ} {name : String} {first second : Literal}
    (bindsFirst : body.Binds name first) (bindsSecond : body.Binds name second) : first = second := by
  have firstHere := (bindsFirst body .here).1
  have secondHere := (bindsSecond body .here).1
  exact Except.ok.inj (firstHere.symm.trans secondHere)

/-- The arguments of a call are neither changed nor hidden before the end of its body. -/
theorem Point.binds_of_topContext
    {body : Point κ} {context : Context} {name : String} {value : Literal}
    (isTop : body.machine.environment.topContext? = some context)
    (bound : context.get? name = some value) : body.Binds name value := by
  intro point within
  have contextsHere := within.same_contexts
  have contextsAfter := point.contexts_of_ending.trans contextsHere
  constructor
  · apply Environment.lookup_of_topContext ?_ bound
    rw [Environment.topContext?, contextsHere]
    exact isTop
  · apply Environment.lookup_of_topContext ?_ bound
    rw [Environment.topContext?, contextsAfter]
    exact isTop

/-- Each of the parameters has the argument at its own place. -/
def Point.BindsEach
    (body : Point κ) (parameters : List Parameter) (literals : List Literal) : Prop :=
  ∀ (place : Nat) (parameter : Parameter) (literal : Literal),
    parameters[place]? = some parameter → literals[place]? = some literal →
    body.Binds parameter.name literal

/-- Parameters that share a name have got one value. -/
def NamesAgree (parameters : List Parameter) (literals : List Literal) : Prop :=
  ∀ (place other : Nat) (parameter same : Parameter),
    parameters[place]? = some parameter → parameters[other]? = some same →
    same.name = parameter.name → literals[other]? = literals[place]?

theorem NamesAgree.of_nodup
    {parameters : List Parameter} (literals : List Literal)
    (distinct : (parameters.map Parameter.name).Nodup) : NamesAgree parameters literals := by
  intro place other parameter same there otherThere sameName
  have inside : place < (parameters.map Parameter.name).length := by
    obtain ⟨inside, _⟩ := List.getElem?_eq_some_iff.mp there
    rwa [List.length_map]
  have sameEntry : (parameters.map Parameter.name)[place]? =
      (parameters.map Parameter.name)[other]? := by
    rw [List.getElem?_map, List.getElem?_map, there, otherThere, Option.map_some, Option.map_some,
      sameName]
  rw [(List.getElem?_inj inside distinct).mp sameEntry]

namespace AcceptedCall

variable
    {fuel : Nat} {machine after : Machine κ} {position : Position} {label : String}
    {values : List Expression} {routine : Routine} {literals : List Literal} {body : Point κ}
    (accepted : AcceptedCall fuel machine label values routine literals after)

include accepted

theorem exists_argument
    {place : Nat} {parameter : Parameter} (there : routine.parameters[place]? = some parameter) :
    ∃ literal, literals[place]? = some literal := by
  have types := congrArg (fun types : List DataType => types[place]?) accepted.typed
  simp only [List.getElem?_map, there, Option.map_some] at types
  obtain ⟨literal, given, _⟩ := Option.map_eq_some_iff.mp types
  exact ⟨literal, given⟩

/-- In each body that an accepted call runs, the name of a parameter stands for the argument of the last
parameter of that name. -/
theorem binds
    {name : String} {place : Nat} {literal : Literal}
    (step : Step ⟨fuel, .expression (.call position label values), machine⟩ body)
    (isZoop : body.task.isZoop = true) (lastNamed : LastNamed routine.parameters name place)
    (given : literals[place]? = some literal) : body.Binds name literal := by
  obtain ⟨entered, push, rfl⟩ := accepted.eq_of_step step isZoop
  have bound : (routine.context literals).get? name = some literal :=
    Context.get?_withArguments_of_lastNamed lastNamed given
  exact Point.binds_of_topContext (Machine.topContext?_called push) bound

theorem bindsEach
    (step : Step ⟨fuel, .expression (.call position label values), machine⟩ body)
    (isZoop : body.task.isZoop = true) (agree : NamesAgree routine.parameters literals) :
    body.BindsEach routine.parameters literals := by
  intro place parameter literal there given
  obtain ⟨last, lastNamed⟩ := LastNamed.exists_of_mem (List.mem_of_getElem? there)
  obtain ⟨same, lastThere, sameName⟩ := lastNamed.named
  have lastGiven := (agree place last parameter same there lastThere sameName).trans given
  exact accepted.binds step isZoop lastNamed lastGiven

theorem namesAgree (each : body.BindsEach routine.parameters literals) :
    NamesAgree routine.parameters literals := by
  intro place other parameter same there otherThere sameName
  obtain ⟨literal, given⟩ := accepted.exists_argument there
  obtain ⟨otherLiteral, otherGiven⟩ := accepted.exists_argument otherThere
  have binds := each place parameter literal there given
  have otherBinds := each other same otherLiteral otherThere otherGiven
  rw [sameName] at otherBinds
  rw [given, otherGiven, otherBinds.unique binds]

end AcceptedCall

/-- At every point of a body at which its call is the innermost one, each parameter stands for its own
argument exactly if parameters of one name have got one value, so in particular if no two of them share
a name.  In any case a name stands for the argument of the last parameter of that name. -/
theorem parameters_bound_iff_names_agree
    (fuel : Nat) (machine after : Machine κ) (position : Position) (label : String)
    (values : List Expression) (routine : Routine) (literals : List Literal) (body : Point κ)
    (accepted : AcceptedCall fuel machine label values routine literals after)
    (step : Step ⟨fuel, .expression (.call position label values), machine⟩ body)
    (isZoop : body.task.isZoop = true) :
    (body.BindsEach routine.parameters literals ↔ NamesAgree routine.parameters literals) ∧
    ((routine.parameters.map Parameter.name).Nodup →
      body.BindsEach routine.parameters literals) ∧
    ∀ (name : String) (place : Nat) (literal : Literal),
      LastNamed routine.parameters name place → literals[place]? = some literal →
      body.Binds name literal := by
  refine ⟨⟨accepted.namesAgree, accepted.bindsEach step isZoop⟩, ?_, ?_⟩
  · intro distinct
    exact accepted.bindsEach step isZoop (.of_nodup literals distinct)
  · intro name place literal lastNamed given
    exact accepted.binds step isZoop lastNamed given

/-- The machine at the start of a program whose zoops have been declared. -/
def declaredMachine (routines : List Routine) : Machine BufferedConsole :=
  ⟨{ Environment.initial with routines := routines }, BufferedConsole.ofInput []⟩

/-- A zoop that calls another one, with a parameter of the same name, before it looks at its own. -/
def relayingZoop : Routine :=
  ⟨"f", [⟨"a", .string⟩, ⟨"b", .bool⟩], none,
    [.expression .start (.call .start "g" [.literal .start (.boolean false)]),
      .block .start [.expression .start (.variable .start ⟨false, "b"⟩)]]⟩

def relayedZoop : Routine :=
  ⟨"g", [⟨"b", .bool⟩], none, []⟩

def relayingCall : Expression :=
  .call .start "f" [.literal .start (.string "x"), .literal .start (.boolean true)]

def relayingCalls : Program :=
  ⟨[.routine .start relayedZoop.label relayedZoop.parameters relayedZoop.returnType relayedZoop.body,
    .routine .start relayingZoop.label relayingZoop.parameters relayingZoop.returnType
      relayingZoop.body,
    .expression .start relayingCall]⟩

theorem parameters_bound_in_relayingZoop :
    Program.Visited 1 [relayingCalls] (BufferedConsole.ofInput [])
      ⟨1, .expression relayingCall, declaredMachine [relayingZoop, relayedZoop]⟩ ∧
    ∃ body : Point BufferedConsole,
      Step ⟨1, .expression relayingCall, declaredMachine [relayingZoop, relayedZoop]⟩ body ∧
      body.task.isZoop = true ∧
      body.BindsEach relayingZoop.parameters [.string "x", .boolean true] := by
  let start : Point BufferedConsole :=
    ⟨1, .program relayingCalls.statements, Machine.start (BufferedConsole.ofInput [])⟩
  have declared : Visits start _ := (Visits.here.next (.moreTop rfl)).next (.moreTop rfl)
  have calling := (declared.next .top).next .effect
  have accepted : AcceptedCall 1 (declaredMachine [relayingZoop, relayedZoop]) "f"
      [.literal .start (.string "x"), .literal .start (.boolean true)] relayingZoop
      [.string "x", .boolean true] (declaredMachine [relayingZoop, relayedZoop]) :=
    ⟨rfl, rfl, .value rfl (.value rfl .done), rfl⟩
  have step : Step ⟨1, .expression relayingCall, declaredMachine [relayingZoop, relayedZoop]⟩ _ :=
    accepted.step rfl
  have bound := parameters_bound_iff_names_agree 1 _ _ .start "f" _ _ _ _ accepted step rfl
  exact ⟨⟨[], relayingCalls, [], rfl, calling⟩, _, step, rfl, bound.2.1 (by decide)⟩

/-! ## Parameters that share a name -/

/-- A zoop with two parameters of one name, and a call of it with two texts. -/
def doubledSource : String :=
  "zoop \x60f\x60 <- $a:string $a:string => $a ->|\n\x60f\x60de \"x\" \"y\""

def doubledTokens : List Token := [
  ⟨.keyword, "zoop", ⟨1, 0⟩, ⟨0, 4⟩, none⟩,
  ⟨.literal, "\x60f\x60", ⟨1, 5⟩, ⟨5, 3⟩, some (.string "f")⟩,
  ⟨.flowIn, "<-", ⟨1, 9⟩, ⟨9, 2⟩, none⟩,
  ⟨.variable, "$a", ⟨1, 12⟩, ⟨12, 2⟩, some (.string "a")⟩,
  ⟨.colon, ":", ⟨1, 14⟩, ⟨14, 1⟩, none⟩,
  ⟨.keyword, "string", ⟨1, 15⟩, ⟨15, 6⟩, none⟩,
  ⟨.variable, "$a", ⟨1, 22⟩, ⟨22, 2⟩, some (.string "a")⟩,
  ⟨.colon, ":", ⟨1, 24⟩, ⟨24, 1⟩, none⟩,
  ⟨.keyword, "string", ⟨1, 25⟩, ⟨25, 6⟩, none⟩,
  ⟨.direct, "=>", ⟨1, 32⟩, ⟨32, 2⟩, none⟩,
  ⟨.variable, "$a", ⟨1, 35⟩, ⟨35, 2⟩, some (.string "a")⟩,
  ⟨.output, "->|", ⟨1, 38⟩, ⟨38, 3⟩, none⟩,
  ⟨.newLine, "\n", ⟨1, 41⟩, ⟨41, 1⟩, none⟩,
  ⟨.literal, "\x60f\x60", ⟨2, 0⟩, ⟨42, 3⟩, some (.string "f")⟩,
  ⟨.keyword, "de", ⟨2, 3⟩, ⟨45, 2⟩, none⟩,
  ⟨.literal, "\"x\"", ⟨2, 6⟩, ⟨48, 3⟩, some (.string "x")⟩,
  ⟨.literal, "\"y\"", ⟨2, 10⟩, ⟨52, 3⟩, some (.string "y")⟩]

def doubledZoop : Routine :=
  ⟨"f", [⟨"a", .string⟩, ⟨"a", .string⟩], none,
    [.print ⟨1, 38⟩ (.variable ⟨1, 35⟩ ⟨false, "a"⟩)]⟩

def doubledValues : List Expression :=
  [.literal ⟨2, 6⟩ (.string "x"), .literal ⟨2, 10⟩ (.string "y")]

def doubledProgram : Program :=
  ⟨[.routine ⟨1, 0⟩ doubledZoop.label doubledZoop.parameters doubledZoop.returnType
      doubledZoop.body,
    .expression ⟨2, 0⟩ (.call ⟨2, 0⟩ "f" doubledValues)]⟩

theorem doubledSource_interpretation :
    Interpretation.ofSource doubledSource =
      .ok ⟨doubledSource, doubledTokens, doubledProgram⟩ := by
  have normal : Text.normalize doubledSource = doubledSource := by decide +kernel
  have tokenized : Token.tokenize doubledSource = .ok doubledTokens :=
    Token.tokenize_eq_ok (by decide +kernel)
  have parsed : Program.parse doubledTokens = .ok doubledProgram := by rfl
  simp only [Interpretation.ofSource, normal, tokenized, parsed, bind, Except.bind, pure, Except.pure]

/-- Not each parameter has its own argument: the first one of the name stands for the second text, and
so that is what the zoop prints. -/
theorem first_of_two_parameters_loses_its_argument :
    Interpretation.ofSource doubledSource =
      .ok ⟨doubledSource, doubledTokens, doubledProgram⟩ ∧
    (doubledProgram.runWith 1 (Machine.start (BufferedConsole.ofInput []))).2.console.output =
      #["y"] ∧
    Program.Visited 1 [doubledProgram] (BufferedConsole.ofInput [])
      ⟨1, .expression (.call ⟨2, 0⟩ "f" doubledValues), declaredMachine [doubledZoop]⟩ ∧
    AcceptedCall 1 (declaredMachine [doubledZoop]) "f" doubledValues doubledZoop
      [.string "x", .string "y"] (declaredMachine [doubledZoop]) ∧
    ∃ body : Point BufferedConsole,
      Step ⟨1, .expression (.call ⟨2, 0⟩ "f" doubledValues), declaredMachine [doubledZoop]⟩ body ∧
      body.task.isZoop = true ∧
      ¬ body.BindsEach doubledZoop.parameters [.string "x", .string "y"] := by
  let start : Point BufferedConsole :=
    ⟨1, .program doubledProgram.statements, Machine.start (BufferedConsole.ofInput [])⟩
  have declared : Visits start _ := .next .here (.moreTop rfl)
  have calling := (declared.next .top).next .effect
  have accepted : AcceptedCall 1 (declaredMachine [doubledZoop]) "f" doubledValues doubledZoop
      [.string "x", .string "y"] (declaredMachine [doubledZoop]) :=
    ⟨rfl, rfl, .value rfl (.value rfl .done), rfl⟩
  have prints : (doubledProgram.runWith 1
      (Machine.start (BufferedConsole.ofInput []))).2.console.output = #["y"] := by rfl
  refine ⟨doubledSource_interpretation, prints, ⟨[], doubledProgram, [], rfl, calling⟩, accepted, _,
    accepted.step rfl, rfl, ?_⟩
  intro each
  have agree : some (Literal.string "y") = some (Literal.string "x") :=
    accepted.namesAgree each 0 1 _ _ rfl rfl rfl
  exact absurd agree (by decide)

end Zoop
