import Zoop.Proofs.Evaluation.ActiveCalls
import Zoop.Proofs.Evaluation.ErrorOrigin

/-!
# How deep calls go into each other

As many contexts are on their stack as calls are active, whatever has been entered and left before.  So
an accepted call is one too many exactly inside of as many calls as there may be: then nothing of its
body is run and nothing changes, and otherwise its body is run.
-/

namespace Zoop

open Evaluation

/-! ## Room for one more call -/

namespace Environment

variable {environment : Environment}

theorem pushContext_of_full
    (full : environment.contexts.size = maxContexts) (context : Context) :
    environment.pushContext context = .error .contextOverflow := by
  have noRoom : ¬ environment.contexts.items.length < maxContexts := by
    simp only [BoundedStack.size] at full
    omega
  unfold pushContext BoundedStack.push?
  rw [dif_neg noRoom]

theorem pushContext_of_room
    (room : environment.contexts.size < maxContexts) (context : Context) :
    ∃ entered, environment.pushContext context = .ok entered := by
  simp only [BoundedStack.size] at room
  unfold pushContext BoundedStack.push?
  rw [dif_pos room]
  exact ⟨_, rfl⟩

theorem not_full_of_pushContext
    {context : Context} {entered : Environment}
    (push : environment.pushContext context = .ok entered) :
    environment.contexts.size ≠ maxContexts := by
  intro full
  rw [pushContext_of_full full] at push
  cases push

theorem full_of_pushContext
    {context : Context} {cause : RuntimeCause}
    (refused : environment.pushContext context = .error cause) :
    environment.contexts.size = maxContexts := by
  have bounded : environment.contexts.size ≤ maxContexts := environment.contexts.bounded
  rcases Nat.lt_or_eq_of_le bounded with room | full
  · obtain ⟨entered, push⟩ := pushContext_of_room room context
    rw [push] at refused
    cases refused
  · exact full

end Environment

/-! ## Accepted calls -/

/-- What a body has come to is no reason for a call to be one too many. -/
theorem callResult_ne_contextOverflow
    {κ : Type} {position place : Position} {routine : Routine} {machine : Machine κ} (flow : Flow) :
    (callResult position routine flow machine).1 ≠ .error ⟨.contextOverflow, place⟩ := by
  intro refused
  cases flow with
  | next | giveBack | leave => cases refused
  | value literal =>
      simp only [callResult] at refused
      split at refused <;> cases refused

namespace AcceptedCall

variable
    {κ : Type} [Console κ] {fuel : Nat} {machine after left : Machine κ} {position : Position}
    {label : String} {values : List Expression} {routine : Routine} {literals : List Literal}
    (accepted : AcceptedCall fuel machine label values routine literals after)

include accepted

/-- A call that is one too many fails where it stands, and leaves what its arguments have left. -/
theorem evaluate_of_full (full : after.environment.contexts.size = maxContexts) :
    evaluate (bodyRunner fuel) (.call position label values) machine =
      (.error ⟨.contextOverflow, position⟩, after) := by
  rw [accepted.evaluate_eq]
  apply Run.bind_of_error
  unfold Run.inContext
  rw [Environment.pushContext_of_full full]

/-- A call fails of itself for the number of calls only if there is no room for one more. -/
theorem full_of_raises
    {place : Position}
    (raises : Raises ⟨fuel, .expression (.call position label values), machine⟩
      ⟨.contextOverflow, place⟩ left) :
    after.environment.contexts.size = maxContexts := by
  cases raises with
  | tooDeep found _ argumentsEnd refused =>
      have sameRoutine := Except.ok.inj (accepted.found.symm.trans found)
      subst sameRoutine
      have sameEnd := accepted.argumentsEnd.symm.trans argumentsEnd
      simp only [Prod.mk.injEq] at sameEnd
      rw [sameEnd.2]
      exact Environment.full_of_pushContext refused

theorem raises_contextOverflow_iff :
    (∃ left, Raises ⟨fuel, .expression (.call position label values), machine⟩
      ⟨.contextOverflow, position⟩ left) ↔
      after.environment.contexts.size = maxContexts := by
  constructor
  · rintro ⟨left, raises⟩
    exact accepted.full_of_raises raises
  · intro full
    have refused := Environment.pushContext_of_full full (routine.context literals)
    exact ⟨after, .tooDeep accepted.found accepted.fits accepted.argumentsEnd refused⟩

/-- With room for the call, it fails for the number of calls only if its body does. -/
theorem body_of_contextOverflow
    {entered : Environment} {place : Position}
    (push : after.environment.pushContext (routine.context literals) = .ok entered)
    (ends : evaluate (bodyRunner fuel) (.call position label values) machine =
      (.error ⟨.contextOverflow, place⟩, left)) :
    ∃ between,
      bodyRunner fuel routine.body (after.called (routine.context literals) entered) =
        (.error ⟨.contextOverflow, place⟩, between) := by
  rw [accepted.evaluate_eq_callEnding push] at ends
  rcases bodyEnds : bodyRunner fuel routine.body
    (after.called (routine.context literals) entered) with ⟨outcome, between⟩
  rw [bodyEnds] at ends
  refine ⟨between, ?_⟩
  cases outcome with
  | ok flow => exact absurd (congrArg Prod.fst ends) (callResult_ne_contextOverflow flow)
  | error error =>
      cases ends
      rfl
  | fault | outOfFuel => cases ends

end AcceptedCall

/-! ## Points inside calls -/

variable {κ : Type} [Console κ]

/-- A call with its arguments accepted, at a point of programs in turn that is inside of a number of
calls. -/
structure BoundedCall
    (start : Nat) (programs : List Program) (console : κ) (calls : Nat)
    (fuel : Nat) (machine : Machine κ) (position : Position) (label : String)
    (values : List Expression) (routine : Routine) (literals : List Literal)
    (after : Machine κ) : Prop where
  /-- As many calls are active after the arguments as before. -/
  active : after.environment.contexts.size = calls
  /-- The call is refused as one too many exactly inside of as many calls as there may be. -/
  overflows :
    (∃ left, Raises ⟨fuel, .expression (.call position label values), machine⟩
      ⟨.contextOverflow, position⟩ left) ↔ calls = maxContexts
  /-- Then no body is run for it, and the machine is left as the arguments have left it. -/
  refused : calls = maxContexts →
    evaluate (bodyRunner fuel) (.call position label values) machine =
      (.error ⟨.contextOverflow, position⟩, after) ∧
    ∀ next, Step ⟨fuel, .expression (.call position label values), machine⟩ next →
      next.task.isZoop = false
  /-- Otherwise its body is run inside of one more call.  The call ends as the body does, whatever that
  is, and a call that is then one too many is one in the body. -/
  entered : calls < maxContexts → ∃ entered,
    after.environment.pushContext (routine.context literals) = .ok entered ∧
    Program.VisitedWithin start programs console (calls + 1)
      ⟨fuel, .zoop routine.body, after.called (routine.context literals) entered⟩ ∧
    evaluate (bodyRunner fuel) (.call position label values) machine =
      callEnding position routine
        (bodyRunner fuel routine.body (after.called (routine.context literals) entered)) ∧
    (maxContexts ≤ start → ∃ rest, fuel = rest + 1 ∧
      Program.VisitedWithin start programs console (calls + 1)
        ⟨rest, .statements routine.body, after.called (routine.context literals) entered⟩ ∧
      evaluate (bodyRunner fuel) (.call position label values) machine =
        callEnding position routine
          (executeAll (bodyRunner rest) rest routine.body
            (after.called (routine.context literals) entered))) ∧
    ∀ place left,
      evaluate (bodyRunner fuel) (.call position label values) machine =
        (.error ⟨.contextOverflow, place⟩, left) →
      ∃ between,
        bodyRunner fuel routine.body (after.called (routine.context literals) entered) =
          (.error ⟨.contextOverflow, place⟩, between)

namespace Program

variable
    {start calls : Nat} {programs : List Program} {console : κ} {point next : Point κ}

theorem visited_iff_within :
    Visited start programs console point ↔
      ∃ calls, VisitedWithin start programs console calls point := by
  constructor
  · rintro ⟨earlier, program, later, split, visits⟩
    obtain ⟨calls, within⟩ := visits.within
    exact ⟨calls, earlier, program, later, split, within⟩
  · rintro ⟨_, earlier, program, later, split, within⟩
    exact ⟨earlier, program, later, split, within.visits⟩

namespace VisitedWithin

variable (visited : VisitedWithin start programs console calls point)

include visited

theorem onward (step : Step point next) (sameCall : next.task.isZoop = false) :
    VisitedWithin start programs console calls next := by
  obtain ⟨earlier, program, later, split, within⟩ := visited
  exact ⟨earlier, program, later, split, .onward within step sameCall⟩

theorem into (step : Step point next) (entersCall : next.task.isZoop = true) :
    VisitedWithin start programs console (calls + 1) next := by
  obtain ⟨earlier, program, later, split, within⟩ := visited
  exact ⟨earlier, program, later, split, .into within step entersCall⟩

/-- No call is active at the start of a program, also where earlier ones have failed. -/
theorem size_contexts : point.machine.environment.contexts.size = calls := by
  obtain ⟨earlier, program, later, _, within⟩ := visited
  have atRest : (runInTurn start earlier (Machine.start console)).environment.AtRest := by
    apply runInTurn_keeps fun machine => machine.environment.AtRest
    · intro program _ machine rest
      exact (runWith_disciplined start program machine).atRest rest
    · exact ⟨rfl, rfl⟩
  obtain ⟨entered, count, items⟩ := within.contexts
  rw [atRest.2, List.append_nil] at items
  rw [BoundedStack.size, items, count]

theorem fuel_add_calls : point.fuel + calls = start + point.task.isZoop.toNat := by
  obtain ⟨earlier, program, later, _, within⟩ := visited
  exact within.fuel_add_calls rfl

end VisitedWithin

end Program

/-- An accepted call at a point is bounded by the number of calls that are active there. -/
theorem AcceptedCall.bounded
    {start calls fuel : Nat} {programs : List Program} {console : κ} {machine after : Machine κ}
    {position : Position} {label : String} {values : List Expression} {routine : Routine}
    {literals : List Literal}
    (accepted : AcceptedCall fuel machine label values routine literals after)
    (visited : Program.VisitedWithin start programs console calls
      ⟨fuel, .expression (.call position label values), machine⟩) :
    BoundedCall start programs console calls fuel machine position label values routine literals
      after := by
  have sameContexts := Task.contexts_of_run (.arguments _ _ _) accepted.argumentsEnd
  have active : after.environment.contexts.size = calls := by
    rw [sameContexts]
    exact visited.size_contexts
  refine ⟨active, ?_, ?_, ?_⟩
  · rw [← active]
    exact accepted.raises_contextOverflow_iff
  · intro full
    have isFull := active.trans full
    refine ⟨accepted.evaluate_of_full isFull, ?_⟩
    intro next step
    cases isZoop : next.task.isZoop with
    | false => rfl
    | true =>
        obtain ⟨entered, push, _⟩ := accepted.eq_of_step step isZoop
        exact absurd isFull (Environment.not_full_of_pushContext push)
  · intro room
    rw [← active] at room
    obtain ⟨entered, push⟩ :=
      Environment.pushContext_of_room room (routine.context literals)
    have inBody := visited.into (accepted.step push) rfl
    have ends : evaluate (bodyRunner fuel) (.call position label values) machine = _ :=
      accepted.evaluate_eq_callEnding push
    refine ⟨entered, push, inBody, ends, ?_, fun place left => accepted.body_of_contextOverflow push⟩
    intro enough
    have count := visited.fuel_add_calls
    have someFuel : fuel ≠ 0 := by
      rintro rfl
      simp only [Task.isZoop, Bool.toNat_false] at count
      omega
    obtain ⟨rest, rfl⟩ := Nat.exists_eq_succ_of_ne_zero someFuel
    exact ⟨rest, rfl, inBody.onward .zoop rfl, ends⟩

/-- At each point of programs in turn there are as many contexts as calls are active, and never more
than there may be.  A call of a declared zoop whose arguments are accepted is refused exactly if that
many are active already, and does nothing then; otherwise its body is run, and it ends as the body
does. -/
theorem call_depth_bound_is_exact (fuel : Nat) (programs : List Program) (console : κ) :
    (∀ point, Program.Visited fuel programs console point ↔
      ∃ calls, Program.VisitedWithin fuel programs console calls point) ∧
    ∀ calls point, Program.VisitedWithin fuel programs console calls point →
      calls ≤ maxContexts ∧
      point.machine.environment.contexts.size = calls ∧
      point.ending.2.environment.contexts.size = calls ∧
      ∀ position label values routine literals after,
        point.task = .expression (.call position label values) →
        AcceptedCall point.fuel point.machine label values routine literals after →
        BoundedCall fuel programs console calls point.fuel point.machine position label values
          routine literals after := by
  refine ⟨fun _ => Program.visited_iff_within, ?_⟩
  intro calls point visited
  have size := visited.size_contexts
  have endSize : point.ending.2.environment.contexts.size = calls := by
    rw [point.contexts_of_ending]
    exact size
  have bounded : calls ≤ maxContexts := size ▸ point.machine.environment.contexts.bounded
  refine ⟨bounded, size, endSize, ?_⟩
  intro position label values routine literals after isCall accepted
  obtain ⟨pointFuel, task, machine⟩ := point
  subst isCall
  exact accepted.bounded visited

/-- A zoop that calls itself with its own argument. -/
def sinkingZoop : Routine :=
  ⟨"f", [⟨"n", .string⟩], none,
    [.expression .start (.call .start "f" [.variable .start ⟨false, "n"⟩])]⟩

/-- A call of that zoop, which never comes to an end of its own. -/
def sinkingProgram : Program :=
  ⟨[.routine .start sinkingZoop.label sinkingZoop.parameters sinkingZoop.returnType sinkingZoop.body,
    .expression .start (.call .start "f" [.literal .start (.string "x")])]⟩

/-- Each call of the zoop comes to one more, with the same argument. -/
theorem sinkingZoop_calls_itself
    {calls rest : Nat} {machine : Machine BufferedConsole} {value : Expression}
    (room : calls < maxContexts)
    (visited : Program.VisitedWithin maxContexts [sinkingProgram] (BufferedConsole.ofInput []) calls
      ⟨rest + 1, .expression (.call .start "f" [value]), machine⟩)
    (accepted : AcceptedCall (rest + 1) machine "f" [value] sinkingZoop [.string "x"] machine) :
    ∃ inside : Machine BufferedConsole,
      Program.VisitedWithin maxContexts [sinkingProgram] (BufferedConsole.ofInput []) (calls + 1)
        ⟨rest, .expression (.call .start "f" [.variable .start ⟨false, "n"⟩]), inside⟩ ∧
      AcceptedCall rest inside "f" [.variable .start ⟨false, "n"⟩] sinkingZoop [.string "x"]
        inside := by
  obtain ⟨entered, push, inBody, _⟩ := (accepted.bounded visited).entered room
  have inStatement := (inBody.onward .zoop rfl).onward .statement rfl
  refine ⟨_, inStatement.onward .effect rfl, ?_⟩
  have argument :
      (machine.called (sinkingZoop.context [.string "x"]) entered).environment.lookup ⟨false, "n"⟩ =
        .ok (.string "x") :=
    Environment.lookup_of_topContext (Machine.topContext?_called push) rfl
  obtain ⟨_, _, _, rfl⟩ := Environment.pushContext_eq_ok push
  refine ⟨accepted.found, rfl, .value ?_ .done, rfl⟩
  simp only [evaluate, Run.ask]
  rw [argument]
  rfl

theorem sinkingZoop_reaches (calls : Nat) (room : calls < maxContexts) :
    ∃ machine : Machine BufferedConsole,
      Program.VisitedWithin maxContexts [sinkingProgram] (BufferedConsole.ofInput []) (calls + 1)
        ⟨maxContexts - (calls + 1),
          .expression (.call .start "f" [.variable .start ⟨false, "n"⟩]), machine⟩ ∧
      AcceptedCall (maxContexts - (calls + 1)) machine "f" [.variable .start ⟨false, "n"⟩]
        sinkingZoop [.string "x"] machine := by
  induction calls with
  | zero =>
      have declared : Program.VisitedWithin maxContexts [sinkingProgram]
          (BufferedConsole.ofInput []) 0 _ :=
        ⟨[], sinkingProgram, [], rfl, .onward .here (.moreTop rfl) rfl⟩
      have calling := (declared.onward .top rfl).onward .effect rfl
      exact sinkingZoop_calls_itself room calling ⟨rfl, rfl, .value rfl .done, rfl⟩
  | succ calls inductionHypothesis =>
      obtain ⟨machine, visited, accepted⟩ :=
        inductionHypothesis (Nat.lt_of_succ_lt room)
      have oneMore : maxContexts - (calls + 1) = maxContexts - (calls + 1 + 1) + 1 := by omega
      rw [oneMore] at visited accepted
      exact sinkingZoop_calls_itself room visited accepted

/-- The call inside of twenty calls is refused, and leaves the machine alone. -/
theorem call_depth_bound_stops_sinkingProgram :
    ∃ machine : Machine BufferedConsole,
      Program.VisitedWithin maxContexts [sinkingProgram] (BufferedConsole.ofInput []) 20
        ⟨0, .expression (.call .start "f" [.variable .start ⟨false, "n"⟩]), machine⟩ ∧
      AcceptedCall 0 machine "f" [.variable .start ⟨false, "n"⟩] sinkingZoop [.string "x"]
        machine ∧
      machine.environment.contexts.size = 20 ∧
      evaluate (bodyRunner 0) (.call .start "f" [.variable .start ⟨false, "n"⟩]) machine =
        (.error ⟨.contextOverflow, .start⟩, machine) := by
  obtain ⟨machine, visited, accepted⟩ := sinkingZoop_reaches 19 (by decide)
  obtain ⟨_, size, _, settles⟩ :=
    (call_depth_bound_is_exact maxContexts [sinkingProgram] (BufferedConsole.ofInput [])).2
      _ _ visited
  have bounded := settles _ _ _ _ _ _ rfl accepted
  exact ⟨machine, visited, accepted, size, (bounded.refused rfl).1⟩

end Zoop
