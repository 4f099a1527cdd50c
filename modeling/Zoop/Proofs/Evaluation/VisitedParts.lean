import Zoop.Proofs.Evaluation.ActiveCalls
import Zoop.Proofs.Evaluation.History
import Zoop.Proofs.Evaluation.Transcript

/-!
# What is visited is run

A step from one point to another says that the other is run as a part of the first.  This is so: where
the part stops, the whole stops for the same reason, and whatever the console has been told by the end of
the part it has been told by the end of the whole, after what it had been told before.  So nothing that
is visited is made up, and all that is done at the points of a program is in the record of its run.
-/

namespace Zoop

open Evaluation

/-! ## What is kept is kept on the way -/

variable {κ : Type} [Console κ]

/-- What runs keep of a machine holds at each point that a point comes to. -/
theorem Passage.step
    {Kept : Machine κ → Prop} {Leads : Environment → Environment → Prop}
    (passage : Passage Condition.trivial Kept Leads)
    (uniform : UniformCongruence Condition.trivial fun α (run _ : Run κ α) => run.Passes Kept Leads)
    {point next : Point κ} (step : Step point next) (kept : Kept point.machine) :
    Kept next.machine := by
  have of_ends
      {fuel : Nat} {machine after : Machine κ} (task : Task)
      {outcome : Outcome RuntimeError task.Result} (ends : task.run fuel machine = (outcome, after))
      (kept : Kept machine) : Kept after := by
    have passes := (uniform.task fuel task machine kept).1
    rwa [ends] at passes
  have inside {machine : Machine κ} (kind : ScopeKind) (kept : Kept machine) :
      Kept (machine.inside kind) := by
    have made : Condition.trivial.Makes (.opened kind) := trivial
    exact passage.becomes kept made rfl
  cases step with
  | declared | reassigned | grouped | operand | leftOperand | casted | arguments | argument | zoop
  | effect | printed | givenBack | first | loop | round | statement | guard | branch | top =>
      exact kept
  | block | otherwiseBody => exact inside .block kept
  | rightOperand leftEnds => exact of_ends (.expression _) leftEnds kept
  | called _ _ argumentsEnd push =>
      have made {context : Context} : Condition.trivial.Makes (.entered context) := trivial
      have keptAfter := of_ends (.arguments _ _ _) argumentsEnd kept
      exact inside .routineBody (passage.becomes keptAfter made push)
  | moreArguments valueEnds => exact of_ends (.expression _) valueEnds kept
  | others firstEnds => exact of_ends (.branch _) firstEnds kept
  | otherwise firstEnds othersEnd =>
      exact of_ends (.branches _) othersEnd (of_ends (.branch _) firstEnds kept)
  | moreRounds roundEnds => exact of_ends (.statements _) roundEnds kept
  | moreStatements statementEnds => exact of_ends (.statement _) statementEnds kept
  | guarded guardEnds => exact inside .block (of_ends (.expression _) guardEnds kept)
  | moreBranches branchEnds => exact of_ends (.branch _) branchEnds kept
  | moreTop statementEnds => exact of_ends (.statement _) statementEnds kept

/-! ## Consoles that are told more and more -/

/-- An order of consoles in which a console comes to a later one whenever it is told something. -/
structure Console.Order {κ : Type} [Console κ] (Earlier : κ → κ → Prop) : Prop where
  refl : ∀ console, Earlier console console
  trans : ∀ {first second third}, Earlier first second → Earlier second third → Earlier first third
  printLine : ∀ line console, Earlier console (Console.printLine line console).2
  readLine : ∀ prompt console, Earlier console (Console.readLine prompt console).2
  notice : ∀ change environment console, Earlier console (Console.notice change environment console)

/-- A transcript only gets longer. -/
theorem Transcript.order :
    Console.Order fun first second : Transcript κ => first.calls <:+ second.calls where
  refl console := List.suffix_refl console.calls
  trans first second := first.trans second
  printLine _ console := List.suffix_cons _ console.calls
  readLine _ console := List.suffix_cons _ console.calls
  notice _ _ console := List.suffix_refl console.calls

/-- The history of a recorder only gets longer. -/
theorem Recorder.order :
    Console.Order fun first second : Recorder κ => first.history <:+ second.history where
  refl console := List.suffix_refl console.history
  trans first second := first.trans second
  printLine _ console := List.suffix_refl console.history
  readLine _ console := List.suffix_refl console.history
  notice _ _ console := List.suffix_cons _ console.history

/-- A run that starts after a given console ends after it. -/
abbrev Run.StaysAfter {α : Type} (Earlier : κ → κ → Prop) (start : κ) (run : Run κ α) : Prop :=
  run.Passes (fun machine => Earlier start machine.console) fun _ _ => True

namespace Console.Order

variable {Earlier : κ → κ → Prop} (order : Console.Order Earlier)

include order

/-- Every run leads from what comes after a given console to what comes after it. -/
theorem passage (start : κ) :
    Passage Condition.trivial (fun machine => Earlier start machine.console) fun _ _ => True where
  admits _ := fun routine _ => Condition.admits_trivial routine
  becomes earlier _ _ := order.trans earlier (order.notice _ _ _)
  prints line earlier := order.trans earlier (order.printLine line _)
  reads prompt earlier := order.trans earlier (order.readLine prompt _)
  refl _ := trivial
  trans _ _ := trivial
  define _ := trivial
  declare _ := trivial
  scope _ := trivial
  context _ _ := trivial

variable {α : Type} (start : κ)

theorem value (value : α) : (pure value : Run κ α).StaysAfter Earlier start :=
  (order.passage start).still fun _ => rfl

theorem fail (cause : RuntimeCause) (position : Position) :
    (Run.fail cause position : Run κ α).StaysAfter Earlier start :=
  (order.passage start).still fun _ => rfl

theorem result (result : Except RuntimeError α) :
    (Run.ofResult result : Run κ α).StaysAfter Earlier start :=
  (order.passage start).still (Run.ofResult_machine result)

theorem resultAt (position : Position) (result : Except RuntimeCause α) :
    (Run.ofResultAt position result : Run κ α).StaysAfter Earlier start :=
  (order.passage start).still (Run.ofResultAt_machine position result)

theorem perform (position : Position) (change : Change) :
    (Run.perform position change : Run κ Unit).StaysAfter Earlier start :=
  (order.passage start).perform position fun _ _ earlier _ =>
    ⟨order.trans earlier (order.notice _ _ _), trivial⟩

theorem uniform :
    UniformCongruence Condition.trivial fun α (run _ : Run κ α) => run.StaysAfter Earlier start :=
  (order.passage start).uniform_of_assign fun _ _ earlier _ =>
    ⟨order.trans earlier (order.notice _ _ _), trivial⟩

theorem task (fuel : Nat) (task : Task) : (task.run fuel).StaysAfter Earlier start :=
  (order.uniform start).task fuel task

theorem enter
    (fuel : Nat) (position : Position) (routine : Routine) (context : Context) :
    (Evaluation.enter (bodyRunner fuel) position routine context).StaysAfter Earlier start := by
  have passage := order.passage start
  have body := passage.inScope .routineBody (order.task start fuel (.zoop routine.body))
  exact passage.bind (passage.inContext position context body) fun _ =>
    passage.still (Run.callResult_machine position routine _)

end Console.Order

/-! ## Parts of runs -/

/-- One ending is that of a part of what ends in the other way: the console has come on from there, and
where the part has stopped, the whole has. -/
structure PartOf
    {α β : Type} (Earlier : κ → κ → Prop)
    (part : Outcome RuntimeError α × Machine κ) (whole : Outcome RuntimeError β × Machine κ) :
    Prop where
  onward : Earlier part.2.console whole.2.console
  stops : ∀ stop : Stop, part.1 = stop.outcome → whole.1 = stop.outcome

namespace PartOf

variable {α β γ : Type} {Earlier : κ → κ → Prop} (order : Console.Order Earlier)

include order

theorem refl (ending : Outcome RuntimeError α × Machine κ) : PartOf Earlier ending ending :=
  ⟨order.refl _, fun _ stops => stops⟩

theorem trans
    {first : Outcome RuntimeError α × Machine κ} {second : Outcome RuntimeError β × Machine κ}
    {third : Outcome RuntimeError γ × Machine κ} (part : PartOf Earlier first second)
    (whole : PartOf Earlier second third) : PartOf Earlier first third :=
  ⟨order.trans part.onward whole.onward, fun stop stops => whole.stops stop (part.stops stop stops)⟩

theorem bind
    {run : Run κ α} {next : α → Run κ β} {machine : Machine κ}
    (goesOn : ∀ value, (next value).StaysAfter Earlier (run machine).2.console) :
    PartOf Earlier (run machine) ((run >>= next) machine) := by
  rcases ends : run machine with ⟨outcome, after⟩
  rw [ends] at goesOn
  cases outcome using Outcome.stop_cases with
  | ok value =>
      rw [Run.bind_of_ok ends]
      exact ⟨(goesOn value after (order.refl _)).1, fun stop stops =>
        absurd stops.symm Stop.outcome_ne_ok⟩
  | stopped stop =>
      rw [Run.bind_of_stop ends]
      exact ⟨order.refl _, fun other stops => by rw [Stop.outcome_inj.mp stops]⟩

theorem inScope (kind : ScopeKind) (run : Run κ α) (machine : Machine κ) :
    PartOf Earlier (run (machine.inside kind)) (Run.inScope kind run machine) :=
  ⟨order.notice _ _ _, fun _ stops => stops⟩

/-- The body that a call runs is part of the call. -/
theorem call
    {run : BodyRunner κ} {position : Position} {routine : Routine} {context : Context}
    {machine : Machine κ} {entered : Environment}
    (push : machine.environment.pushContext context = .ok entered) :
    PartOf Earlier (run routine.body (machine.called context entered))
      (enter run position routine context machine) := by
  rw [enter_eq_callEnding push]
  rcases run routine.body (machine.called context entered) with ⟨outcome, left⟩
  have returned : Earlier left.console left.returned.console :=
    order.trans (order.notice _ _ _) (order.notice _ _ _)
  cases outcome with
  | ok flow =>
      refine ⟨?_, fun stop stops => absurd stops.symm Stop.outcome_ne_ok⟩
      simp only [callEnding]
      rwa [Run.callResult_machine]
  | error | fault | outOfFuel =>
      refine ⟨returned, ?_⟩
      rintro (_ | _ | _) ⟨⟩
      rfl

end PartOf

/-! ## Steps -/

namespace Step

variable {Earlier : κ → κ → Prop} (order : Console.Order Earlier) {point next : Point κ}

include order

/-- A step leads to a point that is run later. -/
theorem onward (step : Step point next) : Earlier point.machine.console next.machine.console :=
  (order.passage point.machine.console).step (order.uniform _) step (order.refl _)

/-- A step leads to a part of the point that it starts from. -/
theorem part (step : Step point next) : PartOf Earlier next.ending point.ending := by
  have passage := order.passage next.ending.2.console
  have task := order.task next.ending.2.console
  have value {α : Type} (value : α) := order.value next.ending.2.console value
  cases step with
  | declared =>
      simp only [Point.ending, Task.run, evaluate]
      exact .bind order fun _ => passage.bind (order.result _ _) fun _ =>
        passage.bind (order.perform _ _ _) fun _ => value _
  | reassigned found =>
      simp only [Point.ending, Task.run, evaluate]
      rw [Run.ask_bind_of_ok found]
      exact .bind order fun _ => passage.bind (order.result _ _) fun _ =>
        passage.bind (order.perform _ _ _) fun _ => value _
  | grouped | zoop | loop =>
      simp only [Point.ending, Task.run, evaluate, execute]
      exact .refl order _
  | operand | casted =>
      simp only [Point.ending, Task.run, evaluate]
      exact .bind order fun _ => order.resultAt _ _ _
  | leftOperand =>
      simp only [Point.ending, Task.run, evaluate]
      exact .bind order fun _ => passage.bind (task _ (.expression _)) fun _ => order.result _ _
  | rightOperand leftEnds =>
      simp only [Point.ending, Task.run, evaluate]
      rw [Run.bind_of_ok leftEnds]
      exact .bind order fun _ => order.result _ _
  | arguments found fits =>
      simp only [Point.ending, Task.run, evaluate]
      rw [Run.ask_bind_of_ok found, if_pos fits]
      exact .bind order fun _ => order.enter _ _ _ _ _
  | called found fits argumentsEnd push =>
      simp only [Point.ending, Task.run, evaluate]
      rw [Run.ask_bind_of_ok found, if_pos fits, Run.bind_of_ok argumentsEnd]
      exact .call order push
  | argument =>
      simp only [Point.ending, Task.run, evaluateArguments]
      refine .bind order fun _ => ?_
      split
      · exact task _ (.arguments _ _ _)
      · exact order.fail _ _ _
  | moreArguments valueEnds typed =>
      simp only [Point.ending, Task.run, evaluateArguments]
      rw [Run.bind_of_ok valueEnds, if_pos typed]
      exact .refl order _
  | effect | givenBack =>
      simp only [Point.ending, Task.run, execute]
      exact .bind order fun _ => value _
  | printed =>
      simp only [Point.ending, Task.run, execute]
      refine .bind order fun _ => ?_
      split
      · exact order.fail _ _ _
      · exact passage.bind (passage.print _ _) fun _ => value _
  | block | otherwiseBody =>
      simp only [Point.ending, Task.run, execute, executeOtherwise]
      exact .inScope order _ _ _
  | first =>
      simp only [Point.ending, Task.run, execute]
      refine .bind order fun chosen => ?_
      cases chosen with
      | some _ => exact value _
      | none =>
          refine passage.bind (task _ (.branches _)) fun chosen => ?_
          cases chosen with
          | some _ => exact value _
          | none => exact task _ (.otherwise _)
  | others firstEnds =>
      simp only [Point.ending, Task.run, execute]
      rw [Run.bind_of_ok firstEnds]
      refine .bind order fun chosen => ?_
      cases chosen with
      | none => exact task _ (.otherwise _)
      | some _ => exact value _
  | otherwise firstEnds othersEnd =>
      simp only [Point.ending, Task.run, execute]
      rw [Run.bind_of_ok firstEnds]
      dsimp only
      rw [Run.bind_of_ok othersEnd]
      exact .refl order _
  | round =>
      simp only [Point.ending, Task.run]
      rw [repeatBody_succ]
      refine .bind order fun flow => ?_
      cases flow with
      | next => exact task _ (.rounds _ _ _)
      | leave | giveBack => exact value _
      | value _ => exact order.fail _ _ _
  | moreRounds roundEnds =>
      simp only [Point.ending, Task.run]
      rw [repeatBody_succ, Run.bind_of_ok roundEnds]
      exact .refl order _
  | statement =>
      simp only [Point.ending, Task.run, executeAll]
      refine .bind order fun flow => ?_
      cases flow with
      | next => exact task _ (.statements _)
      | leave | giveBack | value _ => exact value _
  | moreStatements statementEnds =>
      simp only [Point.ending, Task.run, executeAll]
      rw [Run.bind_of_ok statementEnds]
      exact .refl order _
  | guard =>
      simp only [Point.ending, Task.run, executeBranch]
      refine .bind order fun _ => ?_
      split
      · exact passage.bind (passage.inScope _ (task _ (.statements _))) fun _ => value _
      · exact value _
  | guarded guardEnds passes =>
      simp only [Point.ending, Task.run, executeBranch]
      rw [Run.bind_of_ok guardEnds, if_pos passes]
      exact .trans order (.inScope order _ _ _) (.bind order fun _ => order.value _ _)
  | branch =>
      simp only [Point.ending, Task.run, executeBranches]
      refine .bind order fun chosen => ?_
      cases chosen with
      | none => exact task _ (.branches _)
      | some _ => exact value _
  | moreBranches branchEnds =>
      simp only [Point.ending, Task.run, executeBranches]
      rw [Run.bind_of_ok branchEnds]
      exact .refl order _
  | top =>
      simp only [Point.ending, Task.run, runStatements]
      exact .bind order fun _ => task _ (.program _)
  | moreTop statementEnds =>
      simp only [Point.ending, Task.run, runStatements]
      rw [Run.bind_of_ok statementEnds]
      exact .refl order _

end Step

/-! ## Points of programs -/

section

variable {Earlier : κ → κ → Prop} (order : Console.Order Earlier)

include order

/-- All that a point comes to is a part of it. -/
theorem Visits.part {start point : Point κ} (visits : Visits start point) :
    Earlier start.machine.console point.machine.console ∧
      PartOf Earlier point.ending start.ending := by
  induction visits with
  | here => exact ⟨order.refl _, .refl order _⟩
  | next _ step inductionHypothesis =>
      obtain ⟨onward, part⟩ := inductionHypothesis
      exact ⟨order.trans onward (step.onward order), .trans order (step.part order) part⟩

theorem Program.runInTurn_onward (fuel : Nat) (programs : List Program) (machine : Machine κ) :
    Earlier machine.console (runInTurn fuel programs machine).console := by
  apply runInTurn_keeps fun after => Earlier machine.console after.console
  · exact fun program _ after earlier =>
      (order.task machine.console fuel (.program program.statements) after earlier).1
  · exact order.refl _

/-- A point of programs in turn is a part of the run of one of them: it is run after all that has been
run before, where it stops the program stops, and all that is done at it is done by the programs. -/
theorem Program.Visited.part
    {fuel : Nat} {programs : List Program} {console : κ} {point : Point κ}
    (visited : Program.Visited fuel programs console point) :
    ∃ earlier program later, programs = earlier ++ program :: later ∧
      let before := runInTurn fuel earlier (Machine.start console)
      Earlier console point.machine.console ∧
        PartOf Earlier point.ending (program.runWith fuel before) ∧
        Earlier point.ending.2.console (runInTurn fuel programs (Machine.start console)).console := by
  obtain ⟨earlier, program, later, rfl, visits⟩ := visited
  obtain ⟨onward, part⟩ := visits.part order
  refine ⟨earlier, program, later, rfl, ?_, part, ?_⟩
  · exact order.trans (runInTurn_onward order fuel earlier (Machine.start console)) onward
  · rw [runInTurn_append]
    exact order.trans part.onward (runInTurn_onward order fuel later _)

end

/-- What is recorded at a point of programs in turn leads to the environment there, and it is recorded
by the programs. -/
theorem Program.Visited.recorded
    {fuel : Nat} {programs : List Program} {console : κ} {point : Point (Recorder κ)}
    (visited : Program.Visited fuel programs (Recorder.fresh console) point) :
    point.machine.Reached .initial ∧
      point.ending.2.console.history <:+
        (runInTurn fuel programs (Machine.start (Recorder.fresh console))).console.history := by
  constructor
  · obtain ⟨earlier, _, _, _, visits⟩ := visited
    induction visits with
    | here => exact runInTurn_reached fuel earlier console
    | next _ step reached => exact Recorder.passage.step Recorder.uniform step reached
  · obtain ⟨_, _, _, _, _, _, onward⟩ := visited.part Recorder.order
    exact onward

/-- The calls of the console at a point of programs in turn are among those that the programs make. -/
theorem Program.Visited.calls
    {fuel : Nat} {programs : List Program} {console : κ} {point : Point (Transcript κ)}
    (visited : Program.Visited fuel programs (Transcript.fresh console) point) :
    point.machine.console.calls <:+ point.ending.2.console.calls ∧
      point.ending.2.console.calls <:+
        (runInTurn fuel programs (Machine.start (Transcript.fresh console))).console.calls := by
  obtain ⟨_, _, _, _, _, _, onward⟩ := visited.part Transcript.order
  have ending := Transcript.order.task point.machine.console point.fuel point.task point.machine
    (List.suffix_refl _)
  exact ⟨ending.1, onward⟩

end Zoop
