import Zoop.Proofs.Evaluation.LoopExit

/-!
# Programs without loops finish

Only loops and calls leave the structure of a program.  A call puts its arguments on a bounded stack
before its body runs and takes them off after it, so calls cannot nest deeper than the stack: the room
that is left on the stack and the fuel that is left go down together.  A program without loops therefore
finishes once its fuel covers the stack, and more fuel changes nothing.  It ends with a value or with an
error if the end of a loop cannot come out of its zoops, as it cannot in programs that are accepted.
-/

namespace Zoop

open Evaluation

/-- No statement is a loop. -/
def Condition.withoutLoops : Condition where
  expression _ := true
  statement
    | .loop _ _ => false
    | _ => true

/-- Whether a program has no loop, neither in its statements nor in its zoops. -/
def Program.isLoopFree (program : Program) : Bool :=
  Condition.withoutLoops.inProgram program

/-- All zoops are free of loops, and two amounts of fuel both cover the calls that may still be
entered. -/
structure Environment.Covered (fuel₁ fuel₂ : Nat) (environment : Environment) : Prop where
  admits : Condition.withoutLoops.AdmitsAll environment
  first : maxContexts ≤ environment.contexts.size + fuel₁
  second : maxContexts ≤ environment.contexts.size + fuel₂

namespace Environment.Covered

variable {fuel₁ fuel₂ : Nat}

theorem invariant : Invariant Condition.withoutLoops (Covered fuel₁ fuel₂) where
  admits covered := covered.admits
  keeps covered permitted applied := by
    have contexts := Change.contexts_of_apply permitted applied
    refine ⟨covered.admits.of_apply permitted.declaredAdmits applied, ?_, ?_⟩
    · rw [contexts]
      exact covered.first
    · rw [contexts]
      exact covered.second

/-- A call uses up a place on the stack. -/
theorem enter
    {environment entered : Environment} {context : Context}
    (covered : environment.Covered (fuel₁ + 1) (fuel₂ + 1))
    (push : environment.pushContext context = .ok entered) :
    entered.Covered fuel₁ fuel₂ := by
  obtain ⟨contexts, _, items, shape⟩ := pushContext_eq_ok push
  have size : entered.contexts.size = environment.contexts.size + 1 := by
    rw [shape]
    simp only [BoundedStack.size, items, List.length_cons]
  refine ⟨covered.admits.of_routines_eq (by rw [shape]), ?_, ?_⟩
  · have room := covered.first
    omega
  · have room := covered.second
    omega

theorem leave
    {environment : Environment} (covered : environment.Covered fuel₁ fuel₂) :
    environment.popContext.Covered (fuel₁ + 1) (fuel₂ + 1) := by
  have size : environment.popContext.contexts.size = environment.contexts.size - 1 := by
    simp only [popContext, BoundedStack.pop, BoundedStack.size, List.length_tail]
  refine ⟨covered.admits.of_routines_eq rfl, ?_, ?_⟩
  · have room := covered.first
    omega
  · have room := covered.second
    omega

/-- Without fuel for a call the stack is full, so that the call does not begin. -/
theorem not_enter
    {environment entered : Environment} {context : Context}
    (full : maxContexts ≤ environment.contexts.size)
    (push : environment.pushContext context = .ok entered) : False := by
  obtain ⟨_, room, _, _⟩ := pushContext_eq_ok push
  simp only [BoundedStack.size] at full
  omega

end Environment.Covered

/-! ## Runs with two amounts of fuel -/

variable {κ : Type} [Console κ]

/-- Two runs do the same and finish, provided that their fuel covers the stack. -/
def BothFinish (fuel₁ fuel₂ : Nat) (α : Type) (first second : Run κ α) : Prop :=
  first.Agree (Environment.Covered fuel₁ fuel₂) .fault second

theorem both_finish_congruence (fuel₁ fuel₂ : Nat) :
    Congruence Condition.withoutLoops (BothFinish (κ := κ) fuel₁ fuel₂) :=
  Run.Agree.congruence Environment.Covered.invariant

omit [Console κ] in
theorem fault_both_finish (fuel₁ fuel₂ : Nat) :
    BothFinish fuel₁ fuel₂ Literal (Run.fault : Run κ Literal) Run.fault :=
  Run.Agree.of_stop fun _ => rfl

theorem loops_both_finish (run₁ run₂ : BodyRunner κ) (fuel₁ fuel₂ : Nat) :
    Loops Condition.withoutLoops (BothFinish fuel₁ fuel₂) run₁ run₂ fuel₁ fuel₂ := by
  intro position body isNoLoop
  cases isNoLoop

/-- Where the fuel covers the stack only if the stack is full, no call begins. -/
theorem calls_both_finish_of_full
    {fuel₁ fuel₂ : Nat}
    (full : ∀ environment : Environment, environment.Covered fuel₁ fuel₂ →
      maxContexts ≤ environment.contexts.size)
    (run₁ run₂ : BodyRunner κ) :
    Calls Condition.withoutLoops (BothFinish fuel₁ fuel₂) run₁ run₂ := by
  intro position routine context _
  apply (both_finish_congruence _ _).enter (fault_both_finish _ _)
  apply Run.Agree.inContext (fun _ => False) position context
  · intro environment entered covered push
    exact Environment.Covered.not_enter (full environment covered) push
  · exact fun _ impossible => impossible.elim
  · exact fun _ impossible => impossible.elim

/-- The recursion of calls follows the fuel: each call leaves the body one unit less. -/
theorem calls_both_finish :
    ∀ fuel₁ fuel₂ : Nat,
      Calls Condition.withoutLoops (BothFinish (κ := κ) fuel₁ fuel₂)
        (bodyRunner fuel₁) (bodyRunner fuel₂)
  | 0, _ => calls_both_finish_of_full (fun _ covered => covered.first) _ _
  | _ + 1, 0 => calls_both_finish_of_full (fun _ covered => covered.second) _ _
  | fuel₁ + 1, fuel₂ + 1 => by
      intro position routine context admitted
      apply (both_finish_congruence _ _).enter (fault_both_finish _ _)
      apply Run.Agree.inContext (Environment.Covered fuel₁ fuel₂) position context
      · exact fun _ _ covered push => covered.enter push
      · exact fun _ covered => covered.leave
      · apply Run.Agree.inScope Environment.Covered.invariant .routineBody
        exact (both_finish_congruence fuel₁ fuel₂).executeAll
          (calls_both_finish fuel₁ fuel₂)
          (Run.Agree.reassignments Environment.Covered.invariant _ _)
          (loops_both_finish _ _ fuel₁ fuel₂)
          routine.body admitted.2

theorem execute_both_finish
    (fuel₁ fuel₂ : Nat) (statement : Statement)
    (loopFree : Condition.withoutLoops.inStatement statement = true) :
    BothFinish (κ := κ) fuel₁ fuel₂ Flow
      (execute (bodyRunner fuel₁) fuel₁ statement) (execute (bodyRunner fuel₂) fuel₂ statement) :=
  (both_finish_congruence fuel₁ fuel₂).execute
    (calls_both_finish fuel₁ fuel₂)
    (Run.Agree.reassignments Environment.Covered.invariant _ _)
    (loops_both_finish _ _ fuel₁ fuel₂)
    statement loopFree

theorem runWith_both_finish
    (fuel₁ fuel₂ : Nat) {program : Program} (loopFree : program.isLoopFree = true) :
    BothFinish (κ := κ) fuel₁ fuel₂ Unit (program.runWith fuel₁) (program.runWith fuel₂) :=
  (both_finish_congruence fuel₁ fuel₂).runStatements
    (execute_both_finish fuel₁ fuel₂) program.statements loopFree

theorem covered_initial {fuel₁ fuel₂ : Nat}
    (first : maxContexts ≤ fuel₁) (second : maxContexts ≤ fuel₂) :
    Environment.initial.Covered fuel₁ fuel₂ := by
  refine ⟨Condition.admitsAll_initial _, ?_, ?_⟩
  · exact Nat.le_trans first (Nat.le_add_left _ _)
  · exact Nat.le_trans second (Nat.le_add_left _ _)

/-- A program without loops finishes in one way, which every run with fuel for as many calls as may be
active reaches on a new machine, whatever its zoops call.  It ends with a value or an error, unless the
body of one of its zoops is out of place; those of a program that the grammar accepts are not. -/
theorem loop_free_program_finishes
    {program : Program} (loopFree : program.isLoopFree = true) (console : κ) :
    ∃ (outcome : Outcome RuntimeError Unit) (machine : Machine κ),
      ((outcome = .ok () ∨ ∃ error, outcome = .error error) ∨
        outcome = .fault ∧ Condition.zoopsFit.inProgram program = false) ∧
      ((∃ tokens, Program.parse tokens = .ok program) →
        outcome = .ok () ∨ ∃ error, outcome = .error error) ∧
      (∀ fuel, maxContexts ≤ fuel →
        program.runWith fuel (Machine.start console) = (outcome, machine)) ∧
      program.run (Machine.start console) = (outcome, machine) := by
  have reached : ∀ fuel, maxContexts ≤ fuel →
      program.runWith fuel (Machine.start console) =
        program.runWith maxContexts (Machine.start console) := by
    intro fuel enough
    have agree := runWith_both_finish maxContexts fuel loopFree (Machine.start console)
      (covered_initial (Nat.le_refl _) enough)
    exact agree.1
  have finishes :=
    (runWith_both_finish maxContexts maxContexts loopFree (Machine.start console)
      (covered_initial (Nat.le_refl _) (Nat.le_refl _))).2.2
  have sound : Condition.zoopsFit.inProgram program = true →
      (program.runWith maxContexts (Machine.start console)).1 ≠ .fault :=
    fun fits => Program.runWith_ne_fault fits (Condition.admitsAll_initial _) maxContexts
  rcases result : program.runWith maxContexts (Machine.start console) with ⟨outcome, machine⟩
  rw [result] at finishes sound
  have ends : (outcome = .ok () ∨ ∃ error, outcome = .error error) ∨
      outcome = .fault ∧ Condition.zoopsFit.inProgram program = false := by
    cases finishes with
    | settled settled =>
        cases settled with
        | ok value => exact .inl (.inl rfl)
        | error error => exact .inl (.inr ⟨error, rfl⟩)
    | other => exact .inr ⟨rfl, Bool.eq_false_iff.mpr fun fits => sound fits rfl⟩
  refine ⟨outcome, machine, ends, ?_, ?_, ?_⟩
  · rintro ⟨tokens, parsed⟩
    rcases ends with settled | ⟨_, unfit⟩
    · exact settled
    · rw [Program.zoopsFit_of_parse parsed] at unfit
      cases unfit
  · intro fuel enough
    rw [reached fuel enough, result]
  · rw [← result]
    exact reached Program.plenty (by decide)

/-- Where the end of a loop does come out of a zoop, as it does in no source, the run is at a fault. -/
example :
    ((Program.mk [.routine .start "a" [] none [.leave .start],
        .expression .start (.call .start "a" [])]).runWith 1
      (Machine.start (BufferedConsole.ofInput []))).1 = .fault := by
  rfl

/-- Two zoops that call each other without end, and a call of the first. -/
def endlessTokens : List Token := [
  ⟨.keyword, "zoop", ⟨1, 0⟩, ⟨0, 4⟩, none⟩,
  ⟨.literal, "\x60a\x60", ⟨1, 5⟩, ⟨5, 3⟩, some (.string "a")⟩,
  ⟨.flowIn, "<-", ⟨1, 9⟩, ⟨9, 2⟩, none⟩,
  ⟨.direct, "=>", ⟨1, 12⟩, ⟨12, 2⟩, none⟩,
  ⟨.literal, "\x60b\x60", ⟨1, 15⟩, ⟨15, 3⟩, some (.string "b")⟩,
  ⟨.keyword, "de", ⟨1, 18⟩, ⟨18, 2⟩, none⟩,
  ⟨.newLine, "\n", ⟨1, 20⟩, ⟨20, 1⟩, none⟩,
  ⟨.keyword, "zoop", ⟨2, 0⟩, ⟨21, 4⟩, none⟩,
  ⟨.literal, "\x60b\x60", ⟨2, 5⟩, ⟨26, 3⟩, some (.string "b")⟩,
  ⟨.flowIn, "<-", ⟨2, 9⟩, ⟨30, 2⟩, none⟩,
  ⟨.direct, "=>", ⟨2, 12⟩, ⟨33, 2⟩, none⟩,
  ⟨.literal, "\x60a\x60", ⟨2, 15⟩, ⟨36, 3⟩, some (.string "a")⟩,
  ⟨.keyword, "de", ⟨2, 18⟩, ⟨39, 2⟩, none⟩,
  ⟨.newLine, "\n", ⟨2, 20⟩, ⟨41, 1⟩, none⟩,
  ⟨.literal, "\x60a\x60", ⟨3, 0⟩, ⟨42, 3⟩, some (.string "a")⟩,
  ⟨.keyword, "de", ⟨3, 3⟩, ⟨45, 2⟩, none⟩]

def endlessCalls : Program :=
  ⟨[.routine ⟨1, 0⟩ "a" [] none [.expression ⟨1, 15⟩ (.call ⟨1, 15⟩ "b" [])],
    .routine ⟨2, 0⟩ "b" [] none [.expression ⟨2, 15⟩ (.call ⟨2, 15⟩ "a" [])],
    .expression ⟨3, 0⟩ (.call ⟨3, 0⟩ "a" [])]⟩

theorem endlessCalls_finishes :
    endlessCalls.isLoopFree = true ∧
    Program.parse endlessTokens = .ok endlessCalls ∧
    ∃ (outcome : Outcome RuntimeError Unit) (machine : Machine BufferedConsole),
      (outcome = .ok () ∨ ∃ error, outcome = .error error) ∧
      (∀ fuel, maxContexts ≤ fuel →
        endlessCalls.runWith fuel (Machine.start (BufferedConsole.ofInput [])) =
          (outcome, machine)) ∧
      endlessCalls.run (Machine.start (BufferedConsole.ofInput [])) = (outcome, machine) := by
  have loopFree : endlessCalls.isLoopFree = true := by decide
  have parsed : Program.parse endlessTokens = .ok endlessCalls := by rfl
  obtain ⟨outcome, machine, _, settles, ends⟩ :=
    loop_free_program_finishes loopFree (BufferedConsole.ofInput [])
  exact ⟨loopFree, parsed, outcome, machine, settles ⟨endlessTokens, parsed⟩, ends⟩

end Zoop
