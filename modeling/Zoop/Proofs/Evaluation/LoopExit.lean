import Zoop.Proofs.Evaluation.Agreement
import Zoop.Proofs.Grammar.Placement

/-!
# The end of a loop stays inside the loop

A statement in its place ends with the end of a loop only where it stands in the body of one.  In
programs that the grammar accepts, no body of a zoop and no statement at the top ends in that way: what a
run would do with such an end makes no difference to it, and it does not come to a fault.
-/

namespace Zoop

open Evaluation Grammar

variable {κ : Type} [Console κ]

/-! ## Values that a run does not end with -/

/-- A run never ends with a given value. -/
def Run.Avoids {α : Type} (run : Run κ α) (value : α) : Prop :=
  ∀ machine, (run machine).1 ≠ .ok value

namespace Run.Avoids

variable {α β : Type} {value : α}

omit [Console κ] in
theorem pure {given : α} (different : given ≠ value) : (Pure.pure given : Run κ α).Avoids value := by
  intro machine ends
  injection ends with same
  exact different same

omit [Console κ] in
theorem fail (cause : RuntimeCause) (position : Position) :
    (Run.fail cause position : Run κ α).Avoids value :=
  fun _ => nofun

omit [Console κ] in
/-- A sequence avoids what its second part avoids, for all values that its first part may have. -/
theorem bind
    {first : Run κ β} {next : β → Run κ α}
    (later : ∀ given,
      (∃ machine, (first machine).1 = .ok given) → (next given).Avoids value) :
    (first >>= next).Avoids value := by
  intro machine
  apply Run.bind_cases fun result => result.1 ≠ .ok value
  · intro given after ends
    exact later given ⟨machine, by rw [ends]⟩ after
  · exact fun _ _ _ => Stop.outcome_ne_ok

theorem inScope (kind : ScopeKind) {run : Run κ α} (avoids : run.Avoids value) :
    (Run.inScope kind run).Avoids value :=
  fun machine => avoids (machine.became (.opened kind) (machine.environment.pushScope kind))

theorem inContext
    (position : Position) (context : Context) {run : Run κ α} (avoids : run.Avoids value) :
    (Run.inContext position context run).Avoids value := by
  intro machine
  unfold Run.inContext
  split
  · nofun
  · next entered _ => exact avoids (machine.became (.entered context) entered)

end Run.Avoids

/-! ## Statements in their places -/

omit [Console κ] in
/-- A loop never ends with the end of a loop: it is its own. -/
theorem repeatBody_avoids_leave (position : Position) (body : Run κ Flow) (fuel : Nat) :
    (repeatBody position body fuel).Avoids .leave := by
  induction fuel with
  | zero => exact fun _ => nofun
  | succ fuel inductionHypothesis =>
      rw [repeatBody_succ]
      apply Run.Avoids.bind
      intro flow _
      cases flow with
      | next => exact inductionHypothesis
      | giveBack => exact Run.Avoids.pure nofun
      | leave => exact Run.Avoids.pure nofun
      | value literal => exact Run.Avoids.fail _ position

theorem Grammar.Place.inside_ne_loop {place : Place} (outside : place ≠ .loop) :
    place.inside ≠ .loop := by
  cases place with
  | top => nofun
  | body => nofun
  | loop => exact absurd rfl outside

section Statements

variable (run : BodyRunner κ) (fuel : Nat)

mutual

/-- A statement that fits a place outside of loops does not end a loop. -/
theorem execute_avoids_leave :
    ∀ {place : Place} (statement : Statement), place ≠ .loop → statement.fits place = true →
      (execute run fuel statement).Avoids .leave
  | _, .expression _ _, _, _ => by
      simp only [execute]
      exact Run.Avoids.bind fun _ _ => Run.Avoids.pure nofun
  | _, .print position _, _, _ => by
      simp only [execute]
      apply Run.Avoids.bind
      intro literal _
      split
      · exact Run.Avoids.fail _ position
      · exact Run.Avoids.bind fun _ _ => Run.Avoids.pure nofun
  | _, .block _ body, outside, fits => by
      simp only [execute]
      apply Run.Avoids.inScope
      exact executeAll_avoids_leave body (Place.inside_ne_loop outside) fits
  | place, .condition _ first others otherwise, outside, fits => by
      have inside := Place.inside_ne_loop outside
      simp only [Statement.fits, Bool.and_eq_true] at fits
      simp only [execute]
      apply Run.Avoids.bind
      intro chosen firstEnds
      cases chosen with
      | some flow =>
          apply Run.Avoids.pure
          rintro rfl
          obtain ⟨machine, ends⟩ := firstEnds
          exact executeBranch_avoids_leave first inside fits.1 machine ends
      | none =>
          apply Run.Avoids.bind
          intro chosen othersEnd
          cases chosen with
          | some flow =>
              apply Run.Avoids.pure
              rintro rfl
              obtain ⟨machine, ends⟩ := othersEnd
              exact executeBranches_avoids_leave others inside fits.2.1 machine ends
          | none => exact executeOtherwise_avoids_leave otherwise inside fits.2.2
  | _, .routine _ _ _ _ _, _, _ => by
      simp only [execute]
      exact Run.Avoids.bind fun _ _ => Run.Avoids.pure nofun
  | _, .giveBack _ none, _, _ => by
      simp only [execute]
      exact Run.Avoids.pure nofun
  | _, .giveBack _ (some _), _, _ => by
      simp only [execute]
      apply Run.Avoids.bind
      intro literal _
      apply Run.Avoids.pure
      split <;> nofun
  | _, .loop position body, _, _ => by
      simp only [execute]
      exact repeatBody_avoids_leave position _ fuel
  | place, .leave _, outside, fits => by
      simp only [Statement.fits, beq_iff_eq] at fits
      exact absurd fits outside

theorem executeAll_avoids_leave :
    ∀ {place : Place} (body : List Statement), place ≠ .loop →
      Statement.fitsAll place body = true → (executeAll run fuel body).Avoids .leave
  | _, [], _, _ => by
      simp only [executeAll]
      exact Run.Avoids.pure nofun
  | _, statement :: rest, outside, fits => by
      simp only [Statement.fitsAll, Bool.and_eq_true] at fits
      simp only [executeAll]
      apply Run.Avoids.bind
      intro flow statementEnds
      cases flow with
      | next => exact executeAll_avoids_leave rest outside fits.2
      | giveBack => exact Run.Avoids.pure nofun
      | leave =>
          obtain ⟨machine, ends⟩ := statementEnds
          exact absurd ends (execute_avoids_leave statement outside fits.1 machine)
      | value literal => exact Run.Avoids.pure nofun

theorem executeBranch_avoids_leave :
    ∀ {place : Place} (branch : Branch), place ≠ .loop →
      Statement.fitsBranch place branch = true →
      (executeBranch run fuel branch).Avoids (some .leave)
  | _, .mk _ guard body, outside, fits => by
      simp only [executeBranch]
      apply Run.Avoids.bind
      intro literal _
      split
      · apply Run.Avoids.bind
        intro flow bodyEnds
        apply Run.Avoids.pure
        rintro ⟨⟩
        obtain ⟨machine, ends⟩ := bodyEnds
        exact (executeAll_avoids_leave body outside fits).inScope .block machine ends
      · exact Run.Avoids.pure nofun

theorem executeBranches_avoids_leave :
    ∀ {place : Place} (branches : List Branch), place ≠ .loop →
      Statement.fitsBranches place branches = true →
      (executeBranches run fuel branches).Avoids (some .leave)
  | _, [], _, _ => by
      simp only [executeBranches]
      exact Run.Avoids.pure nofun
  | _, branch :: rest, outside, fits => by
      simp only [Statement.fitsBranches, Bool.and_eq_true] at fits
      simp only [executeBranches]
      apply Run.Avoids.bind
      intro chosen branchEnds
      cases chosen with
      | some flow =>
          apply Run.Avoids.pure
          rintro ⟨⟩
          obtain ⟨machine, ends⟩ := branchEnds
          exact executeBranch_avoids_leave branch outside fits.1 machine ends
      | none => exact executeBranches_avoids_leave rest outside fits.2

theorem executeOtherwise_avoids_leave :
    ∀ {place : Place} (otherwise : Option (List Statement)), place ≠ .loop →
      Statement.fitsOtherwise place otherwise = true →
      (executeOtherwise run fuel otherwise).Avoids .leave
  | _, none, _, _ => by
      simp only [executeOtherwise]
      exact Run.Avoids.pure nofun
  | _, some body, outside, fits => by
      simp only [executeOtherwise]
      apply Run.Avoids.inScope
      exact executeAll_avoids_leave body outside fits

end

end Statements

/-! ## Runs that notice an escape -/

/-- Do something else in place of statements that end with the end of a loop. -/
def guardLeave (escape : BodyRunner κ) (body : List Statement) (run : Run κ Flow) : Run κ Flow := do
  match ← run with
  | .leave => escape body
  | flow => return flow

/-- The run of the body of a zoop that does something else where the body ends with the end of a
loop. -/
def guardedRunner (escape : BodyRunner κ) : Nat → BodyRunner κ
  | 0 => fun _ => Run.exhausted
  | fuel + 1 => fun body =>
      guardLeave escape body (executeAll (guardedRunner escape fuel) fuel body)

/-- Execute the statements at the top of a program, and do something else where one of them, or a body
that one of them runs, ends with the end of a loop. -/
def runStatementsGuarded (escape : BodyRunner κ) (fuel : Nat) : List Statement → Run κ Unit
  | [] => return ()
  | statement :: rest => do
      let _ ← guardLeave escape [statement] (execute (guardedRunner escape fuel) fuel statement)
      runStatementsGuarded escape fuel rest

omit [Console κ] in
theorem guardLeave_of_avoids
    (escape : BodyRunner κ) (body : List Statement) {run : Run κ Flow} (avoids : run.Avoids .leave) :
    guardLeave escape body run = run := by
  funext machine
  rcases ends : run machine with ⟨outcome, after⟩
  cases outcome using Outcome.stop_cases with
  | ok flow =>
      rw [guardLeave, Run.bind_of_ok ends]
      cases flow with
      | next => rfl
      | giveBack => rfl
      | leave => exact absurd (by rw [ends]) (avoids machine)
      | value literal => rfl
  | stopped stop => rw [guardLeave, Run.bind_of_stop ends]

/-! ## Zoops with bodies in their place -/

/-- The bodies of all zoops are in their place. -/
def Condition.zoopsFit : Condition where
  expression _ := true
  statement
    | .routine _ _ _ _ body => Statement.fitsAll .body body
    | _ => true

namespace Condition

theorem zoopsFit_inExpression (expression : Expression) :
    zoopsFit.inExpression expression = true :=
  inExpression_of_always (fun _ => rfl) expression

theorem Admits.fits {routine : Routine} (admitted : zoopsFit.Admits routine) :
    Statement.fitsAll .body routine.body = true := by
  obtain ⟨⟨_, fits⟩, _⟩ := admitted
  exact fits

mutual

/-- A statement in its place declares only zoops whose bodies are in theirs. -/
theorem zoopsFit_of_fits :
    ∀ {place : Place} (statement : Statement), statement.fits place = true →
      zoopsFit.inStatement statement = true
  | _, .expression _ value, _ | _, .print _ value, _ | _, .giveBack _ (some value), _ => by
      rw [inStatement, zoopsFit_inExpression]
      rfl
  | _, .giveBack _ none, _ | _, .leave _, _ => rfl
  | _, .block _ body, fits | _, .loop _ body, fits => by
      rw [inStatement, zoopsFit_of_fitsAll body fits]
      rfl
  | _, .condition _ first others otherwise, fits => by
      simp only [Statement.fits, Bool.and_eq_true] at fits
      rw [inStatement, zoopsFit_of_fitsBranch first fits.1,
        zoopsFit_of_fitsBranches others fits.2.1, zoopsFit_of_fitsOtherwise otherwise fits.2.2]
      rfl
  | _, .routine _ _ _ _ body, fits => by
      simp only [Statement.fits, Bool.and_eq_true] at fits
      rw [inStatement, zoopsFit_of_fitsAll body fits.2, Bool.and_true]
      exact fits.2

theorem zoopsFit_of_fitsAll :
    ∀ {place : Place} (body : List Statement), Statement.fitsAll place body = true →
      zoopsFit.inStatements body = true
  | _, [], _ => rfl
  | _, statement :: rest, fits => by
      simp only [Statement.fitsAll, Bool.and_eq_true] at fits
      rw [inStatements, zoopsFit_of_fits statement fits.1, zoopsFit_of_fitsAll rest fits.2,
        Bool.and_self]

theorem zoopsFit_of_fitsBranch :
    ∀ {place : Place} (branch : Branch), Statement.fitsBranch place branch = true →
      zoopsFit.inBranch branch = true
  | _, .mk _ guard body, fits => by
      rw [inBranch, zoopsFit_inExpression, zoopsFit_of_fitsAll body fits, Bool.and_self]

theorem zoopsFit_of_fitsBranches :
    ∀ {place : Place} (branches : List Branch), Statement.fitsBranches place branches = true →
      zoopsFit.inBranches branches = true
  | _, [], _ => rfl
  | _, branch :: rest, fits => by
      simp only [Statement.fitsBranches, Bool.and_eq_true] at fits
      rw [inBranches, zoopsFit_of_fitsBranch branch fits.1, zoopsFit_of_fitsBranches rest fits.2,
        Bool.and_self]

theorem zoopsFit_of_fitsOtherwise :
    ∀ {place : Place} (otherwise : Option (List Statement)),
      Statement.fitsOtherwise place otherwise = true → zoopsFit.inOtherwise otherwise = true
  | _, none, _ => rfl
  | _, some body, fits => by rw [inOtherwise, zoopsFit_of_fitsAll body fits]

end

end Condition

theorem bodyRunner_avoids_leave
    {routine : Routine} (admitted : Condition.zoopsFit.Admits routine) (fuel : Nat) :
    (bodyRunner fuel routine.body : Run κ Flow).Avoids .leave := by
  cases fuel with
  | zero => exact fun _ => nofun
  | succ fuel =>
      have outside : Place.body ≠ .loop := nofun
      exact executeAll_avoids_leave _ fuel routine.body outside admitted.fits

/-! ## Agreement of both ways to run -/

/-- Two runs do the same wherever all zoops have bodies in their place, and none of them comes to a
fault. -/
def SameIfZoopsFit (α : Type) (first second : Run κ α) : Prop :=
  first.Agree Condition.zoopsFit.AdmitsAll .outOfFuel second

omit [Console κ] in
theorem exhausted_same : SameIfZoopsFit Flow (Run.exhausted : Run κ Flow) Run.exhausted :=
  Run.Agree.of_stop fun _ => rfl

theorem same_congruence : Congruence Condition.zoopsFit (SameIfZoopsFit (κ := κ)) :=
  Run.Agree.congruence Condition.admitsAll_invariant

theorem same_reassignments (run₁ run₂ : BodyRunner κ) :
    Reassignments Condition.zoopsFit SameIfZoopsFit run₁ run₂ :=
  Run.Agree.reassignments Condition.admitsAll_invariant run₁ run₂

theorem same_loops (run₁ run₂ : BodyRunner κ) (fuel : Nat) :
    Loops Condition.zoopsFit SameIfZoopsFit run₁ run₂ fuel fuel := by
  intro position body _ bodySame
  exact same_congruence.repeatBody exhausted_same position bodySame fuel

theorem same_calls (escape : BodyRunner κ) :
    ∀ fuel : Nat,
      Calls Condition.zoopsFit SameIfZoopsFit (bodyRunner fuel) (guardedRunner escape fuel) := by
  intro fuel position routine context admitted
  have bodies :
      SameIfZoopsFit Flow (bodyRunner fuel routine.body) (guardedRunner escape fuel routine.body) := by
    cases fuel with
    | zero => exact exhausted_same
    | succ fuel =>
        -- the body is in its place, so that there is nothing for the guard to catch
        have outside : Place.body ≠ .loop := nofun
        have unguarded :
            guardedRunner escape (fuel + 1) routine.body =
              executeAll (guardedRunner escape fuel) fuel routine.body :=
          guardLeave_of_avoids escape routine.body
            (executeAll_avoids_leave _ fuel routine.body outside admitted.fits)
        rw [unguarded]
        exact same_congruence.executeAll (same_calls escape fuel) (same_reassignments _ _)
          (same_loops _ _ fuel) routine.body admitted.2
  refine Run.Agree.bind (Run.Agree.inContext Condition.zoopsFit.AdmitsAll position context ?_ ?_
    (Run.Agree.inScope Condition.admitsAll_invariant .routineBody bodies)) ?_
  · intro environment entered admits push
    obtain ⟨_, _, _, shape⟩ := Environment.pushContext_eq_ok push
    exact admits.of_routines_eq (by rw [shape])
  · exact fun _ admits => admits.of_routines_eq rfl
  intro flow ends
  apply same_congruence.callResult position routine
  rintro rfl
  obtain ⟨machine, ends⟩ := ends
  have avoids := (bodyRunner_avoids_leave (κ := κ) admitted fuel).inScope .routineBody
  exact absurd ends (avoids.inContext position context machine)

theorem runStatements_same (escape : BodyRunner κ) (fuel : Nat) :
    ∀ body, Statement.fitsAll .top body = true →
      SameIfZoopsFit Unit (runStatements fuel body) (runStatementsGuarded escape fuel body)
  | [], _ => same_congruence.value ()
  | statement :: rest, fits => by
      simp only [Statement.fitsAll, Bool.and_eq_true] at fits
      have outside : Place.top ≠ .loop := nofun
      rw [runStatements, runStatementsGuarded,
        guardLeave_of_avoids escape [statement]
          (execute_avoids_leave _ fuel statement outside fits.1)]
      apply same_congruence.sequence
      · exact same_congruence.execute (same_calls escape fuel) (same_reassignments _ _)
          (same_loops _ _ fuel) statement (Condition.zoopsFit_of_fits statement fits.1)
      · exact fun _ => runStatements_same escape fuel rest fits.2

/-! ## Programs that the grammar accepts -/

/-- A run whose zoops have their bodies in place does not come to a fault, whatever stands at the top of
its program. -/
theorem Program.runWith_ne_fault
    {program : Program} (holds : Condition.zoopsFit.inProgram program = true) {machine : Machine κ}
    (admits : Condition.zoopsFit.AdmitsAll machine.environment) (fuel : Nat) :
    (program.runWith fuel machine).1 ≠ .fault := by
  have executes : ∀ statement, Condition.zoopsFit.inStatement statement = true →
      SameIfZoopsFit (κ := κ) Flow
        (execute (bodyRunner fuel) fuel statement) (execute (bodyRunner fuel) fuel statement) :=
    fun statement holds =>
      (same_congruence.execute (same_calls (fun _ => Run.exhausted) fuel) (same_reassignments _ _)
        (same_loops _ _ fuel) statement holds).left
  have ends := (same_congruence.runStatements executes program.statements holds machine admits).2.2
  exact ends.ne_fault

theorem Program.zoopsFit_of_parse
    {tokens : List Token} {program : Program} (parsed : Program.parse tokens = .ok program) :
    Condition.zoopsFit.inProgram program = true :=
  Condition.zoopsFit_of_fitsAll program.statements (fits_of_parse parsed)

theorem Program.zoopsFit_after
    {fuel : Nat} {programs : List Program}
    (accepted : ∀ program ∈ programs, ∃ tokens, Program.parse tokens = .ok program)
    (console : κ) :
    Condition.zoopsFit.AdmitsAll
      (runInTurn fuel programs (Machine.start console)).environment := by
  apply runInTurn_keeps fun machine => Condition.zoopsFit.AdmitsAll machine.environment
  · intro program member machine admits
    obtain ⟨tokens, parsed⟩ := accepted program member
    exact (runStatements_same (fun _ => Run.exhausted) fuel program.statements
      (fits_of_parse parsed) machine admits).2.1
  · exact Condition.admitsAll_initial _

theorem execute_avoids_leave_of_mem
    (fuel : Nat) {body : List Statement} {statement : Statement}
    (fits : Statement.fitsAll .top body = true) (member : statement ∈ body) :
    (execute (bodyRunner fuel) fuel statement : Run κ Flow).Avoids .leave := by
  induction body with
  | nil => cases member
  | cons first rest inductionHypothesis =>
      simp only [Statement.fitsAll, Bool.and_eq_true] at fits
      rcases List.mem_cons.mp member with same | later
      · subst same
        have outside : Place.top ≠ .loop := nofun
        exact execute_avoids_leave _ fuel statement outside fits.1
      · exact inductionHypothesis fits.2 later

/-- Let one machine run programs that the grammar accepts, the last of them from whatever the earlier
ones have left.  No statement at the top of the last program ends with the end of a loop, nor does the
body of a zoop that is declared by then, on any machine; nothing that could be done in place of such an
end, in a call or at the top, makes a difference to the run; and the run does not come to a fault. -/
theorem leave_never_escapes_its_loop
    {earlier : List Program} {program : Program}
    (accepted : ∀ candidate ∈ program :: earlier,
      ∃ tokens, Program.parse tokens = .ok candidate)
    (fuel : Nat) (console : κ) :
    (∀ statement ∈ program.statements,
      (execute (bodyRunner fuel) fuel statement : Run κ Flow).Avoids .leave) ∧
    (∀ routine ∈
        (program.runWith fuel
          (Program.runInTurn fuel earlier (Machine.start console))).2.environment.routines,
      ∀ bound, (bodyRunner bound routine.body : Run κ Flow).Avoids .leave) ∧
    (∀ escape : BodyRunner κ,
      runStatementsGuarded escape fuel program.statements
          (Program.runInTurn fuel earlier (Machine.start console)) =
        program.runWith fuel (Program.runInTurn fuel earlier (Machine.start console))) ∧
    (program.runWith fuel (Program.runInTurn fuel earlier (Machine.start console))).1 ≠ .fault := by
  obtain ⟨tokens, parsed⟩ := accepted program List.mem_cons_self
  have fits := Program.fits_of_parse parsed
  have admits : Condition.zoopsFit.AdmitsAll
      (Program.runInTurn fuel earlier (Machine.start console)).environment :=
    Program.zoopsFit_after
      (fun candidate member => accepted candidate (List.mem_cons_of_mem program member)) console
  have same := fun escape : BodyRunner κ =>
    runStatements_same escape fuel program.statements fits _ admits
  refine ⟨?_, ?_, fun escape => (same escape).1,
    Program.runWith_ne_fault (Program.zoopsFit_of_parse parsed) admits fuel⟩
  · intro statement member
    exact execute_avoids_leave_of_mem fuel fits member
  · intro routine member bound
    exact bodyRunner_avoids_leave ((same (bodyRunner fuel)).2.1 routine member) bound

/-- A zoop with a loop that ends at once, and a call of it. -/
def leavingTokens : List Token := [
  ⟨.keyword, "zoop", ⟨1, 0⟩, ⟨0, 4⟩, none⟩,
  ⟨.literal, "\x60f\x60", ⟨1, 5⟩, ⟨5, 3⟩, some (.string "f")⟩,
  ⟨.flowIn, "<-", ⟨1, 9⟩, ⟨9, 2⟩, none⟩,
  ⟨.newLine, "\n", ⟨1, 11⟩, ⟨11, 1⟩, none⟩,
  ⟨.keyword, "loop", ⟨2, 0⟩, ⟨12, 4⟩, none⟩,
  ⟨.direct, "=>", ⟨2, 5⟩, ⟨17, 2⟩, none⟩,
  ⟨.keyword, "end", ⟨2, 8⟩, ⟨20, 3⟩, none⟩,
  ⟨.newLine, "\n", ⟨2, 11⟩, ⟨23, 1⟩, none⟩,
  ⟨.keyword, "end zoop", ⟨3, 0⟩, ⟨24, 8⟩, none⟩,
  ⟨.newLine, "\n", ⟨3, 8⟩, ⟨32, 1⟩, none⟩,
  ⟨.literal, "\x60f\x60", ⟨4, 0⟩, ⟨33, 3⟩, some (.string "f")⟩,
  ⟨.keyword, "de", ⟨4, 3⟩, ⟨36, 2⟩, none⟩]

def leavingProgram : Program :=
  ⟨[.routine ⟨1, 0⟩ "f" [] none [.loop ⟨2, 0⟩ [.leave ⟨2, 8⟩]],
    .expression ⟨4, 0⟩ (.call ⟨4, 0⟩ "f" [])]⟩

theorem leave_never_escapes_leavingProgram :
    Program.parse leavingTokens = .ok leavingProgram ∧
    (∀ statement ∈ leavingProgram.statements,
      (execute (bodyRunner 3) 3 statement : Run BufferedConsole Flow).Avoids .leave) ∧
    (∀ routine ∈
        (leavingProgram.runWith 3
          (Program.runInTurn 3 [leavingProgram]
            (Machine.start (BufferedConsole.ofInput [])))).2.environment.routines,
      ∀ bound, (bodyRunner bound routine.body : Run BufferedConsole Flow).Avoids .leave) ∧
    (∀ escape : BodyRunner BufferedConsole,
      runStatementsGuarded escape 3 leavingProgram.statements
          (Program.runInTurn 3 [leavingProgram] (Machine.start (BufferedConsole.ofInput []))) =
        leavingProgram.runWith 3
          (Program.runInTurn 3 [leavingProgram] (Machine.start (BufferedConsole.ofInput [])))) ∧
    (leavingProgram.runWith 3
      (Program.runInTurn 3 [leavingProgram] (Machine.start (BufferedConsole.ofInput [])))).1 ≠
        .fault := by
  have parsed : Program.parse leavingTokens = .ok leavingProgram := by rfl
  refine ⟨parsed, leave_never_escapes_its_loop ?_ 3 (BufferedConsole.ofInput [])⟩
  intro candidate member
  have same : candidate = leavingProgram := by simpa using member
  exact ⟨leavingTokens, by rw [same, parsed]⟩

end Zoop
