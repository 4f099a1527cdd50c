import Zoop.Proofs.Grammar.Placement
import Zoop.Proofs.Grammar.WellFormed
import Zoop.Proofs.Program.Occurrence

/-!
# What is in the programs that are accepted

Of each statement and each expression that occurs in a program, at whatever depth, the grammar has seen
to what the evaluation relies on: zoops stand at the top, the end of a loop stands in a loop of its own
zoop, nothing has the data type of no value, and all names are there.
-/

namespace Zoop

open Grammar

/-! ## Places -/

theorem Grammar.Place.inside_ne_top (place : Place) : place.inside ≠ .top := by
  cases place <;> decide

theorem Grammar.Place.eq_loop_of_inside {place : Place} (inLoop : place.inside = .loop) :
    place = .loop := by
  cases place with
  | top | body => cases inLoop
  | loop => rfl

namespace Statement

def isZoop : Statement → Bool
  | .routine _ _ _ _ _ => true
  | _ => false

/-- The place of the statements that stand directly in a statement. -/
def placeInside (place : Place) : Statement → Place
  | .routine _ _ _ _ _ => .body
  | .loop _ _ => .loop
  | _ => place.inside

/-- The place of a statement with a given path. -/
def placeOf : List Statement → Place
  | [] => .top
  | outer :: path => outer.placeInside (placeOf path)

theorem fitsAll_eq_all (place : Place) (body : List Statement) :
    fitsAll place body = body.all (fits place) := by
  induction body with
  | nil => rfl
  | cons first others inductionHypothesis => rw [fitsAll, inductionHypothesis, List.all_cons]

theorem fitsBranches_eq_all (place : Place) (branches : List Branch) :
    fitsBranches place branches = branches.all fun branch => fitsAll place branch.body := by
  induction branches with
  | nil => rfl
  | cons first others inductionHypothesis =>
      cases first
      rw [fitsBranches, fitsBranch, inductionHypothesis, List.all_cons]
      rfl

theorem fits_part
    {place : Place} {outer statement : Statement} (fits : outer.fits place = true)
    (member : statement ∈ outer.parts) : statement.fits (outer.placeInside place) = true := by
  have ofBody : ∀ {place : Place} {body : List Statement},
      fitsAll place body = true → statement ∈ body → statement.fits place = true := by
    intro place body bodyFits inBody
    rw [fitsAll_eq_all, List.all_eq_true] at bodyFits
    exact bodyFits statement inBody
  cases outer with
  | expression | print | giveBack | leave => cases member
  | block | loop => exact ofBody fits member
  | routine =>
      rw [Statement.fits, Bool.and_eq_true] at fits
      exact ofBody fits.2 member
  | condition position first others otherwise =>
      simp only [Statement.fits, Bool.and_eq_true] at fits
      obtain ⟨firstFits, othersFit, otherwiseFits⟩ := fits
      rcases List.mem_append.mp member with inFirst | later
      · cases first
        exact ofBody firstFits inFirst
      rcases List.mem_append.mp later with inOthers | inOtherwise
      · obtain ⟨branch, isBranch, inBranch⟩ := List.mem_flatMap.mp inOthers
        rw [fitsBranches_eq_all, List.all_eq_true] at othersFit
        exact ofBody (othersFit branch isBranch) inBranch
      · cases otherwise with
        | none => cases inOtherwise
        | some body => exact ofBody otherwiseFits inOtherwise

theorem fits_of_has
    {program : Program} (fits : fitsAll .top program.statements = true)
    {path : List Statement} {statement : Statement} (has : program.Has path statement) :
    statement.fits (placeOf path) = true := by
  induction has with
  | top member =>
      rw [fitsAll_eq_all, List.all_eq_true] at fits
      exact fits _ member
  | inside _ member inductionHypothesis => exact fits_part inductionHypothesis member

theorem eq_nil_of_placeOf {path : List Statement} (atTop : placeOf path = .top) : path = [] := by
  cases path with
  | nil => rfl
  | cons outer path =>
      cases outer with
      | routine | loop => cases atTop
      | expression | print | block | condition | giveBack | leave =>
          exact absurd atTop (placeOf path).inside_ne_top

/-- A place in a loop is one with a loop around it, and no zoop between. -/
theorem loop_of_placeOf {path : List Statement} (inLoop : placeOf path = .loop) :
    ∃ inner position body outer,
      path = inner ++ .loop position body :: outer ∧
        ∀ between ∈ inner, between.isZoop = false := by
  induction path with
  | nil => cases inLoop
  | cons statement path inductionHypothesis =>
      have goOn (notZoop : statement.isZoop = false) (inside : (placeOf path).inside = .loop) :
          ∃ inner position body outer,
            statement :: path = inner ++ .loop position body :: outer ∧
              ∀ between ∈ inner, between.isZoop = false := by
        obtain ⟨inner, position, body, outer, rfl, noZoop⟩ :=
          inductionHypothesis (Place.eq_loop_of_inside inside)
        refine ⟨statement :: inner, position, body, outer, rfl, ?_⟩
        intro between member
        rcases List.mem_cons.mp member with rfl | deeper
        · exact notZoop
        · exact noZoop between deeper
      cases statement with
      | routine => cases inLoop
      | loop position body => exact ⟨[], position, body, path, rfl, nofun⟩
      | expression | print | block | condition | giveBack | leave => exact goOn rfl inLoop

end Statement

/-! ## Programs -/

/-- What the evaluation of a program relies on, at whatever depth. -/
structure Program.WellFormed (program : Program) : Prop where
  zoop : ∀ {path position label parameters returnType body},
    program.Has path (.routine position label parameters returnType body) →
    path = [] ∧ returnType ≠ some .void ∧
      ∀ parameter ∈ parameters, parameter.name ≠ "" ∧ parameter.type ≠ .void
  leave : ∀ {path position},
    program.Has path (.leave position) →
    ∃ inner loopPosition body outer,
      path = inner ++ .loop loopPosition body :: outer ∧ ∀ between ∈ inner, between.isZoop = false
  literal : ∀ {position literal},
    program.HasExpression (.literal position literal) →
    literal.agrees = true ∧ literal.type ≠ .void
  reference : ∀ {position subject},
    program.HasExpression (.variable position subject) → subject.name ≠ ""
  declare : ∀ {position subject type value},
    program.HasExpression (.declare position subject type value) →
    subject.name ≠ "" ∧ type ≠ .void
  reassign : ∀ {position name value},
    program.HasExpression (.reassign position name value) → name ≠ ""
  cast : ∀ {position type inner},
    program.HasExpression (.cast position type inner) → type ≠ .void
  input : ∀ {position type prompt},
    program.HasExpression (.input position type prompt) → type ≠ .void

/-- Every program that is accepted is well formed, whatever the tokens are. -/
theorem accepted_program_is_wellFormed
    {tokens : List Token} {program : Program} (parsed : Program.parse tokens = .ok program) :
    program.WellFormed := by
  have fits := Program.fits_of_parse parsed
  have holds := Program.wellFormed_of_parse parsed
  have ofExpression : ∀ {value}, program.HasExpression value → value.isWellFormed = true :=
    fun has =>
      Condition.expression_of_inExpression (Condition.inExpression_of_hasExpression holds has)
  constructor
  case zoop =>
    intro path position label parameters returnType body has
    have place := Statement.fits_of_has fits has
    have head := Condition.statement_of_inStatement (Condition.inStatement_of_has holds has)
    rw [Statement.fits, Bool.and_eq_true, beq_iff_eq] at place
    refine ⟨Statement.eq_nil_of_placeOf place.1, ?_⟩
    simpa [Statement.isWellFormed, and_comm] using head
  case leave =>
    intro path position has
    have place := Statement.fits_of_has fits has
    rw [Statement.fits, beq_iff_eq] at place
    exact Statement.loop_of_placeOf place
  all_goals
    intros
    next has => simpa [Expression.isWellFormed] using ofExpression has

/-- A zoop with a parameter, and in it a loop whose end stands in a branch. -/
def guardedEndTokens : List Token := [
  ⟨.keyword, "zoop", ⟨1, 0⟩, ⟨0, 4⟩, none⟩,
  ⟨.literal, "\x60f\x60", ⟨1, 5⟩, ⟨5, 3⟩, some (.string "f")⟩,
  ⟨.flowIn, "<-", ⟨1, 9⟩, ⟨9, 2⟩, none⟩,
  ⟨.variable, "$n", ⟨1, 12⟩, ⟨12, 2⟩, none⟩,
  ⟨.colon, ":", ⟨1, 14⟩, ⟨14, 1⟩, none⟩,
  ⟨.keyword, "bool", ⟨1, 16⟩, ⟨16, 4⟩, none⟩,
  ⟨.newLine, "\n", ⟨1, 20⟩, ⟨20, 1⟩, none⟩,
  ⟨.keyword, "loop", ⟨2, 0⟩, ⟨21, 4⟩, none⟩,
  ⟨.direct, "=>", ⟨2, 5⟩, ⟨26, 2⟩, none⟩,
  ⟨.keyword, "if", ⟨2, 8⟩, ⟨29, 2⟩, none⟩,
  ⟨.variable, "$n", ⟨2, 11⟩, ⟨32, 2⟩, none⟩,
  ⟨.direct, "=>", ⟨2, 14⟩, ⟨35, 2⟩, none⟩,
  ⟨.keyword, "end", ⟨2, 17⟩, ⟨38, 3⟩, none⟩,
  ⟨.newLine, "\n", ⟨2, 20⟩, ⟨41, 1⟩, none⟩,
  ⟨.keyword, "end zoop", ⟨3, 0⟩, ⟨42, 8⟩, none⟩]

def guardedEnd : Statement :=
  .condition ⟨2, 8⟩ (.mk ⟨2, 8⟩ (.variable ⟨2, 11⟩ ⟨false, "n"⟩) [.leave ⟨2, 17⟩]) [] none

def guardedEndProgram : Program :=
  ⟨[.routine ⟨1, 0⟩ "f" [⟨"n", .bool⟩] none [.loop ⟨2, 0⟩ [guardedEnd]]]⟩

theorem guardedEndProgram_is_wellFormed :
    Program.parse guardedEndTokens = .ok guardedEndProgram ∧
    guardedEndProgram.WellFormed ∧
    guardedEndProgram.Has
      [guardedEnd, .loop ⟨2, 0⟩ [guardedEnd],
        .routine ⟨1, 0⟩ "f" [⟨"n", .bool⟩] none [.loop ⟨2, 0⟩ [guardedEnd]]]
      (.leave ⟨2, 17⟩) ∧
    guardedEndProgram.HasExpression (.variable ⟨2, 11⟩ ⟨false, "n"⟩) := by
  have parsed : Program.parse guardedEndTokens = .ok guardedEndProgram := by rfl
  have zoop : guardedEndProgram.Has []
      (.routine ⟨1, 0⟩ "f" [⟨"n", .bool⟩] none [.loop ⟨2, 0⟩ [guardedEnd]]) := .top (.head _)
  have branch := (zoop.inside (.head _)).inside (.head _)
  exact ⟨parsed, accepted_program_is_wellFormed parsed, branch.inside (.head _),
    .direct branch (.head _)⟩

end Zoop
