import Zoop.Grammar.Statement

/-!
# The places of statements

Some statements may stand in some places only: the end of a loop in the body of a loop, and the
declaration of a zoop at the top of a program.  Every program that the grammar accepts keeps to this, at
every depth: the body of a zoop starts over outside of all loops, and all other bodies are inside what
they stand in.
-/

namespace Zoop

open Grammar

/-! ## Statements that fit their place -/

mutual

/-- Whether a statement may stand in a place, and all statements inside it in theirs. -/
def Statement.fits : Place → Statement → Bool
  | _, .expression _ _ => true
  | _, .print _ _ => true
  | place, .block _ body => fitsAll place.inside body
  | place, .condition _ first others otherwise =>
      fitsBranch place.inside first &&
        (fitsBranches place.inside others && fitsOtherwise place.inside otherwise)
  | place, .routine _ _ _ _ body => place == .top && fitsAll .body body
  | _, .giveBack _ _ => true
  | _, .loop _ body => fitsAll .loop body
  | place, .leave _ => place == .loop

/-- Whether all statements of a body may stand in a place. -/
def Statement.fitsAll : Place → List Statement → Bool
  | _, [] => true
  | place, statement :: rest => statement.fits place && fitsAll place rest

/-- Whether the body of a branch may stand in a place. -/
def Statement.fitsBranch : Place → Branch → Bool
  | place, .mk _ _ body => fitsAll place body

/-- Whether the bodies of all branches may stand in a place. -/
def Statement.fitsBranches : Place → List Branch → Bool
  | _, [] => true
  | place, branch :: rest => fitsBranch place branch && fitsBranches place rest

/-- Whether the body for when no guard passes may stand in a place. -/
def Statement.fitsOtherwise : Place → Option (List Statement) → Bool
  | _, none => true
  | place, some body => fitsAll place body

end

namespace Grammar

/-! ## Parsers of bodies -/

/-- Every value that a parser gives is good. -/
def Parser.Gives {α : Type} (parser : Parser α) (Good : α → Prop) : Prop :=
  ∀ {tokens rest : List Token} {value : α}, parser tokens = .ok (value, rest) → Good value

section Nested

variable
    {finish : Position} {nested : StatementParser}
    (nestedFits : ∀ place, (nested place).Gives fun statement => statement.fits place = true)

theorem lineStatement_fits (place : Place) :
    (lineStatement finish).Gives fun statement => statement.fits place = true := by
  intro tokens rest statement parsed
  obtain ⟨arrow, _, parsed⟩ := Outcome.bind_eq_ok_iff.mp parsed
  obtain ⟨⟨value, remaining⟩, _, parsed⟩ := Outcome.bind_eq_ok_iff.mp parsed
  cases arrow with
  | none =>
      cases parsed
      rfl
  | some kind =>
      obtain ⟨⟨token, remaining⟩, _, parsed⟩ := Outcome.bind_eq_ok_iff.mp parsed
      dsimp only at parsed
      split at parsed <;>
      · cases parsed
        rfl

include nestedFits

/-- A statement and the statements after it fit if each part does. -/
theorem firstThenOthers_fits
    {place : Place} (others : Parser (List Statement))
    (othersFit : others.Gives fun body => Statement.fitsAll place body = true) :
    Parser.Gives
      (fun tokens => do
        let (first, rest) ← nested place tokens
        let (others, rest) ← others rest
        return (first :: others, rest))
      fun body => Statement.fitsAll place body = true := by
  intro tokens rest body parsed
  obtain ⟨⟨first, remaining⟩, firstParsed, parsed⟩ := Outcome.bind_eq_ok_iff.mp parsed
  obtain ⟨⟨others, remaining⟩, othersParsed, parsed⟩ := Outcome.bind_eq_ok_iff.mp parsed
  cases parsed
  rw [Statement.fitsAll, nestedFits place firstParsed, othersFit othersParsed, Bool.and_self]

theorem blockStatements_fits (opening : Position) (place : Place) (bound : Nat) :
    (blockStatements nested opening place bound).Gives fun body =>
      Statement.fitsAll place body = true := by
  induction bound with
  | zero => exact nofun
  | succ bound inductionHypothesis =>
      intro tokens rest body parsed
      rw [blockStatements] at parsed
      split at parsed
      · cases parsed
      · split at parsed
        · cases parsed
          rfl
        · exact firstThenOthers_fits nestedFits
            (blockStatements nested opening place bound) inductionHypothesis parsed

theorem bodyStatements_fits
    (construct : Construct) (opening : Position) (place : Place) (bound : Nat) :
    (bodyStatements nested construct opening place bound).Gives fun body =>
      Statement.fitsAll place body = true := by
  induction bound with
  | zero => exact nofun
  | succ bound inductionHypothesis =>
      intro tokens rest body parsed
      rw [bodyStatements] at parsed
      split at parsed
      · cases parsed
      · split at parsed
        · cases parsed
          rfl
        · exact firstThenOthers_fits nestedFits
            (bodyStatements nested construct opening place bound) inductionHypothesis parsed

theorem body_fits (construct : Construct) (opening : Position) (place : Place) :
    (body nested construct opening place).Gives fun statements =>
      Statement.fitsAll place statements = true := by
  intro tokens rest statements parsed
  unfold body at parsed
  split at parsed
  · obtain ⟨⟨single, remaining⟩, singleParsed, parsed⟩ := Outcome.bind_eq_ok_iff.mp parsed
    cases parsed
    rw [Statement.fitsAll, nestedFits place singleParsed]
    rfl
  · obtain ⟨⟨all, remaining⟩, allParsed, parsed⟩ := Outcome.bind_eq_ok_iff.mp parsed
    obtain ⟨remaining, _, parsed⟩ := Outcome.bind_eq_ok_iff.mp parsed
    cases parsed
    exact bodyStatements_fits nestedFits construct opening place _ allParsed

/-! ## Parsers of statements -/

theorem branch_fits (construct : Construct) (opening : Position) (place : Place) :
    (branch finish nested construct opening place).Gives fun branch =>
      Statement.fitsBranch place branch = true := by
  intro tokens rest branch parsed
  obtain ⟨⟨guard, remaining⟩, _, parsed⟩ := Outcome.bind_eq_ok_iff.mp parsed
  obtain ⟨⟨statements, remaining⟩, bodyParsed, parsed⟩ := Outcome.bind_eq_ok_iff.mp parsed
  cases parsed
  exact body_fits nestedFits construct opening place bodyParsed

theorem elifBranches_fits (place : Place) (bound : Nat) :
    (elifBranches finish nested place bound).Gives fun branches =>
      Statement.fitsBranches place branches = true := by
  induction bound with
  | zero =>
      intro tokens rest branches parsed
      cases tokens with
      | nil =>
          cases parsed
          rfl
      | cons token tokens =>
          rw [elifBranches] at parsed
          split at parsed <;> cases parsed
          rfl
  | succ bound inductionHypothesis =>
      intro tokens rest branches parsed
      cases tokens with
      | nil =>
          cases parsed
          rfl
      | cons token tokens =>
          rw [elifBranches] at parsed
          split at parsed
          · obtain ⟨⟨first, remaining⟩, firstParsed, parsed⟩ := Outcome.bind_eq_ok_iff.mp parsed
            obtain ⟨⟨others, remaining⟩, othersParsed, parsed⟩ := Outcome.bind_eq_ok_iff.mp parsed
            cases parsed
            rw [Statement.fitsBranches, branch_fits nestedFits _ _ place firstParsed,
              inductionHypothesis othersParsed, Bool.and_self]
          · cases parsed
            rfl

theorem elseBody_fits (place : Place) :
    (elseBody nested place).Gives fun otherwise =>
      Statement.fitsOtherwise place otherwise = true := by
  intro tokens rest otherwise parsed
  cases tokens with
  | nil =>
      cases parsed
      rfl
  | cons token tokens =>
      rw [elseBody] at parsed
      split at parsed
      · obtain ⟨⟨statements, remaining⟩, bodyParsed, parsed⟩ := Outcome.bind_eq_ok_iff.mp parsed
        cases parsed
        exact body_fits nestedFits _ _ place bodyParsed
      · cases parsed
        rfl

theorem condition_fits (opening : Position) (place : Place) :
    (condition finish nested opening place.inside).Gives fun statement =>
      statement.fits place = true := by
  intro tokens rest statement parsed
  obtain ⟨⟨first, remaining⟩, firstParsed, parsed⟩ := Outcome.bind_eq_ok_iff.mp parsed
  obtain ⟨⟨others, remaining⟩, othersParsed, parsed⟩ := Outcome.bind_eq_ok_iff.mp parsed
  obtain ⟨⟨otherwise, remaining⟩, otherwiseParsed, parsed⟩ := Outcome.bind_eq_ok_iff.mp parsed
  cases parsed
  rw [Statement.fits, branch_fits nestedFits _ _ _ firstParsed,
    elifBranches_fits nestedFits _ _ othersParsed, elseBody_fits nestedFits _ otherwiseParsed,
    Bool.and_self, Bool.and_self]

theorem routine_fits (opening : Position) :
    (routine finish nested opening).Gives fun statement => statement.fits .top = true := by
  intro tokens rest statement parsed
  obtain ⟨⟨type, remaining⟩, _, parsed⟩ := Outcome.bind_eq_ok_iff.mp parsed
  obtain ⟨⟨label, remaining⟩, _, parsed⟩ := Outcome.bind_eq_ok_iff.mp parsed
  obtain ⟨⟨token, remaining⟩, _, parsed⟩ := Outcome.bind_eq_ok_iff.mp parsed
  obtain ⟨⟨taken, remaining⟩, _, parsed⟩ := Outcome.bind_eq_ok_iff.mp parsed
  obtain ⟨⟨statements, remaining⟩, bodyParsed, parsed⟩ := Outcome.bind_eq_ok_iff.mp parsed
  cases parsed
  rw [Statement.fits, body_fits nestedFits _ _ _ bodyParsed]
  rfl

theorem statementWith_fits (place : Place) :
    (statementWith finish nested place).Gives fun statement => statement.fits place = true := by
  intro tokens rest statement parsed
  cases tokens with
  | nil => cases parsed
  | cons token tokens =>
      rw [statementWith] at parsed
      split at parsed
      · obtain ⟨⟨statements, remaining⟩, bodyParsed, parsed⟩ := Outcome.bind_eq_ok_iff.mp parsed
        cases parsed
        exact blockStatements_fits nestedFits _ place.inside _ bodyParsed
      · split at parsed
        · split at parsed
          · next atTop =>
              subst atTop
              exact routine_fits nestedFits _ parsed
          · cases parsed
        · split at parsed
          · exact condition_fits nestedFits _ place parsed
          · split at parsed
            · obtain ⟨⟨statements, remaining⟩, bodyParsed, parsed⟩ :=
                Outcome.bind_eq_ok_iff.mp parsed
              cases parsed
              exact body_fits nestedFits _ _ .loop bodyParsed
            · split at parsed
              · split at parsed
                · next inLoop =>
                    subst inLoop
                    cases parsed
                    rfl
                · cases parsed
              · split at parsed
                · cases parsed
                · split at parsed
                  · cases parsed
                    rfl
                  · exact lineStatement_fits place parsed

end Nested

theorem nestedStatement_fits (finish : Position) (depth : Nat) :
    ∀ place, (nestedStatement finish depth place).Gives fun statement =>
      statement.fits place = true := by
  induction depth with
  | zero => exact fun _ => nofun
  | succ depth inductionHypothesis =>
      intro place
      exact statementWith_fits inductionHypothesis place

theorem topStatements_fits (finish : Position) (bound : Nat) :
    ∀ {tokens : List Token} {statements : List Statement},
      topStatements finish bound tokens = .ok statements →
      Statement.fitsAll .top statements = true := by
  induction bound with
  | zero => exact nofun
  | succ bound inductionHypothesis =>
      intro tokens statements parsed
      rw [topStatements] at parsed
      split at parsed
      · cases parsed
        rfl
      · obtain ⟨⟨first, remaining⟩, firstParsed, parsed⟩ := Outcome.bind_eq_ok_iff.mp parsed
        obtain ⟨others, othersParsed, parsed⟩ := Outcome.bind_eq_ok_iff.mp parsed
        cases parsed
        rw [Statement.fitsAll, nestedStatement_fits finish _ .top firstParsed,
          inductionHypothesis othersParsed, Bool.and_self]

end Grammar

/-- Every program that the grammar accepts has each statement in its place. -/
theorem Program.fits_of_parse
    {tokens : List Token} {program : Program} (parsed : Program.parse tokens = .ok program) :
    Statement.fitsAll .top program.statements = true := by
  obtain ⟨statements, statementsParsed, wrapped⟩ :=
    Outcome.bind_eq_ok_iff.mp (program_of_parse parsed)
  cases wrapped
  exact Grammar.topStatements_fits _ _ statementsParsed

end Zoop
