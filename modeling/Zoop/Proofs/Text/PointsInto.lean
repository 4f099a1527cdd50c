import Zoop.Text.Line
import Zoop.Text.Position

/-!
# Positions in a text

A position is in a text if it is where some first part of the text ends.  Such a position has a line, and
its column is at most the length of that line: it may be right behind the last character.
-/

namespace Zoop

namespace Position

/-- The position is the place after some first part of a text. -/
def IsIn (position : Position) (text : List Char) : Prop :=
  ∃ passed rest, text = passed ++ rest ∧ position = start.afterAll passed

theorem isIn_start (text : List Char) : start.IsIn text :=
  ⟨[], text, rfl, rfl⟩

theorem line_le_afterAll (position : Position) (text : List Char) :
    position.line ≤ (position.afterAll text).line := by
  induction text generalizing position with
  | nil => exact Nat.le_refl _
  | cons character rest inductionHypothesis =>
      have later := inductionHypothesis (position.after character)
      have stays : position.line ≤ (position.after character).line := by
        unfold after
        split
        · exact Nat.le_succ _
        · exact Nat.le_refl _
      exact Nat.le_trans stays later

end Position

namespace Text

theorem lines_of_feed (rest : List Char) : lines ('\n' :: rest) = [] :: lines rest :=
  rfl

theorem lines_of_other {character : Char} (notFeed : character ≠ '\n') (rest : List Char) :
    ∃ line others, lines rest = line :: others ∧
      lines (character :: rest) = (character :: line) :: others := by
  obtain ⟨line, others, split⟩ := List.exists_cons_of_ne_nil (lines_ne_nil rest)
  refine ⟨line, others, split, ?_⟩
  rw [lines, if_neg notFeed, split]

/-- Wherever reading starts, the line that it comes to is there.  Its characters cover the column, but
for the columns that the line has had from before. -/
theorem exists_line_of_afterAll (position : Position) (passed rest : List Char) :
    ∃ line,
      (lines (passed ++ rest))[(position.afterAll passed).line - position.line]? = some line ∧
      (position.afterAll passed).column ≤
        (if (position.afterAll passed).line = position.line then position.column else 0) +
          line.length := by
  induction passed generalizing position with
  | nil =>
      obtain ⟨line, others, split⟩ := List.exists_cons_of_ne_nil (lines_ne_nil rest)
      refine ⟨line, ?_, ?_⟩
      · simp [split]
      · simp
  | cons character passed inductionHypothesis =>
      rw [Position.afterAll_cons]
      obtain ⟨line, found, covered⟩ := inductionHypothesis (position.after character)
      have later := (position.after character).line_le_afterAll passed
      generalize (position.after character).afterAll passed = reached at *
      by_cases isFeed : character = '\n'
      · -- the next line starts at column zero
        have next : position.after character = ⟨position.line + 1, 0⟩ := if_pos isFeed
        rw [next] at found covered later
        dsimp only at found covered later
        have index : reached.line - position.line = reached.line - (position.line + 1) + 1 := by
          omega
        refine ⟨line, ?_, ?_⟩
        · rw [isFeed, List.cons_append, lines_of_feed, index, List.getElem?_cons_succ]
          exact found
        · rw [ite_self, Nat.zero_add] at covered
          exact Nat.le_trans covered (Nat.le_add_left _ _)
      · have next : position.after character = ⟨position.line, position.column + 1⟩ := if_neg isFeed
        rw [next] at found covered later
        dsimp only at found covered later
        obtain ⟨first, others, split, whole⟩ := lines_of_other isFeed (passed ++ rest)
        rw [split] at found
        rw [List.cons_append, whole]
        by_cases sameLine : reached.line = position.line
        · -- the character stands on the line itself
          rw [sameLine, Nat.sub_self] at found ⊢
          rw [if_pos sameLine] at covered
          obtain rfl : first = line := by simpa using found
          refine ⟨character :: first, rfl, ?_⟩
          rw [if_pos rfl, List.length_cons]
          omega
        · rw [if_neg sameLine] at covered ⊢
          refine ⟨line, ?_, covered⟩
          obtain ⟨index, indexIs⟩ : ∃ index, reached.line - position.line = index + 1 :=
            Nat.exists_eq_add_one.mpr (by omega)
          rw [indexIs, List.getElem?_cons_succ] at found ⊢
          exact found

/-- A position in a text has a line there, and stands on it or right behind it. -/
theorem line?_of_isIn {source : String} {position : Position} (isIn : position.IsIn source.toList) :
    ∃ line, line? source position.line = some line ∧ position.column ≤ line.length := by
  obtain ⟨passed, rest, split, rfl⟩ := isIn
  obtain ⟨line, found, covered⟩ := exists_line_of_afterAll .start passed rest
  have later := Position.start.line_le_afterAll passed
  generalize Position.start.afterAll passed = position at *
  obtain ⟨number, numberIs⟩ : ∃ number, position.line = number + 1 :=
    Nat.exists_eq_add_one.mpr later
  refine ⟨String.ofList line, ?_, ?_⟩
  · rw [numberIs, line?, split]
    rw [numberIs] at found
    exact congrArg (Option.map String.ofList) found
  · rw [String.length_ofList]
    have noColumn : (if position.line = Position.start.line then Position.start.column else 0) = 0 := by
      split <;> rfl
    rwa [noColumn, Nat.zero_add] at covered

end Text

end Zoop
