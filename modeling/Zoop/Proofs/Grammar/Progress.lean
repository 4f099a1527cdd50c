import Zoop.Proofs.Grammar.WalkedStatements

/-!
# Parsing ends, and moves forward until it does

The cursor of `Walk` never faults: it stays within the tokens, every slice and every index is in range,
and no counter falls below zero.  More fuel than there are tokens is always enough, so every loop of the
parser ends: each round of it takes a token.  Both follow from `Settles`, which says for every
expression and every statement that the cursor ends where the grammar leaves the rest of the tokens,
at least one token further.
-/

namespace Zoop.Grammar

variable {tokens : List Token} {current : Nat}

/-! ## Whole programs -/

/-- All statements up to the end, as a parser that leaves no token. -/
def allStatements (finish : Position) (bound : Nat) : Parser (List Statement) := fun tokens => do
  let statements ← topStatements finish bound tokens
  return (statements, [])

theorem allStatements_succ
    (finish : Position) (bound : Nat) {token : Token} (notNewLine : token.kind ≠ .newLine)
    (rest : List Token) :
    allStatements finish (bound + 1) (token :: rest) = do
      let (first, rest) ← statement finish .top (token :: rest)
      let (others, rest) ← allStatements finish bound rest
      return (first :: others, rest) := by
  simp only [allStatements, topStatements, skipNewLines_of_other notNewLine, bind_assoc, pure_bind]

theorem topStatements_round
    (size fuel bound : Nat) (within : current ≤ tokens.length) :
    Round tokens current 0 0 (Walk.statement tokens size)
      (statement (finishOf tokens) (placeIn 0 0))
      (Walk.topStatements tokens size) (allStatements (finishOf tokens)) fuel bound := by
  rcases next_cases within with ⟨rest, here, atEnd⟩ | ⟨token, rest, here, less⟩
  · apply Round.stops
    have stays : Settles tokens current 0 0 0 _ _ := .stay ([] : List Statement) within
    rw [Walk.topStatements, Walk.isAtEnd_of_le (Nat.le_of_eq atEnd.symm)]
    rw [rest] at stays ⊢
    exact stays
  · have walks : Walk.topStatements tokens size (fuel + 1) ⟨current, 0, 0⟩ = _ :=
      Walk.isAtEnd_of_less less _
    simp only [Bool.false_eq_true, if_false] at walks
    by_cases isNewLine : token.kind = .newLine
    · apply Round.skips less
      · rw [allStatements, allStatements, topStatements, topStatements, rest,
          skipNewLines_of_newLine isNewLine]
      · rw [walks, Walk.matchKind_taken here isNewLine]
        rfl
    · apply Round.takes
      · rw [rest]
        exact allStatements_succ _ _ isNewLine _
      · rw [walks, Walk.matchKind_passed (by simp [here, isNewLine])]
        rfl

theorem topStatements_settles {fuel : Nat} (enough : tokens.length < fuel) :
    Settles tokens 0 0 0 0
      (allStatements (finishOf tokens) (tokens.length + 1) tokens)
      (Walk.topStatements tokens fuel fuel ⟨0, 0, 0⟩) := by
  have follows : StatementFollows tokens (tokens.length + 1) (Walk.statement tokens fuel)
      (statement (finishOf tokens)) := by
    intro current loops blocks balanced within _
    exact statement_settles balanced within (by omega)
  exact rounds_settle follows (Nat.le_refl 0)
    (fun rounds bound current within => topStatements_round fuel rounds bound within)
    fuel (tokens.length + 1) 0 (Nat.zero_le _) (by omega) (by omega) (by omega)

theorem allStatements_eq_ok
    {finish : Position} {bound : Nat} {statements : List Statement} {rest : List Token}
    (parsed : allStatements finish bound tokens = .ok (statements, rest)) :
    topStatements finish bound tokens = .ok statements ∧ rest = [] := by
  rw [allStatements, Outcome.bind_eq_ok_iff] at parsed
  obtain ⟨_, read, same⟩ := parsed
  rw [Outcome.pure_eq_ok, Outcome.ok.injEq, Prod.mk.injEq] at same
  exact ⟨same.1 ▸ read, same.2.symm⟩

theorem allStatements_eq_error
    {finish : Position} {bound : Nat} {error : SyntaxError}
    (refused : allStatements finish bound tokens = .error error) :
    topStatements finish bound tokens = .error error := by
  rw [allStatements] at refused
  cases read : topStatements finish bound tokens with
  | ok _ => rw [read] at refused; cases refused
  | error _ => rw [read] at refused; cases refused; rfl
  | fault => rw [read] at refused; cases refused
  | outOfFuel => rw [read] at refused; cases refused

/-- The cursor reads the program that the grammar reads, up to the last token, or it refuses the tokens
as the grammar does. -/
theorem program_cases
    (tokens : List Token) {fuel : Nat} (enough : (significant tokens).length < fuel) :
    (∃ parsed, program tokens = .ok parsed ∧
      Walk.program fuel tokens = (.ok parsed, ⟨(significant tokens).length, 0, 0⟩)) ∨
    ∃ error after, program tokens = .error error ∧
      Walk.program fuel tokens = (.error error, after) ∧
      after.current ≤ (significant tokens).length := by
  have settles := topStatements_settles enough
  unfold program Walk.program
  dsimp only
  generalize significant tokens = kept at settles ⊢
  rcases ends : Walk.topStatements kept fuel fuel ⟨0, 0, 0⟩ with ⟨outcome, after⟩
  rw [ends] at settles
  generalize parsed : allStatements (finishOf kept) (kept.length + 1) kept = reading at settles
  cases settles with
  | @ok statements next _ within =>
      obtain ⟨read, noneLeft⟩ := allStatements_eq_ok parsed
      obtain rfl : next = kept.length := Nat.le_antisymm within (List.drop_eq_nil_iff.1 noneLeft)
      exact .inl ⟨⟨statements⟩, by rw [read]; rfl, Walk.bind_of_ok ends⟩
  | @error error _ _ within _ _ =>
      refine .inr ⟨error, after, ?_, Walk.bind_of_error ends, within⟩
      rw [allStatements_eq_error parsed]
      rfl

end Zoop.Grammar

namespace Zoop

open Grammar

/-- Every list of tokens is parsed to a program or to an error of syntax.  A cursor that moves over the
tokens comes to the same end, without a fault and with any fuel above the number of tokens.  Wherever
the cursor stands, an expression or a statement that is read moves it forward by a token or more, never
beyond the last one, and leaves as many loops and bodies around it as there were. -/
theorem parsing_ends_and_moves_forward
    (tokens : List Token) (fuel : Nat) (enough : (significant tokens).length < fuel) :
    ((∃ program,
        Program.parse tokens = .ok program ∧
        Grammar.program tokens = .ok program ∧
        Walk.program fuel tokens = (.ok program, ⟨(significant tokens).length, 0, 0⟩)) ∨
      ∃ error after,
        Program.parse tokens = .error error ∧
        Grammar.program tokens = .error error ∧
        Walk.program fuel tokens = (.error error, after) ∧
        after.current ≤ (significant tokens).length) ∧
    ∀ current loops blocks, current ≤ (significant tokens).length →
      Settles (significant tokens) current loops blocks 1
        (expression (finishOf (significant tokens)) ((significant tokens).drop current))
        (Walk.expression (significant tokens) fuel ⟨current, loops, blocks⟩) ∧
      (loops ≤ blocks →
        Settles (significant tokens) current loops blocks 1
          (statement (finishOf (significant tokens)) (placeIn loops blocks)
            ((significant tokens).drop current))
          (Walk.statement (significant tokens) fuel ⟨current, loops, blocks⟩)) := by
  refine ⟨?_, ?_⟩
  · rcases program_cases tokens enough with
      ⟨program, parsed, walked⟩ | ⟨error, after, refused, walked, within⟩
    · exact .inl ⟨program, by rw [Program.parse, parsed], parsed, walked⟩
    · exact .inr ⟨error, after, by rw [Program.parse, refused], refused, walked, within⟩
  · intro current loops blocks within
    have enoughHere : (significant tokens).length < current + fuel := by omega
    exact ⟨expression_settles within enoughHere,
      fun balanced => statement_settles balanced within enoughHere⟩

/-- Tokens that no source has: their kinds, lexemes, places and values contradict each other. -/
def contraryTokens : List Token := [
  ⟨.keyword, "loop", ⟨7, 3⟩, ⟨0, 4⟩, some (.boolean false)⟩,
  ⟨.blockComment, "end loop", ⟨1, 0⟩, ⟨0, 0⟩, none⟩,
  ⟨.direct, "\x7b", ⟨9, 9⟩, ⟨4, 2⟩, none⟩,
  ⟨.keyword, "end", ⟨1, 2⟩, ⟨0, 3⟩, some (.string "loop")⟩]

theorem contraryTokens_end_and_move_forward :
    (significant contraryTokens).length < 4 ∧
    Program.parse contraryTokens = .ok ⟨[.loop ⟨7, 3⟩ [.leave ⟨1, 2⟩]]⟩ ∧
    Walk.program 4 contraryTokens = (.ok ⟨[.loop ⟨7, 3⟩ [.leave ⟨1, 2⟩]]⟩, ⟨3, 0, 0⟩) ∧
    Settles (significant contraryTokens) 2 1 1 1
      (.ok (.leave ⟨1, 2⟩, []))
      (Walk.statement (significant contraryTokens) 4 ⟨2, 1, 1⟩) := by
  have enough : (significant contraryTokens).length < 4 := by decide
  have parsed : Program.parse contraryTokens = .ok ⟨[.loop ⟨7, 3⟩ [.leave ⟨1, 2⟩]]⟩ := by rfl
  obtain ⟨ends, moves⟩ := parsing_ends_and_moves_forward contraryTokens 4 enough
  refine ⟨enough, parsed, ?_, (moves 2 1 1 (by decide)).2 (Nat.le_refl 1)⟩
  rcases ends with ⟨program, sameParsed, _, walked⟩ | ⟨error, _, refused, _⟩
  · rw [parsed, Except.ok.injEq] at sameParsed
    rw [walked, ← sameParsed]
    rfl
  · rw [parsed] at refused
    cases refused

end Zoop
