import Zoop.Proofs.Evaluation.Moved
import Zoop.Proofs.Grammar.Sequence
import Zoop.Proofs.Token.Joined

/-!
# Joined sources run in sequence

The program of two sources with a line feed between them is the program of the first followed by that
of the second, as many lines further down as the first has.  To run it is to run the two programs one
after the other on one machine, up to these places.
-/

namespace Zoop

open Evaluation

/-! ## Statements in sequence -/

theorem Run.bind_assoc
    {κ α β γ : Type} (run : Run κ α) (next : α → Run κ β) (last : β → Run κ γ) :
    (run >>= next) >>= last = run >>= fun value => next value >>= last := by
  funext machine
  change Run.bind (Run.bind run next) last machine =
    Run.bind run (fun value => Run.bind (next value) last) machine
  simp only [Run.bind]
  rcases run machine with ⟨outcome, after⟩
  cases outcome <;> rfl

/-- Statements of which some come first are run in sequence with those, up to the first error. -/
theorem Evaluation.runStatements_append
    {κ : Type} [Console κ] (fuel : Nat) (first second : List Statement) :
    (runStatements fuel (first ++ second) : Run κ Unit) =
      (do runStatements fuel first; runStatements fuel second) := by
  induction first with
  | nil => rfl
  | cons statement first inductionHypothesis =>
      rw [List.cons_append, runStatements, runStatements, inductionHypothesis, Run.bind_assoc]

/-! ## The places of joined sources -/

/-- A place in joined sources as a place in the source that it belongs to, where the first one takes
the given number of lines. -/
def Position.own (lines : Nat) (position : Position) : Position :=
  if position.line ≤ lines then position else ⟨position.line - lines, position.column⟩

/-- From the places of joined sources back to those of each source. -/
def Move.apart (first : List Char) : Move :=
  ⟨Position.own (1 + first.count '\n'),
    fun offset => if offset ≤ first.length then offset else offset - (first.length + 1)⟩

namespace Token

/-- Tokens stand on the lines of their source, which are counted from one. -/
theorem places_of_tokenize
    {source : String} {tokens : List Token} (tokenized : tokenize source = .ok tokens) :
    ∀ token ∈ tokens,
      1 ≤ token.position.line ∧ token.position.line ≤ 1 + source.toList.count '\n' ∧
        token.span.offset ≤ source.toList.length := by
  intro token member
  have tiles := tilesFrom_of_tokenize tokenized
  have inside := (tiles.lexemes token member).1
  rw [tiles.positions token member, Position.afterAll_start]
  refine ⟨Nat.le_add_right _ _, ?_, ?_⟩
  · exact Nat.add_le_add_left ((List.take_sublist _ _).count_le '\n') 1
  · exact Nat.le_trans (Nat.le_add_right _ _) inside

/-- The tokens of the first of two joined sources have their own places already. -/
theorem moved_apart
    {first : String} {tokens : List Token} (tokenized : tokenize first = .ok tokens) :
    tokens.map (Token.moved (Move.apart first.toList)) = tokens := by
  apply map_moved_eq_self
  intro token member
  obtain ⟨_, line, offset⟩ := places_of_tokenize tokenized token member
  simp only [moved, Move.apart, Position.own, if_pos line, if_pos offset]

/-- The tokens of the second of two joined sources can be given their own places back. -/
theorem moved_below_apart
    (first : String) {second : String} {tokens : List Token}
    (tokenized : tokenize second = .ok tokens) :
    (tokens.map (Token.moved (Move.below first.toList))).map
      (Token.moved (Move.apart first.toList)) = tokens := by
  have same : ∀ token ∈ tokens,
      (token.moved (Move.below first.toList)).moved (Move.apart first.toList) = token := by
    intro token member
    obtain ⟨line, _, _⟩ := places_of_tokenize tokenized token member
    have below : ¬ token.position.line + (1 + first.toList.count '\n') ≤
        1 + first.toList.count '\n' := by omega
    have behind : ¬ token.span.offset + (first.toList.length + 1) ≤ first.toList.length := by omega
    simp only [moved, Move.apart, Move.below, Position.own, Position.down, if_neg below,
      if_neg behind, Nat.add_sub_cancel]
  rw [List.map_map]
  exact (List.map_congr_left same).trans (List.map_id' tokens)

end Token

/-! ## Joined sources -/

section Joined

variable
    {first second : String} {firstTokens secondTokens : List Token}
    {firstProgram secondProgram : Program}
    (firstTokenized : Token.tokenize first = .ok firstTokens)
    (firstParsed : Program.parse firstTokens = .ok firstProgram)
    (secondTokenized : Token.tokenize second = .ok secondTokens)
    (secondParsed : Program.parse secondTokens = .ok secondProgram)

include firstTokenized firstParsed in
theorem Program.moved_apart :
    firstProgram.moved (Move.apart first.toList).place = firstProgram := by
  have again := parse_moved (Move.apart first.toList) firstParsed
  rw [Token.moved_apart firstTokenized, firstParsed] at again
  exact (Except.ok.inj again).symm

variable (first) in
include secondTokenized secondParsed in
theorem Program.moved_below_apart :
    (secondProgram.moved (Move.below first.toList).place).moved (Move.apart first.toList).place =
      secondProgram := by
  have again :=
    parse_moved (Move.apart first.toList) (parse_moved (Move.below first.toList) secondParsed)
  rw [Token.moved_below_apart first secondTokenized, secondParsed] at again
  exact (Except.ok.inj again).symm

include firstTokenized firstParsed secondTokenized secondParsed

/-- The program of joined sources. -/
theorem Program.parse_joined :
    ∃ tokens, Token.tokenize (first ++ "\n" ++ second) = .ok tokens ∧
      parse tokens =
        .ok ⟨firstProgram.statements ++
          (secondProgram.moved (Move.below first.toList).place).statements⟩ := by
  refine ⟨_, Token.tokenize_append firstTokenized secondTokenized, ?_⟩
  have noMark : (Token.lineFeedAfter first.toList).lexeme ≠ "~" := by
    change "\n" ≠ "~"
    decide
  have parsed :=
    parse_append (Move.apart first.toList) (Move.below first.toList) rfl noMark firstParsed
      secondParsed
  rwa [Token.moved_apart firstTokenized, Program.moved_apart firstTokenized firstParsed] at parsed

/-- The program of joined sources with the places of each source is both programs in sequence. -/
theorem Program.moved_joined :
    Program.moved (Move.apart first.toList).place
        ⟨firstProgram.statements ++
          (secondProgram.moved (Move.below first.toList).place).statements⟩ =
      ⟨firstProgram.statements ++ secondProgram.statements⟩ := by
  have firstSame :=
    congrArg Program.statements (Program.moved_apart firstTokenized firstParsed)
  have secondSame :=
    congrArg Program.statements (Program.moved_below_apart first secondTokenized secondParsed)
  simp only [Program.moved] at firstSame secondSame ⊢
  rw [Statement.movedAll_append, firstSame, secondSame]

/-- Joined sources are accepted, their program is that of the first followed by that of the second
further down, and to run it on a console is to run the two programs in sequence: the console is given
the same calls and gives the same answers, and both runs end alike, up to the places. -/
theorem joined_sources_run_in_sequence :
    ∃ tokens joined,
      Token.tokenize (first ++ "\n" ++ second) = .ok tokens ∧
      Program.parse tokens = .ok joined ∧
      joined.statements =
        firstProgram.statements ++
          Statement.movedAll (Position.down (1 + first.toList.count '\n'))
            secondProgram.statements ∧
      ∀ (κ : Type) [Console κ] (fuel : Nat) (console : κ),
        let start := Machine.start (Transcript.fresh console)
        let own := Position.own (1 + first.toList.count '\n')
        let sequence := (do firstProgram.runWith fuel; secondProgram.runWith fuel) start
        let whole := joined.runWith fuel start
        sequence.2.console = whole.2.console ∧
          sequence.1 = whole.1.moved own ∧
          sequence.2.environment = whole.2.environment.moved own := by
  obtain ⟨tokens, tokenized, parsed⟩ :=
    Program.parse_joined firstTokenized firstParsed secondTokenized secondParsed
  refine ⟨tokens, _, tokenized, parsed, rfl, ?_⟩
  intro κ _ fuel console start own sequence whole
  have moved :=
    Program.runWith_moved own fuel (Transcript.silent κ)
      ⟨firstProgram.statements ++
        (secondProgram.moved (Move.below first.toList).place).statements⟩ start
  have apart := Program.moved_joined firstTokenized firstParsed secondTokenized secondParsed
  have same : sequence = (whole.1.moved own, whole.2.moved own) := by
    rw [show Program.moved own _ = _ from apart, Program.runWith, runStatements_append] at moved
    exact moved
  rw [same]
  exact ⟨rfl, rfl, rfl⟩

end Joined

/-- A source of two lines, the second of which is empty. -/
def flagSource : String :=
  "@b:bool <- true\n"

def flagTokens : List Token := [
  ⟨.variable, "@b", ⟨1, 0⟩, ⟨0, 2⟩, some (.string "b")⟩,
  ⟨.colon, ":", ⟨1, 2⟩, ⟨2, 1⟩, none⟩,
  ⟨.keyword, "bool", ⟨1, 3⟩, ⟨3, 4⟩, none⟩,
  ⟨.flowIn, "<-", ⟨1, 8⟩, ⟨8, 2⟩, none⟩,
  ⟨.literal, "true", ⟨1, 11⟩, ⟨11, 4⟩, some (.boolean true)⟩,
  ⟨.newLine, "\n", ⟨1, 15⟩, ⟨15, 1⟩, none⟩]

def flagProgram : Program :=
  ⟨[.expression ⟨1, 0⟩ (.declare ⟨1, 0⟩ ⟨true, "b"⟩ .bool (.literal ⟨1, 11⟩ (.boolean true)))]⟩

/-- A source that prints a variable of the source above it and then fails. -/
def failingSource : String :=
  "@b ->|\n$c ->|"

def failingTokens : List Token := [
  ⟨.variable, "@b", ⟨1, 0⟩, ⟨0, 2⟩, some (.string "b")⟩,
  ⟨.output, "->|", ⟨1, 3⟩, ⟨3, 3⟩, none⟩,
  ⟨.newLine, "\n", ⟨1, 6⟩, ⟨6, 1⟩, none⟩,
  ⟨.variable, "$c", ⟨2, 0⟩, ⟨7, 2⟩, some (.string "c")⟩,
  ⟨.output, "->|", ⟨2, 3⟩, ⟨10, 3⟩, none⟩]

def failingProgram : Program :=
  ⟨[.print ⟨1, 3⟩ (.variable ⟨1, 0⟩ ⟨true, "b"⟩), .print ⟨2, 3⟩ (.variable ⟨2, 0⟩ ⟨false, "c"⟩)]⟩

/-- The error on line two of the second source is on line four of the joined ones. -/
theorem flagSource_and_failingSource_run_in_sequence :
    let start := Machine.start (Transcript.fresh (BufferedConsole.ofInput []))
    let sequence := (do flagProgram.runWith 1; failingProgram.runWith 1) start
    ∃ tokens joined,
      Token.tokenize (flagSource ++ "\n" ++ failingSource) = .ok tokens ∧
      Program.parse tokens = .ok joined ∧
      sequence.1 = .error ⟨.undefinedVariable ⟨false, "c"⟩, ⟨2, 0⟩⟩ ∧
      (joined.runWith 1 start).1 = .error ⟨.undefinedVariable ⟨false, "c"⟩, ⟨4, 0⟩⟩ ∧
      (joined.runWith 1 start).2.console.calls = [.printed "true" (.ok ())] ∧
      sequence.2.console = (joined.runWith 1 start).2.console := by
  intro start sequence
  have firstTokenized : Token.tokenize flagSource = .ok flagTokens :=
    Token.tokenize_eq_ok (by decide +kernel)
  have firstParsed : Program.parse flagTokens = .ok flagProgram := by rfl
  have secondTokenized : Token.tokenize failingSource = .ok failingTokens :=
    Token.tokenize_eq_ok (by decide +kernel)
  have secondParsed : Program.parse failingTokens = .ok failingProgram := by rfl
  obtain ⟨tokens, joined, tokenized, parsed, statements, runs⟩ :=
    joined_sources_run_in_sequence firstTokenized firstParsed secondTokenized secondParsed
  obtain ⟨sameCalls, _, _⟩ := runs BufferedConsole 1 (BufferedConsole.ofInput [])
  obtain ⟨joinedStatements⟩ := joined
  subst statements
  exact ⟨tokens, _, tokenized, parsed, rfl, rfl, rfl, sameCalls⟩

end Zoop
