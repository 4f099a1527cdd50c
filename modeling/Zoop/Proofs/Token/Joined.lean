import Zoop.Proofs.Token.Splice
import Zoop.Proofs.Token.Tiling

/-!
# The tokens of joined sources

If a source stands below another one, its tokens are the same as many lines further down as the other
has, and those of the other do not change.
-/

namespace Zoop

/-! ## Places further down -/

namespace Position

/-- The same place some lines further down. -/
def down (lines : Nat) (position : Position) : Position :=
  ⟨position.line + lines, position.column⟩

theorem afterAll_down (lines : Nat) (position : Position) (text : List Char) :
    (position.down lines).afterAll text = (position.afterAll text).down lines := by
  induction text generalizing position with
  | nil => rfl
  | cons character text inductionHypothesis =>
      have here : (position.down lines).after character = (position.after character).down lines := by
        unfold after down
        split
        · rw [Nat.add_right_comm]
        · rfl
      rw [afterAll_cons, here, inductionHypothesis, afterAll_cons]

end Position

/-- Where the places of a source are if another source and a line feed stand above it. -/
def Move.below (first : List Char) : Move :=
  ⟨Position.down (1 + first.count '\n'), fun offset => offset + (first.length + 1)⟩

namespace Token

/-- The line feed behind a source. -/
def lineFeedAfter (first : List Char) : Token :=
  { kind := .newLine
    lexeme := "\n"
    position := Position.start.afterAll first
    span := ⟨first.length, 1⟩
    value := none }

theorem recognize_lineFeed
    {reading : Reading} (complete : reading.afterColon = false) (rest : List Char) :
    recognize reading '\n' rest = .ok (some (.ofWord .newLine ['\n'])) := by
  unfold recognize
  dsimp only
  rw [if_neg (by simp [complete]), if_neg (by decide), if_pos rfl]

/-- The reading at the start of a source that stands below another one looks like that at the start. -/
theorem mirrors_below (first : List Char) (tokens : List Token) :
    Mirrors (Move.below first)
      (Reading.start.after (first ++ ['\n']) (tokens ++ [lineFeedAfter first])) .start := by
  have position : Position.start.afterAll (first ++ ['\n']) =
      Position.start.down (1 + first.count '\n') := by
    rw [Position.afterAll_append, Position.afterAll_start]
    simp [Position.after, Position.down, Position.start, Nat.add_comm]
  refine ⟨⟨?_, ?_, ?_⟩, ?_, ?_⟩
  · simp [Reading.after, Reading.afterColon, Reading.start, lineFeedAfter]
  · simp [Reading.after, Reading.start, lineFeedAfter]
  · simp [Reading.after, Reading.start, operatorChars]
  · intro text
    simp only [Reading.after, Reading.start, Move.below]
    rw [position, Position.afterAll_down]
  · intro count
    simp only [Reading.after, Reading.start, Move.below, List.length_append, List.length_cons,
      List.length_nil]
    omega

/-- The blanks at the end of a source can be followed by a line feed. -/
theorem replaces_lineFeed
    {blanks : List Char} (blank : ∀ character ∈ blanks, isBlank character = true)
    (rest : List Char) : Replaces (blanks ++ '\n' :: rest) blanks := by
  cases blanks with
  | nil =>
      exact replaces_of_break (.inr rfl) (fun isSpace => absurd isSpace (by decide))
        (fun notLineFeed => absurd rfl notLineFeed) nofun
  | cons first blanks =>
      obtain ⟨isBlankFirst, laterBlank⟩ := List.forall_mem_cons.mp blank
      refine replaces_of_break (.inl isBlankFirst) ?_ ?_ ?_
      · intro _ second isSecond
        apply break_not_mem_letters
        cases blanks with
        | nil => exact .inr (Option.some.inj isSecond).symm
        | cons next blanks =>
            rw [← Option.some.inj isSecond]
            exact .inl (laterBlank next List.mem_cons_self)
      · intro notLineFeed
        exact ⟨first, rfl, notLineFeed⟩
      · intro isSpace
        exact Option.some.inj isSpace

/-- A source is read alike if a line feed and more text come after it. -/
theorem Scans.scan_append
    {first : List Char} {tokens : List Token} (scans : Scans .start first tokens)
    (rest : List Char) :
    scan .start 0 (first ++ '\n' :: rest) =
      scan (Reading.start.after (first ++ ['\n']) (tokens ++ [lineFeedAfter first])) 0 rest := by
  obtain ⟨front, back, rfl, cut⟩ := scans.cut (List.append_nil tokens).symm
  obtain ⟨blanks, nothing, split, blank, allows, lastScans, _, ends⟩ := cut.scans.gap
  rw [ends rfl, List.append_nil] at split
  rw [ends rfl] at lastScans
  subst split
  have apart : ∀ last ∈ tokens.getLast?, last.kind = .unaryOperator →
      (back ++ '\n' :: rest).head? = some ' ' → back.head? = some ' ' := by
    intro last _ _ isSpace
    cases back with
    | nil => cases isSpace
    | cons character back => exact isSpace
  have blanksPassed :
      scan (Reading.start.after front tokens) 0 (back ++ '\n' :: rest) =
        scan (Reading.start.after (front ++ back) tokens) 0 ('\n' :: rest) := by
    cases back with
    | nil => rw [List.append_nil, List.nil_append]
    | cons character back =>
        rw [scan_blanks (allows (List.cons_ne_nil character back)) blank, Reading.after_after,
          List.append_nil]
  have complete : (Reading.start.after (front ++ back) tokens).afterColon = false := by
    rw [Reading.after_after, List.append_nil] at lastScans
    cases lastScans with
    | done complete => exact complete
  have lineFeed : recognize (Reading.start.after (front ++ back) tokens) '\n' ([] ++ rest) = _ :=
    recognize_lineFeed complete rest
  have lineFeedIs :
      (Reading.start.after (front ++ back) tokens).token (.ofWord .newLine ['\n']) =
        lineFeedAfter (front ++ back) := by
    simp [Reading.token, Reading.after, Reading.start, Recognition.ofWord, Recognition.length,
      lineFeedAfter]
  rw [List.append_assoc, cut.again _ (replaces_lineFeed blank rest) apart, blanksPassed,
    ← List.nil_append rest, scan_token lineFeed rfl, lineFeedIs, Reading.after_after,
    List.nil_append]

/-- The tokens of two sources with a line feed between them are those of the first, the line feed, and
those of the second further down. -/
theorem tokenize_append
    {first second : String} {firstTokens secondTokens : List Token}
    (firstTokenized : tokenize first = .ok firstTokens)
    (secondTokenized : tokenize second = .ok secondTokens) :
    tokenize (first ++ "\n" ++ second) =
      .ok (firstTokens ++ lineFeedAfter first.toList ::
        secondTokens.map (Token.moved (Move.below first.toList))) := by
  have firstScans := scans_of_tokenize firstTokenized
  have secondScans := scans_of_tokenize secondTokenized
  have aimed : Aimed [] secondTokens := secondScans.aimed
  have mirrored :=
    secondScans.mirrored (mirrors_below first.toList firstTokens)
      ((aimed.moved (Move.below first.toList)).append _)
  have joined : (first ++ "\n" ++ second).toList = first.toList ++ '\n' :: second.toList := by
    simp
  unfold tokenize
  rw [joined, firstScans.scan_append, mirrored.scan_eq_ok]
  simp [Reading.after, Reading.start]

end Token

end Zoop
