import Zoop.Proofs.Program.Moved
import Zoop.Proofs.Token.Replay

/-!
# A text inside another source

A source is cut after some of its tokens.  The first part is read alike with another rest behind it, and
the second part is read alike after another beginning, where its tokens have other places.  Only an
arrow that stores a value looks further back than its neighbour: its target has to be in the same part.
-/

namespace Zoop.Token

/-! ## Readings after a text -/

namespace Reading

/-- The reading after a text that has the given tokens. -/
def after (reading : Reading) (text : List Char) (tokens : List Token) : Reading :=
  { before := tokens.reverse ++ reading.before
    previous := text.getLast?.or reading.previous
    position := reading.position.afterAll text
    offset := reading.offset + text.length }

theorem after_after
    (reading : Reading) (first second : List Char) (firstTokens secondTokens : List Token) :
    (reading.after first firstTokens).after second secondTokens =
      reading.after (first ++ second) (firstTokens ++ secondTokens) := by
  simp [after, Position.afterAll_append, Option.or_assoc, Nat.add_assoc]

theorem passAll_eq_after (reading : Reading) (text : List Char) :
    reading.passAll text = reading.after text [] := by
  induction text generalizing reading with
  | nil => rfl
  | cons character text inductionHypothesis =>
      have later := inductionHypothesis (reading.pass character)
      have here : reading.pass character = reading.after [character] [] := rfl
      rw [here, after_after] at later
      exact later

theorem passAll_emit (reading : Reading) (piece : Recognition) (lexeme : List Char) :
    (reading.emit piece).passAll lexeme = reading.after lexeme [reading.token piece] := by
  rw [passAll_eq_after]
  rfl

end Reading

/-! ## Scanning as a relation -/

/-- The tokens that are read from a text to its end, each with how it is recognised. -/
inductive Scans : Reading → List Char → List Token → Prop
  | done {reading : Reading} (complete : reading.afterColon = false) : Scans reading [] []
  | blank {reading : Reading} {character : Char} {rest : List Char} {tokens : List Token}
      (recognized : recognize reading character rest = .ok none)
      (later : Scans (reading.after [character] []) rest tokens) :
      Scans reading (character :: rest) tokens
  | token {reading : Reading} {character : Char} {lexeme rest : List Char} {piece : Recognition}
      {tokens : List Token}
      (recognized : recognize reading character (lexeme ++ rest) = .ok (some piece))
      (spelled : piece.lexeme = character :: lexeme)
      (later : Scans (reading.after (character :: lexeme) [reading.token piece]) rest tokens) :
      Scans reading (character :: (lexeme ++ rest)) (reading.token piece :: tokens)

theorem scan_blank
    {reading : Reading} {character : Char} {rest : List Char}
    (recognized : recognize reading character rest = .ok none) :
    scan reading 0 (character :: rest) = scan (reading.after [character] []) 0 rest := by
  rw [scan, recognized]
  rfl

theorem scan_token
    {reading : Reading} {character : Char} {lexeme rest : List Char} {piece : Recognition}
    (recognized : recognize reading character (lexeme ++ rest) = .ok (some piece))
    (spelled : piece.lexeme = character :: lexeme) :
    scan reading 0 (character :: (lexeme ++ rest)) =
      scan (reading.after (character :: lexeme) [reading.token piece]) 0 rest := by
  have within := (recognized_of_recognize recognized).within
  rw [scan, recognized]
  dsimp only
  rw [scan_emit reading within, Recognition.length, spelled, ← List.cons_append, List.drop_left,
    Reading.passAll_emit]

theorem Scans.scan_eq_ok
    {reading : Reading} {text : List Char} {tokens : List Token}
    (scans : Scans reading text tokens) :
    scan reading 0 text = .ok (reading.before.reverse ++ tokens) := by
  induction scans with
  | done complete => rw [scan, if_neg (by simp [complete]), List.append_nil]
  | blank recognized _ inductionHypothesis =>
      rw [scan_blank recognized, inductionHypothesis]
      rfl
  | token recognized spelled _ inductionHypothesis =>
      rw [scan_token recognized spelled, inductionHypothesis]
      simp [Reading.after]

theorem scans_of_scan
    {reading : Reading} {text : List Char} {tokens : List Token}
    (scanned : scan reading 0 text = .ok tokens) :
    ∃ later, tokens = reading.before.reverse ++ later ∧ Scans reading text later := by
  -- a piece may be of any length, so the induction is on the length of the text
  induction lengthIs : text.length using Nat.strongRecOn generalizing reading text with
  | ind length inductionHypothesis =>
      cases text with
      | nil =>
          rw [scan] at scanned
          split at scanned
          · cases scanned
          · next complete =>
              cases scanned
              exact ⟨[], (List.append_nil _).symm, .done (by simpa using complete)⟩
      | cons character rest =>
          rw [List.length_cons] at lengthIs
          cases recognized : recognize reading character rest with
          | error error =>
              rw [scan, recognized] at scanned
              cases scanned
          | ok found =>
              rcases recognize_eq_ok recognized with ⟨rfl, _⟩ | ⟨piece, rfl, isPiece⟩
              · rw [scan_blank recognized] at scanned
                obtain ⟨later, split, scans⟩ :=
                  inductionHypothesis rest.length (by omega) scanned rfl
                exact ⟨later, split, .blank recognized scans⟩
              · obtain ⟨others, behind, spelled, rfl⟩ := isPiece.within.split
                rw [scan_token recognized spelled] at scanned
                rw [List.length_append] at lengthIs
                obtain ⟨later, tokensSplit, scans⟩ :=
                  inductionHypothesis behind.length (by omega) scanned rfl
                refine ⟨_, ?_, .token recognized spelled scans⟩
                rw [tokensSplit]
                simp [Reading.after]

theorem scans_of_tokenize
    {source : String} {tokens : List Token} (tokenized : tokenize source = .ok tokens) :
    Scans .start source.toList tokens := by
  obtain ⟨later, split, scans⟩ := scans_of_scan tokenized
  have same : tokens = later := split
  rw [same]
  exact scans

/-! ## Arrows and their targets -/

/-- A target among the last tokens is one with more tokens before them. -/
theorem flowInHasTarget_append
    {tokens : List Token} (before : List Token) (hasTarget : flowInHasTarget tokens = true) :
    flowInHasTarget (tokens ++ before) = true := by
  have stays : ∀ (test : Token → Bool) (back : Nat),
      tokens[back]?.any test = true → (tokens ++ before)[back]?.any test = true := by
    intro test back holds
    cases there : tokens[back]? with
    | none =>
        rw [there] at holds
        cases holds
    | some token =>
        obtain ⟨inside, _⟩ := List.getElem?_eq_some_iff.mp there
        rwa [List.getElem?_append_left inside]
  simp only [flowInHasTarget, Bool.or_eq_true, Bool.and_eq_true] at hasTarget ⊢
  rcases hasTarget with (isVariable | ⟨⟨isWord, isColon⟩, isVariable⟩) | ⟨isLabel, isZoop⟩
  · exact .inl (.inl (stays _ _ isVariable))
  · exact .inl (.inr ⟨⟨stays _ _ isWord, stays _ _ isColon⟩, stays _ _ isVariable⟩)
  · refine .inr ⟨stays _ _ isLabel, ?_⟩
    rcases isZoop with isZoop | ⟨⟨isWord, isColon⟩, isZoop⟩
    · exact .inl (stays _ _ isZoop)
    · exact .inr ⟨⟨stays _ _ isWord, stays _ _ isColon⟩, stays _ _ isZoop⟩

theorem flowInHasTarget_moved (move : Move) (tokens : List Token) :
    flowInHasTarget (tokens.map (Token.moved move)) = flowInHasTarget tokens := by
  simp only [flowInHasTarget, List.getElem?_map, Option.any_map]
  rfl

/-- Every arrow among the tokens has its target in the tokens before it. -/
def Aimed (before tokens : List Token) : Prop :=
  ∀ between arrow rest, tokens = between ++ arrow :: rest → arrow.kind = .flowIn →
    flowInHasTarget (between.reverse ++ before) = true

theorem aimed_of_no_arrow
    {tokens : List Token} (noArrow : ∀ token ∈ tokens, token.kind ≠ .flowIn) (before : List Token) :
    Aimed before tokens := by
  intro between arrow rest split isArrow
  refine absurd isArrow (noArrow arrow ?_)
  rw [split]
  exact List.mem_append_right _ List.mem_cons_self

theorem Aimed.append {tokens : List Token} (aimed : Aimed [] tokens) (before : List Token) :
    Aimed before tokens := by
  intro between arrow rest split isArrow
  have hasTarget := aimed between arrow rest split isArrow
  rw [List.append_nil] at hasTarget
  exact flowInHasTarget_append before hasTarget

theorem Aimed.moved {tokens : List Token} (aimed : Aimed [] tokens) (move : Move) :
    Aimed [] (tokens.map (Token.moved move)) := by
  intro between arrow rest split isArrow
  obtain ⟨oldBetween, others, rfl, rfl, othersAre⟩ := List.map_eq_append_iff.mp split
  obtain ⟨oldArrow, oldRest, rfl, rfl, _⟩ := List.map_eq_cons_iff.mp othersAre
  have hasTarget := aimed oldBetween oldArrow oldRest rfl isArrow
  rwa [List.append_nil, ← List.map_reverse, flowInHasTarget_moved, ← List.append_nil oldBetween.reverse]

theorem Aimed.of_moved
    {tokens : List Token} {move : Move} (aimed : Aimed [] (tokens.map (Token.moved move))) :
    Aimed [] tokens := by
  intro between arrow rest split isArrow
  have hasTarget :=
    aimed (between.map (Token.moved move)) (arrow.moved move) (rest.map (Token.moved move))
      (by rw [split, List.map_append, List.map_cons]) isArrow
  rwa [List.append_nil, ← List.map_reverse, flowInHasTarget_moved,
    ← List.append_nil between.reverse] at hasTarget

theorem Aimed.of_cons
    {before tokens : List Token} {token : Token} (aimed : Aimed before (token :: tokens)) :
    Aimed (token :: before) tokens := by
  intro between arrow rest split isArrow
  have hasTarget := aimed (token :: between) arrow rest (by rw [split]; rfl) isArrow
  rwa [List.reverse_cons, List.append_assoc] at hasTarget

theorem Aimed.cons
    {before tokens : List Token} {token : Token}
    (here : token.kind = .flowIn → flowInHasTarget before = true)
    (later : Aimed (token :: before) tokens) : Aimed before (token :: tokens) := by
  intro between arrow rest split isArrow
  cases between with
  | nil =>
      cases split
      exact here isArrow
  | cons first between =>
      cases split
      have hasTarget := later between arrow rest rfl isArrow
      rwa [List.reverse_cons, List.append_assoc]

/-- An arrow is recognised only behind its target. -/
theorem flowInHasTarget_of_recognize
    {reading : Reading} {character : Char} {rest : List Char} {piece : Recognition}
    (recognized : recognize reading character rest = .ok (some piece))
    (isArrow : piece.kind = .flowIn) : flowInHasTarget reading.before = true := by
  rcases (recognized_of_recognize recognized).kind_cases with
    other | ⟨other, -⟩ | ⟨other, -⟩ | fixed
  · rw [isArrow] at other
    exact absurd other (by decide)
  · rw [isArrow] at other
    cases other
  · rw [isArrow] at other
    exact absurd other (by decide)
  · obtain ⟨word, kind, -, targeted, rfl⟩ := recognizeFixed_eq_ok_iff.mp fixed
    dsimp only [Recognition.ofWord] at isArrow
    split at isArrow
    · have isOperator := operatorKind_mem reading.previous ((character :: rest).drop 1)
      rw [isArrow] at isOperator
      exact absurd isOperator (by decide)
    · exact targeted isArrow

theorem Scans.aimed
    {reading : Reading} {text : List Char} {tokens : List Token}
    (scans : Scans reading text tokens) : Aimed reading.before tokens := by
  induction scans with
  | done _ =>
      intro between arrow rest split
      cases between <;> cases split
  | blank _ _ inductionHypothesis => exact inductionHypothesis
  | token recognized _ _ inductionHypothesis =>
      exact .cons (flowInHasTarget_of_recognize recognized) inductionHypothesis

/-! ## The first part of a source -/

theorem Reading.alike_refl (reading : Reading) : reading.Alike reading :=
  ⟨rfl, rfl, rfl⟩

/-- A text is cut after its first tokens.  The first part ends with the last of them, and it is read
alike before every rest in which none of its tokens goes on. -/
structure Cut (reading : Reading) (front back : List Char) (earlier later : List Token) : Prop where
  nothing : front = [] ↔ earlier = []
  stops : ∀ last ∈ earlier.getLast?, last.span.stop = reading.offset + front.length
  scans : Scans (reading.after front earlier) back later
  again : ∀ other, Replaces other back →
    (∀ last ∈ earlier.getLast?, last.kind = .unaryOperator →
      other.head? = some ' ' → back.head? = some ' ') →
    scan reading 0 (front ++ other) = scan (reading.after front earlier) 0 other

theorem cut_nil
    {reading : Reading} {text : List Char} {tokens : List Token}
    (scans : Scans reading text tokens) : Cut reading [] text [] tokens :=
  ⟨⟨fun _ => rfl, fun _ => rfl⟩, nofun, scans, fun _ _ _ => rfl⟩

theorem Cut.blank
    {reading : Reading} {character : Char} {front back : List Char} {earlier later : List Token}
    (recognized : recognize reading character (front ++ back) = .ok none)
    (nonempty : earlier ≠ [])
    (cut : Cut (reading.after [character] []) front back earlier later) :
    Cut reading (character :: front) back earlier later := by
  have sameAfter : (reading.after [character] []).after front earlier =
      reading.after (character :: front) earlier := by
    rw [Reading.after_after]
    rfl
  refine ⟨by simp [nonempty], ?_, ?_, ?_⟩
  · intro last isLast
    rw [cut.stops last isLast, List.length_cons]
    simp only [Reading.after, List.length_cons, List.length_nil]
    omega
  · rw [← sameAfter]
    exact cut.scans
  · intro other replaces apart
    have again : recognize reading character (front ++ other) = .ok none :=
      recognize_replaces replaces reading.alike_refl recognized nofun nofun nofun
    rw [List.cons_append, scan_blank again, cut.again other replaces apart, sameAfter]

theorem Cut.token
    {reading : Reading} {character : Char} {lexeme front back : List Char} {piece : Recognition}
    {earlier later : List Token}
    (recognized : recognize reading character (lexeme ++ (front ++ back)) = .ok (some piece))
    (spelled : piece.lexeme = character :: lexeme)
    (cut :
      Cut (reading.after (character :: lexeme) [reading.token piece]) front back earlier later) :
    Cut reading (character :: (lexeme ++ front)) back (reading.token piece :: earlier) later := by
  have sameAfter :
      (reading.after (character :: lexeme) [reading.token piece]).after front earlier =
        reading.after (character :: (lexeme ++ front)) (reading.token piece :: earlier) := by
    rw [Reading.after_after]
    rfl
  have covered : piece.length = lexeme.length + 1 := congrArg List.length spelled
  refine ⟨by simp, ?_, ?_, ?_⟩
  · cases earlier with
    | nil =>
        rintro last ⟨⟩
        have noFront := cut.nothing.mpr rfl
        subst noFront
        rw [List.append_nil, List.length_cons, ← covered]
        rfl
    | cons next earlier =>
        intro last isLast
        rw [List.getLast?_cons_cons] at isLast
        rw [cut.stops last isLast]
        simp only [Reading.after, List.length_cons, List.length_append]
        omega
  · rw [← sameAfter]
    exact cut.scans
  · intro other replaces apart
    have laterApart : ∀ last ∈ earlier.getLast?, last.kind = .unaryOperator →
        other.head? = some ' ' → back.head? = some ' ' := by
      intro last isLast
      apply apart last
      cases earlier with
      | nil => cases isLast
      | cons next earlier => exact isLast
    have again : recognize reading character (lexeme ++ front ++ other) = .ok (some piece) := by
      refine recognize_replaces replaces reading.alike_refl
        (by rw [List.append_assoc]; exact recognized) ?_ ?_ ?_
      · rintro _ ⟨⟩
        rw [covered, List.length_append]
        omega
      · rintro _ ⟨⟩
        exact flowInHasTarget_of_recognize recognized
      · -- what ends the first part is the last of its tokens
        rintro empty _ ⟨⟩ isUnary
        refine apart (reading.token piece) ?_ isUnary
        obtain ⟨_, noFront⟩ := List.append_eq_nil_iff.mp empty
        rw [cut.nothing.mp noFront]
        rfl
    rw [List.append_assoc] at again
    rw [List.cons_append, List.append_assoc, scan_token again spelled,
      cut.again other replaces laterApart, sameAfter]

/-- A text can be cut after each of its tokens. -/
theorem Scans.cut
    {reading : Reading} {text : List Char} {tokens : List Token}
    (scans : Scans reading text tokens) {earlier later : List Token}
    (split : tokens = earlier ++ later) :
    ∃ front back, text = front ++ back ∧ Cut reading front back earlier later := by
  induction scans generalizing earlier with
  | done complete =>
      obtain ⟨rfl, rfl⟩ := List.append_eq_nil_iff.mp split.symm
      exact ⟨[], [], rfl, cut_nil (.done complete)⟩
  | @blank reading character rest tokens recognized scans inductionHypothesis =>
      cases earlier with
      | nil =>
          subst split
          exact ⟨[], _, rfl, cut_nil (.blank recognized scans)⟩
      | cons first earlier =>
          obtain ⟨front, back, rfl, cut⟩ := inductionHypothesis split
          exact ⟨character :: front, back, rfl, cut.blank recognized (List.cons_ne_nil first earlier)⟩
  | @token reading character lexeme rest piece tokens recognized spelled scans inductionHypothesis =>
      cases earlier with
      | nil =>
          subst split
          exact ⟨[], _, rfl, cut_nil (.token recognized spelled scans)⟩
      | cons first earlier =>
          cases split
          obtain ⟨front, back, rfl, cut⟩ := inductionHypothesis rfl
          refine ⟨character :: (lexeme ++ front), back, ?_, cut.token recognized spelled⟩
          rw [List.cons_append, List.append_assoc]

/-! ## Blanks -/

/-- A blank may come next. -/
structure Reading.AllowsBlank (reading : Reading) : Prop where
  noColon : reading.afterColon = false
  noMark : reading.before.head?.any (·.lexeme == "~") = false

theorem recognize_blank
    {reading : Reading} {character : Char} (allows : reading.AllowsBlank)
    (blank : isBlank character = true) (rest : List Char) :
    recognize reading character rest = .ok none := by
  unfold recognize
  dsimp only
  rw [if_neg (by simp [allows.noColon]), if_pos blank, if_neg (by simp [allows.noMark])]

theorem allowsBlank_of_recognize
    {reading : Reading} {character : Char} {rest : List Char}
    (recognized : recognize reading character rest = .ok none) :
    reading.AllowsBlank ∧ isBlank character = true := by
  have noPiece : ∀ {result : Except SyntaxError Recognition}, result.map some ≠ .ok none := by
    rintro (_ | _) ⟨⟩
  have tried := tried_recognize reading character rest
  generalize recognize reading character rest = result at tried recognized
  cases tried with
  | blank noColon noMark blank => exact ⟨⟨noColon, noMark⟩, blank⟩
  | detached | newLine | colon | parenOpen | parenClose | truth | comment => cases recognized
  | type | named | quoted | number | blockComment | fixed => exact absurd recognized noPiece

theorem scan_blanks
    {reading : Reading} {blanks : List Char} (allows : reading.AllowsBlank)
    (blank : ∀ character ∈ blanks, isBlank character = true) (rest : List Char) :
    scan reading 0 (blanks ++ rest) = scan (reading.after blanks []) 0 rest := by
  induction blanks generalizing reading with
  | nil => rfl
  | cons character blanks inductionHypothesis =>
      obtain ⟨here, later⟩ := List.forall_mem_cons.mp blank
      have laterAllows : (reading.after [character] []).AllowsBlank := ⟨allows.noColon, allows.noMark⟩
      rw [List.cons_append, scan_blank (recognize_blank allows here _),
        inductionHypothesis laterAllows later, Reading.after_after]
      rfl

/-- Before the first token of a text there are blanks, if they may be there. -/
theorem Scans.gap
    {reading : Reading} {text : List Char} {tokens : List Token}
    (scans : Scans reading text tokens) :
    ∃ blanks rest, text = blanks ++ rest ∧ (∀ character ∈ blanks, isBlank character = true) ∧
      (blanks ≠ [] → reading.AllowsBlank) ∧ Scans (reading.after blanks []) rest tokens ∧
      (∀ first ∈ tokens.head?, first.span.offset = reading.offset + blanks.length) ∧
      (tokens = [] → rest = []) := by
  induction scans with
  | done complete => exact ⟨[], [], rfl, nofun, nofun, .done complete, nofun, fun _ => rfl⟩
  | @blank reading character rest tokens recognized _ inductionHypothesis =>
      obtain ⟨blanks, others, rfl, blank, _, laterScans, starts, ends⟩ := inductionHypothesis
      obtain ⟨allows, isBlank⟩ := allowsBlank_of_recognize recognized
      refine ⟨character :: blanks, others, rfl, List.forall_mem_cons.mpr ⟨isBlank, blank⟩,
        fun _ => allows, ?_, ?_, ends⟩
      · rw [Reading.after_after] at laterScans
        exact laterScans
      · intro first isFirst
        rw [starts first isFirst, List.length_cons]
        simp only [Reading.after, List.length_cons, List.length_nil]
        omega
  | token recognized spelled scans _ =>
      refine ⟨[], _, rfl, nofun, nofun, .token recognized spelled scans, ?_, nofun⟩
      rintro _ ⟨⟩
      rfl

/-! ## The second part of a source -/

/-- One reading stands where a move takes the other, and looks like it. -/
structure Mirrors (move : Move) (new old : Reading) : Prop extends new.Alike old where
  place : ∀ text, move.place (old.position.afterAll text) = new.position.afterAll text
  offset : ∀ count, move.offset (old.offset + count) = new.offset + count

namespace Mirrors

variable {move : Move} {new old : Reading} (mirrors : Mirrors move new old)

include mirrors

theorem token (piece : Recognition) : new.token piece = (old.token piece).moved move := by
  have samePlace := mirrors.place []
  have sameOffset := mirrors.offset 0
  simp only [Position.afterAll_nil, Nat.add_zero] at samePlace sameOffset
  simp [Reading.token, Token.moved, samePlace, sameOffset]

theorem after (text : List Char) (tokens : List Token) :
    Mirrors move (new.after text (tokens.map (Token.moved move))) (old.after text tokens) := by
  have sameLast : ∀ (test : Token → Bool), (∀ token : Token, test (token.moved move) = test token) →
      new.before.head?.any test = old.before.head?.any test →
      ((tokens.map (Token.moved move)).reverse ++ new.before).head?.any test =
        (tokens.reverse ++ old.before).head?.any test := by
    intro test unmoved same
    rw [← List.map_reverse]
    cases tokens.reverse with
    | nil => exact same
    | cons last others => exact unmoved last
  refine ⟨⟨?_, ?_, ?_⟩, ?_, ?_⟩
  · exact sameLast (·.kind == .colon) (fun _ => rfl) mirrors.colon
  · exact sameLast (·.lexeme == "~") (fun _ => rfl) mirrors.mark
  · simp only [Reading.after]
    cases text.getLast? with
    | none => exact mirrors.previous
    | some character => rfl
  · intro more
    simp only [Reading.after, ← Position.afterAll_append]
    exact mirrors.place (text ++ more)
  · intro count
    simp only [Reading.after, Nat.add_assoc]
    exact mirrors.offset (text.length + count)

end Mirrors

theorem replaces_nil : Replaces [] [] := by
  refine ⟨?_, nofun, fun _ => nofun, nofun⟩
  intro word _ text starts
  rwa [List.append_nil] at starts

theorem recognize_alike
    {old new : Reading} (alike : new.Alike old) {character : Char} {rest : List Char}
    {found : Option Recognition} (recognized : recognize old character rest = .ok found)
    (aimed : ∀ piece, found = some piece → piece.kind = .flowIn →
      flowInHasTarget new.before = true) :
    recognize new character rest = .ok found := by
  have within : ∀ piece, found = some piece → piece.length ≤ rest.length + 1 := by
    rintro piece rfl
    rcases recognize_eq_ok recognized with ⟨none, _⟩ | ⟨_, same, isPiece⟩
    · cases none
    · cases same
      exact isPiece.within.fits
  have again : recognize new character (rest ++ []) = .ok found :=
    recognize_replaces replaces_nil alike (by rwa [List.append_nil]) within aimed
      (fun _ _ _ _ => nofun)
  rwa [List.append_nil] at again

/-- The second part of a source is read alike after another beginning, if all its arrows have their
targets there. -/
theorem Scans.mirrored
    {move : Move} {old new : Reading} {text : List Char} {tokens : List Token}
    (scans : Scans old text tokens) (mirrors : Mirrors move new old)
    (aimed : Aimed new.before (tokens.map (Token.moved move))) :
    Scans new text (tokens.map (Token.moved move)) := by
  induction scans generalizing new with
  | done complete => exact .done (mirrors.colon.trans complete)
  | @blank old character rest tokens recognized _ inductionHypothesis =>
      have again := recognize_alike mirrors.toAlike recognized nofun
      exact .blank again (inductionHypothesis (mirrors.after [character] []) aimed)
  | @token old character lexeme rest piece tokens recognized spelled _ inductionHypothesis =>
      have again : recognize new character (lexeme ++ rest) = .ok (some piece) := by
        refine recognize_alike mirrors.toAlike recognized ?_
        rintro _ ⟨⟩ isArrow
        exact aimed [] _ _ rfl isArrow
      have later := inductionHypothesis
        (mirrors.after (character :: lexeme) [old.token piece]) aimed.of_cons
      rw [List.map_cons, ← mirrors.token]
      refine .token again spelled ?_
      rw [mirrors.token]
      exact later

/-- An arrow that has lost its target is not read. -/
theorem Scans.not_mirrored
    {move : Move} {old new : Reading} {text : List Char} {tokens : List Token}
    (scans : Scans old text tokens) (mirrors : Mirrors move new old)
    (unaimed : ¬Aimed new.before (tokens.map (Token.moved move))) :
    ∃ error, scan new 0 text = .error error := by
  induction scans generalizing new with
  | done _ =>
      refine absurd ?_ unaimed
      intro between arrow rest split
      cases between <;> cases split
  | @blank old character rest tokens recognized _ inductionHypothesis =>
      have again := recognize_alike mirrors.toAlike recognized nofun
      rw [scan_blank again]
      exact inductionHypothesis (mirrors.after [character] []) unaimed
  | @token old character lexeme rest piece tokens recognized spelled _ inductionHypothesis =>
      by_cases hasTarget : piece.kind = .flowIn → flowInHasTarget new.before = true
      · have again : recognize new character (lexeme ++ rest) = .ok (some piece) := by
          refine recognize_alike mirrors.toAlike recognized ?_
          rintro _ ⟨⟩
          exact hasTarget
        rw [scan_token again spelled, mirrors.token]
        refine inductionHypothesis (mirrors.after (character :: lexeme) [old.token piece]) ?_
        intro laterAimed
        exact unaimed (.cons hasTarget laterAimed)
      · cases found : recognize new character (lexeme ++ rest) with
        | error error =>
            refine ⟨error, ?_⟩
            rw [scan, found]
        | ok other =>
            -- what is recognised here is recognised there as well, so it is the arrow
            obtain ⟨isArrow, noTarget⟩ := Classical.not_imp.mp hasTarget
            have alike : old.Alike new :=
              ⟨mirrors.colon.symm, mirrors.mark.symm, mirrors.previous.symm⟩
            have there : recognize old character (lexeme ++ rest) = .ok other :=
              recognize_alike alike found fun _ _ _ => flowInHasTarget_of_recognize recognized isArrow
            rw [recognized] at there
            cases there
            exact absurd (flowInHasTarget_of_recognize found isArrow) noTarget

end Zoop.Token
