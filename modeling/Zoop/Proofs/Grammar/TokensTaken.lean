import Zoop.Proofs.Grammar.Yield

/-!
# What the grammar takes

A parser takes the tokens of what it gives, in order, and leaves the rest.  Expressions take nothing
else; between and after statements line feeds are left out.
-/

namespace Zoop.Grammar

/-! ## Cursors -/

theorem expect_eq_ok
    {finish : Position} {accepts : Token → Bool} {cause : SyntaxCause} {tokens rest : List Token}
    {token : Token} (taken : expect finish accepts cause tokens = .ok (token, rest)) :
    tokens = token :: rest ∧ accepts token = true := by
  cases tokens with
  | nil => cases taken
  | cons first others =>
      rw [expect] at taken
      split at taken
      · next accepted =>
          cases taken
          exact ⟨rfl, accepted⟩
      · cases taken

theorem expectKind_eq_ok
    {finish : Position} {kind : TokenKind} {cause : SyntaxCause} {tokens rest : List Token}
    {token : Token} (taken : expectKind finish kind cause tokens = .ok (token, rest)) :
    tokens = token :: rest ∧ token.kind = kind := by
  obtain ⟨split, accepted⟩ := expect_eq_ok taken
  exact ⟨split, by simpa using accepted⟩

theorem expectType_eq_ok
    {finish : Position} {cause : SyntaxCause} {tokens rest : List Token} {type : DataType}
    (taken : expectType finish cause tokens = .ok (type, rest)) :
    ∃ word : Token, tokens = word :: rest ∧ word.typeKeyword? = some type := by
  cases tokens with
  | nil => cases taken
  | cons word others =>
      rw [expectType] at taken
      split at taken
      · next named =>
          cases taken
          exact ⟨word, rfl, named⟩
      · cases taken

theorem nextIs_eq_true
    {kind : TokenKind} {tokens : List Token} (next : nextIs kind tokens = true) :
    ∃ token rest, tokens = token :: rest ∧ token.kind = kind := by
  cases tokens with
  | nil => cases next
  | cons token rest => exact ⟨token, rest, rfl, by simpa [nextIs] using next⟩

theorem nextIsKeyword_eq_true
    {word : String} {tokens : List Token} (next : nextIsKeyword word tokens = true) :
    ∃ token rest, tokens = token :: rest ∧ token.isKeyword word = true := by
  cases tokens with
  | nil => cases next
  | cons token rest => exact ⟨token, rest, rfl, by simpa [nextIsKeyword] using next⟩

theorem names_of_variableOf
    {token : Token} {cause : SyntaxCause} {subject : Variable}
    (isVariable : token.kind = .variable) (found : variableOf token cause = .ok subject) :
    token.Names subject := by
  unfold variableOf at found
  split at found
  · cases found
  · next candidate text =>
      split at found
      · cases found
      · next nonempty =>
          cases found
          exact ⟨isVariable, text, by simpa using nonempty⟩

/-! ## Expressions -/

/-- What a parser takes are the tokens of what it gives. -/
def Parser.Takes {α : Type} (parser : Parser α) (Yields : α → List Token → Prop) : Prop :=
  ∀ {tokens rest : List Token} {value : α}, parser tokens = .ok (value, rest) →
    ∃ taken, tokens = taken ++ rest ∧ Yields value taken

theorem isBinary_of_operatorAt?
    {level : Nat} {token : Token} {operator : BinaryOperator}
    (found : operatorAt? level token = some operator) : token.IsBinary operator := by
  unfold operatorAt? at found
  split at found
  · next isOperator => exact ⟨isOperator, (Option.filter_eq_some_iff.mp found).1⟩
  · cases found

section Operators

variable {operand : Parser Expression} (operandTakes : operand.Takes Expression.Yields)

include operandTakes

theorem chainRest_takes
    {level bound : Nat} {left value : Expression} {leftTokens tokens rest : List Token}
    (leftYields : left.Yields leftTokens)
    (parsed : chainRest level operand bound left tokens = .ok (value, rest)) :
    ∃ taken, tokens = taken ++ rest ∧ value.Yields (leftTokens ++ taken) := by
  fun_induction chainRest level operand bound left tokens generalizing leftTokens with
  | case1 bound left =>
      cases parsed
      exact ⟨[], rfl, by rwa [List.append_nil]⟩
  | case2 bound left token tokens noOperator =>
      cases parsed
      exact ⟨[], rfl, by rwa [List.append_nil]⟩
  | case3 left token tokens operator found => cases parsed
  | case4 left token tokens operator found bound inductionHypothesis =>
      obtain ⟨⟨right, remaining⟩, rightParsed, parsed⟩ := Outcome.bind_eq_ok_iff.mp parsed
      obtain ⟨rightTokens, rightSplit, rightYields⟩ := operandTakes rightParsed
      have chained := leftYields.binary (isBinary_of_operatorAt? found) rightYields
      obtain ⟨taken, split, valueYields⟩ := inductionHypothesis right remaining chained parsed
      refine ⟨token :: (rightTokens ++ taken), ?_, ?_⟩
      · rw [rightSplit, split, List.cons_append, List.append_assoc]
      · simpa using valueYields

theorem chain_takes (level : Nat) : (chain level operand).Takes Expression.Yields := by
  intro tokens rest value parsed
  obtain ⟨⟨left, remaining⟩, leftParsed, parsed⟩ := Outcome.bind_eq_ok_iff.mp parsed
  obtain ⟨leftTokens, leftSplit, leftYields⟩ := operandTakes leftParsed
  obtain ⟨taken, split, valueYields⟩ := chainRest_takes operandTakes leftYields parsed
  exact ⟨leftTokens ++ taken, by rw [leftSplit, split, List.append_assoc], valueYields⟩

theorem tier_takes (tiers : Nat) : (tier operand tiers).Takes Expression.Yields := by
  induction tiers with
  | zero => exact operandTakes
  | succ tiers inductionHypothesis => exact chain_takes inductionHypothesis (6 - tiers)

theorem unary_takes : (unary operand).Takes Expression.Yields := by
  intro tokens
  induction tokens with
  | nil => exact operandTakes
  | cons token tokens inductionHypothesis =>
      intro rest value parsed
      rw [unary] at parsed
      split at parsed
      · next isPrefix =>
          split at parsed
          · cases parsed
          · next operator found =>
              obtain ⟨⟨inner, remaining⟩, innerParsed, parsed⟩ := Outcome.bind_eq_ok_iff.mp parsed
              cases parsed
              obtain ⟨taken, split, innerYields⟩ := inductionHypothesis innerParsed
              have isOperator : token.IsUnary operator := ⟨by simp_all, found⟩
              exact ⟨token :: taken, by rw [split, List.cons_append], .unary isOperator innerYields⟩
      · exact operandTakes parsed

end Operators

theorem casts_takes
    {inner value : Expression} {innerTokens tokens rest : List Token}
    (innerYields : inner.Yields innerTokens) (parsed : casts inner tokens = (value, rest)) :
    ∃ taken, tokens = taken ++ rest ∧ value.Yields (innerTokens ++ taken) := by
  fun_induction casts inner tokens generalizing innerTokens with
  | case1 inner mark word others type isType isMark inductionHypothesis =>
      have casted := innerYields.cast (by simpa using isMark) isType
      obtain ⟨taken, split, valueYields⟩ := inductionHypothesis casted parsed
      refine ⟨mark :: word :: taken, ?_, ?_⟩
      · rw [split, List.cons_append, List.cons_append]
      · simpa using valueYields
  | case2 inner mark word others noCast =>
      cases parsed
      exact ⟨[], rfl, by rwa [List.append_nil]⟩
  | case3 inner tokens short =>
      cases parsed
      exact ⟨[], rfl, by rwa [List.append_nil]⟩

section Primary

variable
    {finish : Position} {nested : Parser Expression}
    (nestedTakes : nested.Takes Expression.Yields)

theorem promptLabel?_takes (tokens : List Token) :
    (∃ prompt taken rest,
      promptLabel? tokens = some (prompt, rest) ∧ tokens = taken ++ rest ∧
        PromptYields (some prompt) taken) ∨
      promptLabel? tokens = none := by
  cases tokens with
  | nil => exact .inr rfl
  | cons token tokens =>
      rw [promptLabel?]
      by_cases isLabel : token.isLabel = true
      · rw [if_pos isLabel]
        cases hasValue : token.value with
        | none => exact .inr rfl
        | some value => exact .inl ⟨value.text, [token], tokens, rfl, rfl, .label isLabel hasValue⟩
      · rw [if_neg isLabel]
        exact .inr rfl

theorem input_takes
    {arrow : Token} {tokens rest : List Token} {value : Expression}
    (isArrow : arrow.kind = .input)
    (parsed : input finish arrow.position tokens = .ok (value, rest)) :
    ∃ taken, tokens = taken ++ rest ∧ value.Yields (arrow :: taken) := by
  unfold input at parsed
  extract_lets withPrompt at parsed
  -- however the data type is given, the rest of the input is the same
  have prompted : ∀ type remaining, withPrompt (type, remaining) = .ok (value, rest) →
      ∃ prompt taken, remaining = taken ++ rest ∧ PromptYields prompt taken ∧
        value = .input arrow.position type prompt := by
    intro type remaining ends
    rcases promptLabel?_takes remaining with ⟨prompt, taken, _, found, split, yields⟩ | found
    · simp only [withPrompt, found] at ends
      cases ends
      exact ⟨some prompt, taken, split, yields, rfl⟩
    · simp only [withPrompt, found] at ends
      cases ends
      exact ⟨none, [], rfl, .none, rfl⟩
  split at parsed
  · next hasColon =>
      obtain ⟨⟨type, remaining⟩, typeParsed, ends⟩ := Outcome.bind_eq_ok_iff.mp parsed
      obtain ⟨colon, others, split, isColon⟩ := nextIs_eq_true hasColon
      obtain ⟨word, wordSplit, isType⟩ := expectType_eq_ok typeParsed
      obtain ⟨prompt, taken, promptSplit, promptYields, rfl⟩ := prompted type remaining ends
      rw [split, List.tail_cons] at wordSplit
      refine ⟨colon :: word :: taken, ?_, .input isArrow (.named isColon isType) promptYields⟩
      rw [split, wordSplit, promptSplit, List.cons_append, List.cons_append]
  · obtain ⟨prompt, taken, promptSplit, promptYields, rfl⟩ := prompted .string tokens parsed
    exact ⟨taken, promptSplit, .input isArrow .text promptYields⟩

include nestedTakes

theorem arguments_takes (bound : Nat) : (arguments nested bound).Takes Expression.AllYield := by
  induction bound with
  | zero => exact nofun
  | succ bound inductionHypothesis =>
      intro tokens rest values parsed
      rw [arguments] at parsed
      split at parsed
      · obtain ⟨⟨first, remaining⟩, firstParsed, parsed⟩ := Outcome.bind_eq_ok_iff.mp parsed
        obtain ⟨⟨others, remaining⟩, othersParsed, parsed⟩ := Outcome.bind_eq_ok_iff.mp parsed
        cases parsed
        obtain ⟨firstTokens, firstSplit, firstYields⟩ := nestedTakes firstParsed
        obtain ⟨othersTokens, othersSplit, othersYield⟩ := inductionHypothesis othersParsed
        refine ⟨firstTokens ++ othersTokens, ?_, .cons firstYields othersYield⟩
        rw [firstSplit, othersSplit, List.append_assoc]
      · cases parsed
        exact ⟨[], rfl, .nil⟩

theorem call_takes
    {label word : Token} {tokens rest : List Token} {value : Expression}
    (isLabel : label.isLabel = true) (isDe : word.isKeyword "de" = true)
    (parsed : call nested label tokens = .ok (value, rest)) :
    ∃ taken, tokens = taken ++ rest ∧ value.Yields (label :: word :: taken) := by
  obtain ⟨⟨values, remaining⟩, valuesParsed, parsed⟩ := Outcome.bind_eq_ok_iff.mp parsed
  cases parsed
  obtain ⟨taken, split, argumentsYield⟩ := arguments_takes nestedTakes _ valuesParsed
  exact ⟨taken, split, .call isLabel isDe argumentsYield⟩

theorem assignment_takes
    {name : Token} {tokens rest : List Token} {value : Expression}
    (isVariable : name.kind = .variable) (starts : startsAssignment tokens = true)
    (parsed : assignment finish nested name tokens = .ok (value, rest)) :
    ∃ taken, tokens = taken ++ rest ∧ value.Yields (name :: taken) := by
  obtain ⟨subject, named, parsed⟩ := Outcome.bind_eq_ok_iff.mp parsed
  have names := names_of_variableOf isVariable named
  dsimp only at parsed
  split at parsed
  · next isReassigned =>
      obtain ⟨arrow, others, split, isArrow⟩ := nextIs_eq_true isReassigned
      split at parsed
      · next mutable =>
          obtain ⟨⟨inner, remaining⟩, innerParsed, parsed⟩ := Outcome.bind_eq_ok_iff.mp parsed
          cases parsed
          obtain ⟨taken, innerSplit, innerYields⟩ := nestedTakes innerParsed
          refine ⟨arrow :: taken, ?_, .reassign names mutable isArrow innerYields⟩
          rw [split, List.tail_cons] at innerSplit
          rw [split, innerSplit, List.cons_append]
      · cases parsed
  · next notReassigned =>
      obtain ⟨⟨type, remaining⟩, typeParsed, parsed⟩ := Outcome.bind_eq_ok_iff.mp parsed
      obtain ⟨⟨arrow, remaining⟩, arrowParsed, parsed⟩ := Outcome.bind_eq_ok_iff.mp parsed
      obtain ⟨⟨inner, remaining⟩, innerParsed, parsed⟩ := Outcome.bind_eq_ok_iff.mp parsed
      cases parsed
      cases tokens with
      | nil => cases starts
      | cons colon others =>
          -- what starts an assignment without its arrow has a colon there
          have isColon : colon.kind = .colon := by
            simp only [nextIs, List.head?_cons, Option.any_some] at notReassigned
            simp only [startsAssignment, notReassigned, Bool.false_or, Bool.and_eq_true] at starts
            simpa using starts.1
          have hasColon : nextIs .colon (colon :: others) = true := by simp [nextIs, isColon]
          rw [skipKind, if_pos hasColon, List.tail_cons] at typeParsed
          obtain ⟨word, typeSplit, isType⟩ := expectType_eq_ok typeParsed
          obtain ⟨arrowSplit, isArrow⟩ := expectKind_eq_ok arrowParsed
          obtain ⟨taken, innerSplit, innerYields⟩ := nestedTakes innerParsed
          refine ⟨colon :: word :: arrow :: taken, ?_,
            .declare names isColon isType isArrow innerYields⟩
          dsimp only at arrowSplit innerSplit
          rw [typeSplit, arrowSplit, innerSplit]
          rfl

theorem primary_takes : (primary finish nested).Takes Expression.Yields := by
  intro tokens rest value parsed
  cases tokens with
  | nil => cases parsed
  | cons token tokens =>
      rw [primary] at parsed
      split at parsed
      · next isLiteral =>
          split at parsed
          · next isCall =>
              simp only [Bool.and_eq_true] at isCall
              obtain ⟨word, others, split, isDe⟩ := nextIsKeyword_eq_true isCall.2
              rw [split, List.tail_cons] at parsed
              obtain ⟨taken, callSplit, valueYields⟩ :=
                call_takes nestedTakes isCall.1 isDe parsed
              exact ⟨token :: word :: taken, by rw [split, callSplit]; rfl, valueYields⟩
          · split at parsed
            · next literal stands =>
                cases parsed
                exact ⟨[token], rfl, .literal stands⟩
            · cases parsed
      · next isInput =>
          obtain ⟨taken, split, valueYields⟩ := input_takes isInput parsed
          exact ⟨token :: taken, by rw [split, List.cons_append], valueYields⟩
      · next isVariable =>
          split at parsed
          · next starts =>
              obtain ⟨taken, split, valueYields⟩ :=
                assignment_takes nestedTakes isVariable starts parsed
              exact ⟨token :: taken, by rw [split, List.cons_append], valueYields⟩
          · obtain ⟨subject, named, parsed⟩ := Outcome.bind_eq_ok_iff.mp parsed
            cases parsed
            exact ⟨[token], rfl, .reference (names_of_variableOf isVariable named)⟩
      · next opens =>
          obtain ⟨⟨inner, remaining⟩, innerParsed, parsed⟩ := Outcome.bind_eq_ok_iff.mp parsed
          obtain ⟨⟨closing, remaining⟩, closingParsed, parsed⟩ := Outcome.bind_eq_ok_iff.mp parsed
          cases parsed
          obtain ⟨taken, innerSplit, innerYields⟩ := nestedTakes innerParsed
          obtain ⟨closingSplit, closes⟩ := expectKind_eq_ok closingParsed
          refine ⟨token :: (taken ++ [closing]), ?_, .grouping opens innerYields closes⟩
          rw [innerSplit, closingSplit]
          simp
      · cases parsed

theorem castable_takes : (castable finish nested).Takes Expression.Yields := by
  intro tokens rest value parsed
  obtain ⟨⟨inner, remaining⟩, innerParsed, parsed⟩ := Outcome.bind_eq_ok_iff.mp parsed
  obtain ⟨innerTokens, innerSplit, innerYields⟩ := primary_takes nestedTakes innerParsed
  have casted : casts inner remaining = (value, rest) := by
    injection parsed
  obtain ⟨taken, split, valueYields⟩ := casts_takes innerYields casted
  exact ⟨innerTokens ++ taken, by rw [innerSplit, split, List.append_assoc], valueYields⟩

end Primary

theorem nestedExpression_takes (finish : Position) (depth : Nat) :
    (nestedExpression finish depth).Takes Expression.Yields := by
  induction depth with
  | zero => exact nofun
  | succ depth inductionHypothesis =>
      exact tier_takes (unary_takes (castable_takes inductionHypothesis)) 6

theorem expression_takes (finish : Position) :
    (expression finish).Takes Expression.Yields :=
  fun parsed => nestedExpression_takes finish _ parsed

/-! ## Line feeds between statements -/

/-- Tokens start with those that are kept, among which line feeds are left out, and go on with a
rest. -/
inductive Spaced : List Token → List Token → List Token → Prop
  | done (rest : List Token) : Spaced rest [] rest
  | keep {token : Token} {tokens kept rest : List Token} (later : Spaced tokens kept rest) :
      Spaced (token :: tokens) (token :: kept) rest
  | skip {token : Token} {tokens kept rest : List Token}
      (isNewLine : token.kind = .newLine) (later : Spaced tokens kept rest) :
      Spaced (token :: tokens) kept rest

namespace Spaced

theorem of_append (taken rest : List Token) : Spaced (taken ++ rest) taken rest := by
  induction taken with
  | nil => exact .done rest
  | cons token taken inductionHypothesis => exact .keep inductionHypothesis

theorem trans
    {tokens middle rest first second : List Token}
    (firstSpaced : Spaced tokens first middle) (secondSpaced : Spaced middle second rest) :
    Spaced tokens (first ++ second) rest := by
  induction firstSpaced with
  | done middle => exact secondSpaced
  | keep _ inductionHypothesis => exact .keep (inductionHypothesis secondSpaced)
  | skip isNewLine _ inductionHypothesis => exact .skip isNewLine (inductionHypothesis secondSpaced)

theorem of_skipNewLines
    {tokens kept rest : List Token} (spaced : Spaced (skipNewLines tokens) kept rest) :
    Spaced tokens kept rest := by
  induction tokens with
  | nil => exact spaced
  | cons token tokens inductionHypothesis =>
      by_cases isNewLine : token.kind = .newLine
      · refine .skip isNewLine (inductionHypothesis ?_)
        simpa [skipNewLines, isNewLine] using spaced
      · simpa [skipNewLines, isNewLine] using spaced

theorem skipNewLine
    {tokens kept rest : List Token} (spaced : Spaced tokens kept rest) :
    Spaced tokens kept (skipKind .newLine rest) := by
  unfold skipKind
  split
  · next next =>
      obtain ⟨token, others, rfl, isNewLine⟩ := nextIs_eq_true next
      simpa using spaced.trans (.skip isNewLine (.done others))
  · exact spaced

theorem subset
    {tokens kept rest : List Token} (spaced : Spaced tokens kept rest) :
    ∀ token ∈ kept, token ∈ tokens := by
  induction spaced with
  | done rest => exact nofun
  | keep _ inductionHypothesis =>
      intro token keeps
      rcases List.mem_cons.mp keeps with rfl | keepsLater
      · exact List.mem_cons_self
      · exact List.mem_cons_of_mem _ (inductionHypothesis token keepsLater)
  | skip _ _ inductionHypothesis =>
      intro token keeps
      exact List.mem_cons_of_mem _ (inductionHypothesis token keeps)

/-- What is kept of all tokens is all but the line feeds, if no line feed is kept. -/
theorem eq_filter
    {tokens kept : List Token} (spaced : Spaced tokens kept [])
    (noNewLine : ∀ token ∈ kept, token.kind ≠ .newLine) :
    kept = tokens.filter fun token => token.kind != .newLine := by
  generalize restIs : ([] : List Token) = rest at spaced
  induction spaced with
  | done rest =>
      rw [← restIs]
      rfl
  | keep _ inductionHypothesis =>
      obtain ⟨here, later⟩ := List.forall_mem_cons.mp noNewLine
      rw [List.filter_cons_of_pos (by simpa using here), ← inductionHypothesis later restIs]
  | skip isNewLine _ inductionHypothesis =>
      rw [List.filter_cons_of_neg (by simp [isNewLine])]
      exact inductionHypothesis noNewLine restIs

end Spaced

/-- What a parser takes are the tokens of what it gives and line feeds. -/
def Parser.TakesSpaced {α : Type} (parser : Parser α) (Yields : α → List Token → Prop) : Prop :=
  ∀ {tokens rest : List Token} {value : α}, parser tokens = .ok (value, rest) →
    ∃ kept, Spaced tokens kept rest ∧ Yields value kept

theorem Parser.Takes.spaced
    {α : Type} {parser : Parser α} {Yields : α → List Token → Prop} (takes : parser.Takes Yields) :
    parser.TakesSpaced Yields := by
  intro tokens rest value parsed
  obtain ⟨taken, split, yields⟩ := takes parsed
  rw [split]
  exact ⟨taken, .of_append taken rest, yields⟩

/-! ## Lines -/

theorem lineArrow_eq_ok
    {line : List Token} {kind : TokenKind} (found : lineArrow line = .ok (some kind)) :
    kind = .output ∨ kind = .flowOut := by
  unfold lineArrow at found
  dsimp only at found
  split at found <;> cases found
  · exact .inl rfl
  · exact .inr rfl

theorem lineStatement_takes (finish : Position) :
    (lineStatement finish).Takes Statement.Yields := by
  intro tokens rest statement parsed
  obtain ⟨arrow, arrowFound, parsed⟩ := Outcome.bind_eq_ok_iff.mp parsed
  obtain ⟨⟨value, remaining⟩, valueParsed, parsed⟩ := Outcome.bind_eq_ok_iff.mp parsed
  obtain ⟨taken, split, valueYields⟩ := expression_takes finish valueParsed
  cases arrow with
  | none =>
      cases parsed
      exact ⟨taken, split, .expression valueYields⟩
  | some kind =>
      obtain ⟨⟨token, remaining⟩, tokenParsed, parsed⟩ := Outcome.bind_eq_ok_iff.mp parsed
      obtain ⟨tokenSplit, isArrow⟩ := expectKind_eq_ok tokenParsed
      dsimp only at tokenSplit parsed
      have wholeSplit : tokens = (taken ++ [token]) ++ remaining := by
        rw [split, tokenSplit, List.append_assoc]
        rfl
      rcases lineArrow_eq_ok arrowFound with rfl | rfl
      · cases parsed
        exact ⟨taken ++ [token], wholeSplit, .print valueYields isArrow⟩
      · cases parsed
        exact ⟨taken ++ [token], wholeSplit, .giveBack valueYields isArrow⟩

/-! ## Bodies -/

section Nested

variable
    {finish : Position} {nested : StatementParser}
    (nestedTakes : ∀ place, (nested place).TakesSpaced Statement.Yields)

include nestedTakes

/-- Both kinds of bodies are read statement by statement up to a token that closes them. -/
theorem statementsUntil_takes
    (place : Place) {closes : Token → Prop} {parser : Nat → Parser (List Statement)}
    (unbounded : ∀ tokens, parser 0 tokens = .outOfFuel)
    (step : ∀ {bound tokens body rest}, parser (bound + 1) tokens = .ok (body, rest) →
      ∃ token others, skipNewLines tokens = token :: others ∧
        (closes token ∧ body = [] ∧ rest = others ∨
          ∃ first later remaining, nested place (token :: others) = .ok (first, remaining) ∧
            parser bound remaining = .ok (later, rest) ∧ body = first :: later))
    (bound : Nat) :
    (parser bound).TakesSpaced fun body kept =>
      ∃ inside last, kept = inside ++ [last] ∧ Statement.AllYield body inside ∧ closes last := by
  induction bound with
  | zero =>
      intro tokens rest body parsed
      rw [unbounded] at parsed
      cases parsed
  | succ bound inductionHypothesis =>
      intro tokens rest body parsed
      obtain ⟨token, others, afterLines, cases⟩ := step parsed
      rcases cases with
        ⟨closed, rfl, rfl⟩ | ⟨first, later, remaining, firstParsed, laterParsed, rfl⟩
      · refine ⟨[token], Spaced.of_skipNewLines ?_, [], token, rfl, .nil, closed⟩
        rw [afterLines]
        exact .keep (.done _)
      · obtain ⟨firstKept, firstSpaced, firstYields⟩ := nestedTakes place firstParsed
        obtain ⟨laterKept, laterSpaced, inside, last, split, laterYield, closed⟩ :=
          inductionHypothesis laterParsed
        refine ⟨firstKept ++ laterKept, Spaced.of_skipNewLines ?_, firstKept ++ inside, last,
          by rw [split, List.append_assoc], .cons firstYields laterYield, closed⟩
        rw [afterLines]
        exact firstSpaced.trans laterSpaced

theorem blockStatements_takes (opening : Position) (place : Place) (bound : Nat) :
    (blockStatements nested opening place bound).TakesSpaced fun body kept =>
      ∃ inside last, kept = inside ++ [last] ∧ Statement.AllYield body inside ∧
        last.kind = .blockClose := by
  refine statementsUntil_takes nestedTakes place (fun _ => rfl) ?_ bound
  intro bound tokens body rest parsed
  rw [blockStatements] at parsed
  split at parsed
  · cases parsed
  · next token others afterLines =>
      refine ⟨token, others, afterLines, ?_⟩
      split at parsed
      · next closed =>
          cases parsed
          exact .inl ⟨closed, rfl, rfl⟩
      · obtain ⟨⟨first, remaining⟩, firstParsed, parsed⟩ := Outcome.bind_eq_ok_iff.mp parsed
        obtain ⟨⟨later, remaining⟩, laterParsed, parsed⟩ := Outcome.bind_eq_ok_iff.mp parsed
        cases parsed
        exact .inr ⟨first, later, _, firstParsed, laterParsed, rfl⟩

theorem bodyStatements_takes
    (construct : Construct) (opening : Position) (place : Place) (bound : Nat) :
    (bodyStatements nested construct opening place bound).TakesSpaced fun body kept =>
      ∃ inside last, kept = inside ++ [last] ∧ Statement.AllYield body inside ∧
        last.isKeyword construct.closing = true := by
  refine statementsUntil_takes nestedTakes place (fun _ => rfl) ?_ bound
  intro bound tokens body rest parsed
  rw [bodyStatements] at parsed
  split at parsed
  · cases parsed
  · next token others afterLines =>
      refine ⟨token, others, afterLines, ?_⟩
      split at parsed
      · next closed =>
          cases parsed
          exact .inl ⟨closed, rfl, rfl⟩
      · obtain ⟨⟨first, remaining⟩, firstParsed, parsed⟩ := Outcome.bind_eq_ok_iff.mp parsed
        obtain ⟨⟨later, remaining⟩, laterParsed, parsed⟩ := Outcome.bind_eq_ok_iff.mp parsed
        cases parsed
        exact .inr ⟨first, later, _, firstParsed, laterParsed, rfl⟩

omit nestedTakes in
theorem lineEnd_spaced
    {construct : Construct} {tokens rest : List Token}
    (ended : lineEnd construct tokens = .ok rest) : Spaced tokens [] rest := by
  cases tokens with
  | nil =>
      cases ended
      exact .done []
  | cons token tokens =>
      rw [lineEnd] at ended
      split at ended
      · next isNewLine =>
          cases ended
          exact .skip isNewLine (.done _)
      · cases ended

theorem body_takes (construct : Construct) (opening : Position) (place : Place) :
    (body nested construct opening place).TakesSpaced (Statement.BodyYields construct) := by
  intro tokens rest statements parsed
  unfold body at parsed
  split at parsed
  · next isDirect =>
      obtain ⟨arrow, others, rfl, isArrow⟩ := nextIs_eq_true isDirect
      obtain ⟨⟨single, remaining⟩, singleParsed, parsed⟩ := Outcome.bind_eq_ok_iff.mp parsed
      cases parsed
      obtain ⟨kept, spaced, singleYields⟩ := nestedTakes place singleParsed
      exact ⟨arrow :: kept, (Spaced.keep spaced).skipNewLine, .direct isArrow singleYields⟩
  · obtain ⟨⟨inner, remaining⟩, innerParsed, parsed⟩ := Outcome.bind_eq_ok_iff.mp parsed
    obtain ⟨afterLine, ended, parsed⟩ := Outcome.bind_eq_ok_iff.mp parsed
    cases parsed
    obtain ⟨kept, spaced, inside, word, rfl, bodyYields, closes⟩ :=
      bodyStatements_takes nestedTakes construct opening place _ innerParsed
    refine ⟨inside ++ [word], ?_, .closed bodyYields closes⟩
    simpa using spaced.trans (lineEnd_spaced ended)

/-! ## Conditions -/

theorem branch_takes (construct : Construct) (opening : Position) (place : Place) :
    (branch finish nested construct opening place).TakesSpaced fun taken kept =>
      ∃ guard body guardTokens bodyTokens,
        taken = .mk opening guard body ∧ kept = guardTokens ++ bodyTokens ∧
          guard.Yields guardTokens ∧ Statement.BodyYields construct body bodyTokens := by
  intro tokens rest taken parsed
  obtain ⟨⟨guard, remaining⟩, guardParsed, parsed⟩ := Outcome.bind_eq_ok_iff.mp parsed
  obtain ⟨⟨inner, remaining⟩, bodyParsed, parsed⟩ := Outcome.bind_eq_ok_iff.mp parsed
  cases parsed
  obtain ⟨guardTokens, guardSpaced, guardYields⟩ :=
    Parser.Takes.spaced (expression_takes finish) guardParsed
  obtain ⟨bodyTokens, bodySpaced, bodyYields⟩ := body_takes nestedTakes _ _ _ bodyParsed
  exact ⟨guardTokens ++ bodyTokens, guardSpaced.trans bodySpaced, guard, inner, guardTokens,
    bodyTokens, rfl, rfl, guardYields, bodyYields⟩

theorem elifBranches_takes (place : Place) (bound : Nat) :
    (elifBranches finish nested place bound).TakesSpaced Branch.AllYield := by
  intro tokens rest branches parsed
  fun_induction elifBranches finish nested place bound tokens generalizing rest branches with
  | case1 bound =>
      cases parsed
      exact ⟨[], .done [], .nil⟩
  | case2 token tokens isElif => cases parsed
  | case3 token tokens isElif bound inductionHypothesis =>
      obtain ⟨⟨first, remaining⟩, firstParsed, parsed⟩ := Outcome.bind_eq_ok_iff.mp parsed
      obtain ⟨⟨later, remaining⟩, laterParsed, parsed⟩ := Outcome.bind_eq_ok_iff.mp parsed
      cases parsed
      obtain ⟨_, firstSpaced, guard, body, guardTokens, bodyTokens, rfl, rfl, guardYields,
        bodyYields⟩ := branch_takes nestedTakes _ _ _ firstParsed
      obtain ⟨laterKept, laterSpaced, laterYield⟩ := inductionHypothesis _ laterParsed
      refine ⟨token :: (guardTokens ++ (bodyTokens ++ laterKept)), ?_,
        .cons isElif guardYields bodyYields laterYield⟩
      simpa using (Spaced.keep firstSpaced).trans laterSpaced
  | case4 bound token tokens notElif =>
      cases parsed
      exact ⟨[], .done _, .nil⟩

theorem elseBody_takes (place : Place) :
    (elseBody nested place).TakesSpaced Statement.OtherwiseYields := by
  intro tokens rest otherwise parsed
  cases tokens with
  | nil =>
      cases parsed
      exact ⟨[], .done [], .none⟩
  | cons token tokens =>
      rw [elseBody] at parsed
      split at parsed
      · next isElse =>
          obtain ⟨⟨inner, remaining⟩, bodyParsed, parsed⟩ := Outcome.bind_eq_ok_iff.mp parsed
          cases parsed
          obtain ⟨kept, spaced, bodyYields⟩ := body_takes nestedTakes _ _ _ bodyParsed
          exact ⟨token :: kept, .keep spaced, .body isElse bodyYields⟩
      · cases parsed
        exact ⟨[], .done _, .none⟩

theorem condition_takes
    {word : Token} {place : Place} {tokens rest : List Token} {statement : Statement}
    (isIf : word.isKeyword "if" = true)
    (parsed : condition finish nested word.position place tokens = .ok (statement, rest)) :
    ∃ kept, Spaced tokens kept rest ∧ statement.Yields (word :: kept) := by
  obtain ⟨⟨first, remaining⟩, firstParsed, parsed⟩ := Outcome.bind_eq_ok_iff.mp parsed
  obtain ⟨⟨others, remaining⟩, othersParsed, parsed⟩ := Outcome.bind_eq_ok_iff.mp parsed
  obtain ⟨⟨otherwise, remaining⟩, otherwiseParsed, parsed⟩ := Outcome.bind_eq_ok_iff.mp parsed
  cases parsed
  obtain ⟨_, firstSpaced, guard, body, guardTokens, bodyTokens, rfl, rfl, guardYields,
    bodyYields⟩ := branch_takes nestedTakes _ _ _ firstParsed
  obtain ⟨othersTokens, othersSpaced, othersYield⟩ :=
    elifBranches_takes nestedTakes _ _ othersParsed
  obtain ⟨otherwiseTokens, otherwiseSpaced, otherwiseYields⟩ :=
    elseBody_takes nestedTakes _ otherwiseParsed
  refine ⟨guardTokens ++ (bodyTokens ++ (othersTokens ++ otherwiseTokens)), ?_,
    .condition isIf guardYields bodyYields othersYield otherwiseYields⟩
  simpa using (firstSpaced.trans othersSpaced).trans otherwiseSpaced

/-! ## Zoops -/

omit nestedTakes in
theorem parameter_eq_ok
    {tokens rest : List Token} {taken : Parameter}
    (parsed : parameter finish tokens = .ok (taken, rest)) :
    ∃ (name colon word : Token) (subject : Variable) (type : DataType),
      tokens = name :: colon :: word :: rest ∧ taken = ⟨subject.name, type⟩ ∧
        name.Names subject ∧ subject.mutable = false ∧ colon.kind = .colon ∧
        word.typeKeyword? = some type := by
  obtain ⟨⟨name, remaining⟩, nameParsed, parsed⟩ := Outcome.bind_eq_ok_iff.mp parsed
  obtain ⟨nameSplit, isVariable⟩ := expectKind_eq_ok nameParsed
  obtain ⟨subject, named, parsed⟩ := Outcome.bind_eq_ok_iff.mp parsed
  have names := names_of_variableOf isVariable named
  dsimp only at parsed
  split at parsed
  · cases parsed
  · next immutable =>
      obtain ⟨⟨colon, remaining⟩, colonParsed, parsed⟩ := Outcome.bind_eq_ok_iff.mp parsed
      obtain ⟨colonSplit, isColon⟩ := expectKind_eq_ok colonParsed
      obtain ⟨⟨type, remaining⟩, typeParsed, parsed⟩ := Outcome.bind_eq_ok_iff.mp parsed
      obtain ⟨word, typeSplit, isType⟩ := expectType_eq_ok typeParsed
      cases parsed
      dsimp only at colonSplit typeSplit
      refine ⟨name, colon, word, subject, type, ?_, rfl, names, by simpa using immutable, isColon,
        isType⟩
      rw [nameSplit, colonSplit, typeSplit]

omit nestedTakes in
theorem parameters_takes (finish : Position) (bound : Nat) :
    (parameters finish bound).Takes ParametersYield := by
  intro tokens rest taken parsed
  fun_induction parameters finish bound tokens generalizing rest taken with
  | case1 bound =>
      cases parsed
      exact ⟨[], rfl, .nil⟩
  | case2 bound token tokens ends =>
      cases parsed
      exact ⟨[], rfl, .nil⟩
  | case3 token tokens goesOn => cases parsed
  | case4 token tokens goesOn bound inductionHypothesis =>
      obtain ⟨⟨first, remaining⟩, firstParsed, parsed⟩ := Outcome.bind_eq_ok_iff.mp parsed
      obtain ⟨⟨later, remaining⟩, laterParsed, parsed⟩ := Outcome.bind_eq_ok_iff.mp parsed
      cases parsed
      obtain ⟨name, colon, word, subject, type, split, rfl, names, immutable, isColon, isType⟩ :=
        parameter_eq_ok firstParsed
      obtain ⟨laterTokens, laterSplit, laterYield⟩ := inductionHypothesis _ laterParsed
      refine ⟨name :: colon :: word :: laterTokens, ?_,
        .cons names immutable isColon isType laterYield⟩
      rw [split, laterSplit]
      rfl

omit nestedTakes in
theorem returnType_takes (finish : Position) :
    (returnType finish).Takes ReturnTypeYields := by
  intro tokens rest type parsed
  unfold returnType at parsed
  split at parsed
  · next hasColon =>
      obtain ⟨colon, others, rfl, isColon⟩ := nextIs_eq_true hasColon
      obtain ⟨⟨named, remaining⟩, typeParsed, parsed⟩ := Outcome.bind_eq_ok_iff.mp parsed
      cases parsed
      obtain ⟨word, split, isType⟩ := expectType_eq_ok typeParsed
      rw [List.tail_cons] at split
      exact ⟨[colon, word], by rw [split]; rfl, .named isColon isType⟩
  · cases parsed
    exact ⟨[], rfl, .none⟩

omit nestedTakes in
theorem routineLabel_eq_ok
    {tokens rest : List Token} {text : String}
    (parsed : routineLabel finish tokens = .ok (text, rest)) :
    ∃ (label : Token) (value : TokenValue), tokens = label :: rest ∧ label.isLabel = true ∧
      label.value = some value ∧ text = value.text := by
  obtain ⟨⟨label, remaining⟩, labelParsed, parsed⟩ := Outcome.bind_eq_ok_iff.mp parsed
  obtain ⟨split, isLabel⟩ := expect_eq_ok labelParsed
  dsimp only at parsed
  split at parsed
  · next value hasValue =>
      cases parsed
      exact ⟨label, value, split, isLabel, hasValue, rfl⟩
  · cases parsed

theorem routine_takes
    {word : Token} {tokens rest : List Token} {statement : Statement}
    (isZoop : word.isKeyword "zoop" = true)
    (parsed : routine finish nested word.position tokens = .ok (statement, rest)) :
    ∃ kept, Spaced tokens kept rest ∧ statement.Yields (word :: kept) := by
  obtain ⟨⟨type, afterType⟩, typeParsed, parsed⟩ := Outcome.bind_eq_ok_iff.mp parsed
  obtain ⟨⟨text, afterLabel⟩, labelParsed, parsed⟩ := Outcome.bind_eq_ok_iff.mp parsed
  obtain ⟨⟨arrow, afterArrow⟩, arrowParsed, parsed⟩ := Outcome.bind_eq_ok_iff.mp parsed
  obtain ⟨⟨taken, afterHead⟩, parametersParsed, parsed⟩ := Outcome.bind_eq_ok_iff.mp parsed
  obtain ⟨⟨inner, afterBody⟩, bodyParsed, parsed⟩ := Outcome.bind_eq_ok_iff.mp parsed
  cases parsed
  obtain ⟨typeTokens, typeSplit, typeYields⟩ := returnType_takes finish typeParsed
  obtain ⟨label, value, labelSplit, isLabel, hasValue, rfl⟩ := routineLabel_eq_ok labelParsed
  obtain ⟨arrowSplit, isArrow⟩ := expectKind_eq_ok arrowParsed
  obtain ⟨parameterTokens, parametersSplit, parametersYield⟩ :=
    parameters_takes finish _ parametersParsed
  obtain ⟨bodyTokens, bodySpaced, bodyYields⟩ := body_takes nestedTakes _ _ _ bodyParsed
  have headSplit : tokens = (typeTokens ++ label :: arrow :: parameterTokens) ++ afterHead := by
    rw [typeSplit, labelSplit, arrowSplit, parametersSplit]
    simp
  refine ⟨typeTokens ++ (label :: arrow :: (parameterTokens ++ bodyTokens)), ?_,
    .routine isZoop typeYields isLabel hasValue isArrow parametersYield bodyYields⟩
  have headSpaced := Spaced.of_append (typeTokens ++ label :: arrow :: parameterTokens) afterHead
  rw [headSplit]
  simpa using headSpaced.trans bodySpaced

/-! ## Statements -/

theorem statementWith_takes (place : Place) :
    (statementWith finish nested place).TakesSpaced Statement.Yields := by
  intro tokens rest statement parsed
  cases tokens with
  | nil => cases parsed
  | cons token tokens =>
      rw [statementWith] at parsed
      by_cases opens : token.kind = .blockOpen
      · rw [if_pos opens] at parsed
        obtain ⟨⟨inner, remaining⟩, innerParsed, parsed⟩ := Outcome.bind_eq_ok_iff.mp parsed
        cases parsed
        obtain ⟨_, spaced, inside, last, rfl, bodyYields, closes⟩ :=
          blockStatements_takes nestedTakes _ _ _ innerParsed
        exact ⟨token :: (inside ++ [last]), .keep spaced, .block opens bodyYields closes⟩
      rw [if_neg opens] at parsed
      by_cases isZoop : token.isKeyword "zoop" = true
      · rw [if_pos isZoop] at parsed
        split at parsed
        · obtain ⟨kept, spaced, yields⟩ := routine_takes nestedTakes isZoop parsed
          exact ⟨token :: kept, .keep spaced, yields⟩
        · cases parsed
      rw [if_neg isZoop] at parsed
      by_cases isIf : token.isKeyword "if" = true
      · rw [if_pos isIf] at parsed
        obtain ⟨kept, spaced, yields⟩ := condition_takes nestedTakes isIf parsed
        exact ⟨token :: kept, .keep spaced, yields⟩
      rw [if_neg isIf] at parsed
      by_cases isLoop : token.isKeyword "loop" = true
      · rw [if_pos isLoop] at parsed
        obtain ⟨⟨inner, remaining⟩, bodyParsed, parsed⟩ := Outcome.bind_eq_ok_iff.mp parsed
        cases parsed
        obtain ⟨kept, spaced, bodyYields⟩ := body_takes nestedTakes _ _ _ bodyParsed
        exact ⟨token :: kept, .keep spaced, .loop isLoop bodyYields⟩
      rw [if_neg isLoop] at parsed
      by_cases isEnd : token.isKeyword "end" = true
      · rw [if_pos isEnd] at parsed
        split at parsed
        · cases parsed
          exact ⟨[token], .keep (.done _), .leave isEnd⟩
        · cases parsed
      rw [if_neg isEnd] at parsed
      by_cases isDe : token.isKeyword "de" = true
      · rw [if_pos isDe] at parsed
        cases parsed
      rw [if_neg isDe] at parsed
      by_cases isArrow : token.kind = .flowOut
      · rw [if_pos isArrow] at parsed
        cases parsed
        exact ⟨[token], .keep (.done _), .giveNothingBack isArrow⟩
      · rw [if_neg isArrow] at parsed
        exact Parser.Takes.spaced (lineStatement_takes finish) parsed

end Nested

theorem nestedStatement_takes (finish : Position) (depth : Nat) (place : Place) :
    (nestedStatement finish depth place).TakesSpaced Statement.Yields := by
  induction depth generalizing place with
  | zero => exact nofun
  | succ depth inductionHypothesis => exact statementWith_takes inductionHypothesis place

/-! ## Programs -/

theorem topStatements_takes
    {finish : Position} {bound : Nat} {tokens : List Token} {statements : List Statement}
    (parsed : topStatements finish bound tokens = .ok statements) :
    ∃ kept, Spaced tokens kept [] ∧ Statement.AllYield statements kept := by
  induction bound generalizing tokens statements with
  | zero => cases parsed
  | succ bound inductionHypothesis =>
      rw [topStatements] at parsed
      split at parsed
      · next afterLines =>
          cases parsed
          refine ⟨[], Spaced.of_skipNewLines ?_, .nil⟩
          rw [afterLines]
          exact .done []
      · next token others afterLines =>
          obtain ⟨⟨first, remaining⟩, firstParsed, parsed⟩ := Outcome.bind_eq_ok_iff.mp parsed
          obtain ⟨later, laterParsed, parsed⟩ := Outcome.bind_eq_ok_iff.mp parsed
          cases parsed
          obtain ⟨firstKept, firstSpaced, firstYields⟩ :=
            nestedStatement_takes finish _ .top firstParsed
          obtain ⟨laterKept, laterSpaced, laterYield⟩ := inductionHypothesis laterParsed
          refine ⟨firstKept ++ laterKept, Spaced.of_skipNewLines ?_,
            .cons firstYields laterYield⟩
          rw [afterLines]
          exact firstSpaced.trans laterSpaced

end Zoop.Grammar

namespace Zoop.Program

/-- A program that is parsed is written with the tokens it is parsed from, but for comments and line
feeds. -/
theorem yields_of_parse
    {tokens : List Token} {program : Program} (parsed : parse tokens = .ok program) :
    ∃ kept, Grammar.Spaced (Grammar.significant tokens) kept [] ∧ program.Yields kept := by
  obtain ⟨statements, statementsParsed, wrapped⟩ :=
    Outcome.bind_eq_ok_iff.mp (program_of_parse parsed)
  cases wrapped
  exact Grammar.topStatements_takes statementsParsed

end Zoop.Program
