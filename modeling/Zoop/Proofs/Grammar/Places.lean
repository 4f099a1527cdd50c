import Zoop.Proofs.Grammar.TokensTaken
import Zoop.Proofs.Program.Occurrence

/-!
# The places of programs and of their errors

The grammar makes up no place: whatever it gives, leaves or refuses stands at the place of a token that
it has been given, or at the place that stands for the end.  One rule says how this passes through a
sequence, and each production follows from its parts.
-/

namespace Zoop

/-- Whether the places of an expression itself are among the given ones. -/
def Expression.isPlaced (places : List Position) : Expression → Bool
  | .binary position _ operatorPosition _ _ =>
      places.contains position && places.contains operatorPosition
  | tree => places.contains tree.position

/-- All expressions and statements stand at the given places. -/
def Condition.placed (places : List Position) : Condition :=
  ⟨Expression.isPlaced places, fun statement => places.contains statement.position⟩

theorem Expression.position_mem
    {places : List Position} {tree : Expression}
    (placed : (Condition.placed places).inExpression tree = true) : tree.position ∈ places := by
  have here := Condition.expression_of_inExpression placed
  cases tree <;> simp_all [Condition.placed, isPlaced, position]

namespace Grammar

/-- The places that the tokens of a source give: those of the tokens, and the start. -/
def placesOf (tokens : List Token) : List Position :=
  .start :: tokens.map Token.position

/-- The tokens are what is left of those of a source. -/
def IsLeft (source tokens : List Token) : Prop :=
  tokens <:+ source

/-- A result is good, or an error is at one of the places of the source. -/
inductive KeepsTo (source : List Token) {α : Type} (Good : α → Prop) : Outcome SyntaxError α → Prop
  | ok {value : α} (good : Good value) : KeepsTo source Good (.ok value)
  | error {cause : SyntaxCause} {position : Position} (isPlace : position ∈ placesOf source) :
      KeepsTo source Good (.error ⟨cause, position⟩)
  | outOfFuel : KeepsTo source Good .outOfFuel

/-- On what is left of a source, a parser gives good values, leaves a rest of it and refuses nothing
elsewhere. -/
def Parser.KeepsTo (source : List Token) {α : Type} (parser : Parser α) (Good : α → Prop) : Prop :=
  ∀ {tokens : List Token}, IsLeft source tokens →
    Grammar.KeepsTo source (fun result => Good result.1 ∧ IsLeft source result.2) (parser tokens)

variable {source : List Token}

namespace IsLeft

theorem mem
    {tokens : List Token} (isLeft : IsLeft source tokens) {token : Token} (member : token ∈ tokens) :
    token.position ∈ placesOf source :=
  List.mem_cons_of_mem _ (List.mem_map_of_mem (List.IsSuffix.mem member isLeft))

theorem head {token : Token} {rest : List Token} (isLeft : IsLeft source (token :: rest)) :
    token.position ∈ placesOf source :=
  isLeft.mem List.mem_cons_self

theorem of_suffix
    {tokens rest : List Token} (isLeft : IsLeft source tokens) (suffix : rest <:+ tokens) :
    IsLeft source rest :=
  suffix.trans isLeft

theorem tail {token : Token} {rest : List Token} (isLeft : IsLeft source (token :: rest)) :
    IsLeft source rest :=
  isLeft.of_suffix (List.suffix_cons token rest)

end IsLeft

/-- What follows a good value keeps to the places, so the sequence does. -/
theorem KeepsTo.bind
    {α β : Type} {Good : α → Prop} {Better : β → Prop} {outcome : Outcome SyntaxError α}
    {next : α → Outcome SyntaxError β} (first : KeepsTo source Good outcome)
    (later : ∀ value, Good value → KeepsTo source Better (next value)) :
    KeepsTo source Better (outcome >>= next) := by
  cases first with
  | ok good => exact later _ good
  | error isPlace => exact .error isPlace
  | outOfFuel => exact .outOfFuel

/-! ## Cursors -/

section Cursors

variable {finish : Position} (finishIsPlace : finish ∈ placesOf source)

include finishIsPlace

theorem expect_keepsTo (accepts : Token → Bool) (cause : SyntaxCause) :
    (expect finish accepts cause).KeepsTo source fun token => token.position ∈ placesOf source := by
  intro tokens isLeft
  cases tokens with
  | nil => exact .error finishIsPlace
  | cons token rest =>
      rw [expect]
      split
      · exact .ok ⟨isLeft.head, isLeft.tail⟩
      · exact .error isLeft.head

theorem expectType_keepsTo (cause : SyntaxCause) :
    (expectType finish cause).KeepsTo source fun _ => True := by
  intro tokens isLeft
  cases tokens with
  | nil => exact .error finishIsPlace
  | cons token rest =>
      rw [expectType]
      split
      · exact .ok ⟨trivial, isLeft.tail⟩
      · exact .error isLeft.head

end Cursors

theorem variableOf_keepsTo
    {token : Token} (isPlace : token.position ∈ placesOf source) (cause : SyntaxCause) :
    KeepsTo source (fun _ => True) (variableOf token cause) := by
  unfold variableOf
  split
  · exact .error isPlace
  · split
    · exact .error isPlace
    · exact .ok trivial

theorem skipKind_suffix (kind : TokenKind) (tokens : List Token) :
    skipKind kind tokens <:+ tokens := by
  unfold skipKind
  split
  · exact List.tail_suffix tokens
  · exact List.suffix_refl tokens

theorem skipNewLines_suffix (tokens : List Token) : skipNewLines tokens <:+ tokens :=
  List.dropWhile_suffix _

/-! ## Operators -/

/-- The expression and all that is inside it stand at places of the source. -/
def Placed (source : List Token) (tree : Expression) : Prop :=
  (Condition.placed (placesOf source)).inExpression tree = true

theorem placed_of_parts
    {tree : Expression} (here : tree.isPlaced (placesOf source) = true)
    (inside : ∀ part ∈ tree.parts, Placed source part) : Placed source tree := by
  have here : (Condition.placed (placesOf source)).expression tree = true := here
  have inside : (Condition.placed (placesOf source)).inArguments tree.parts = true := by
    rw [Condition.inArguments_eq_all, List.all_eq_true]
    exact inside
  unfold Placed
  cases tree <;> simp_all [Condition.inExpression, Condition.inArguments, Expression.parts]

section Operators

variable {operand : Parser Expression} (operandKeeps : operand.KeepsTo source (Placed source))

include operandKeeps

theorem chainRest_keepsTo
    {level bound : Nat} {left : Expression} {tokens : List Token} (leftPlaced : Placed source left)
    (isLeft : IsLeft source tokens) :
    KeepsTo source (fun result => Placed source result.1 ∧ IsLeft source result.2)
      (chainRest level operand bound left tokens) := by
  fun_induction chainRest level operand bound left tokens with
  | case1 bound left => exact .ok ⟨leftPlaced, isLeft⟩
  | case2 bound left token rest noOperator => exact .ok ⟨leftPlaced, isLeft⟩
  | case3 left token rest operator found => exact .outOfFuel
  | case4 left token rest operator found bound inductionHypothesis =>
      refine (operandKeeps isLeft.tail).bind ?_
      rintro ⟨right, remaining⟩ ⟨rightPlaced, remainingIsLeft⟩
      refine inductionHypothesis right remaining (placed_of_parts ?_ ?_) remainingIsLeft
      · have leftIsPlace := Expression.position_mem leftPlaced
        simp [Expression.isPlaced, leftIsPlace, isLeft.head]
      · exact List.forall_mem_cons.mpr ⟨leftPlaced, List.forall_mem_singleton.mpr rightPlaced⟩

theorem chain_keepsTo (level : Nat) : (chain level operand).KeepsTo source (Placed source) := by
  intro tokens isLeft
  refine (operandKeeps isLeft).bind ?_
  rintro ⟨left, remaining⟩ ⟨leftPlaced, remainingIsLeft⟩
  exact chainRest_keepsTo operandKeeps leftPlaced remainingIsLeft

theorem tier_keepsTo (tiers : Nat) : (tier operand tiers).KeepsTo source (Placed source) := by
  induction tiers with
  | zero => exact operandKeeps
  | succ tiers inductionHypothesis => exact chain_keepsTo inductionHypothesis (6 - tiers)

theorem unary_keepsTo : (unary operand).KeepsTo source (Placed source) := by
  intro tokens
  induction tokens with
  | nil => exact operandKeeps
  | cons token rest inductionHypothesis =>
      intro isLeft
      rw [unary]
      split
      · split
        · exact .error isLeft.head
        · refine (inductionHypothesis isLeft.tail).bind ?_
          rintro ⟨inner, remaining⟩ ⟨innerPlaced, remainingIsLeft⟩
          have here := List.contains_iff_mem.mpr isLeft.head
          exact .ok ⟨placed_of_parts here (List.forall_mem_singleton.mpr innerPlaced),
            remainingIsLeft⟩
      · exact operandKeeps isLeft

end Operators

theorem casts_placed
    {inner : Expression} {tokens : List Token} (innerPlaced : Placed source inner)
    (isLeft : IsLeft source tokens) :
    Placed source (casts inner tokens).1 ∧ IsLeft source (casts inner tokens).2 := by
  fun_induction casts inner tokens with
  | case1 inner mark word rest type isType isMark inductionHypothesis =>
      have here := List.contains_iff_mem.mpr isLeft.tail.head
      have casted : Placed source (.cast word.position type inner) :=
        placed_of_parts here (List.forall_mem_singleton.mpr innerPlaced)
      exact inductionHypothesis casted isLeft.tail.tail
  | case2 inner mark word rest noCast => exact ⟨innerPlaced, isLeft⟩
  | case3 inner tokens short => exact ⟨innerPlaced, isLeft⟩

/-! ## Primary expressions -/

section Primary

variable
    {finish : Position} {nested : Parser Expression} (finishIsPlace : finish ∈ placesOf source)
    (nestedKeeps : nested.KeepsTo source (Placed source))

theorem promptLabel?_suffix
    {tokens rest : List Token} {prompt : String}
    (found : promptLabel? tokens = some (prompt, rest)) : rest <:+ tokens := by
  rcases promptLabel?_takes tokens with ⟨_, taken, _, same, split, _⟩ | none
  · rw [found] at same
    cases same
    exact ⟨taken, split.symm⟩
  · rw [found] at none
    cases none

include finishIsPlace in
theorem input_keepsTo {position : Position} (isPlace : position ∈ placesOf source) :
    (input finish position).KeepsTo source (Placed source) := by
  intro tokens isLeft
  unfold input
  extract_lets withPrompt
  have here := List.contains_iff_mem.mpr isPlace
  have prompted : ∀ type remaining, IsLeft source remaining →
      KeepsTo source (fun result => Placed source result.1 ∧ IsLeft source result.2)
        (withPrompt (type, remaining)) := by
    intro type remaining remainingIsLeft
    dsimp only [withPrompt]
    split
    · next found =>
        exact .ok ⟨placed_of_parts here (List.forall_mem_nil _),
          remainingIsLeft.of_suffix (promptLabel?_suffix found)⟩
    · exact .ok ⟨placed_of_parts here (List.forall_mem_nil _), remainingIsLeft⟩
  split
  · refine (expectType_keepsTo finishIsPlace _ (isLeft.of_suffix (List.tail_suffix _))).bind ?_
    rintro ⟨type, remaining⟩ ⟨_, remainingIsLeft⟩
    exact prompted type remaining remainingIsLeft
  · exact prompted .string tokens isLeft

include nestedKeeps

theorem arguments_keepsTo (bound : Nat) :
    (arguments nested bound).KeepsTo source fun values => ∀ value ∈ values, Placed source value := by
  induction bound with
  | zero => exact fun _ => .outOfFuel
  | succ bound inductionHypothesis =>
      intro tokens isLeft
      rw [arguments]
      split
      · refine (nestedKeeps isLeft).bind ?_
        rintro ⟨first, remaining⟩ ⟨firstPlaced, remainingIsLeft⟩
        refine (inductionHypothesis remainingIsLeft).bind ?_
        rintro ⟨others, remaining⟩ ⟨othersPlaced, remainingIsLeft⟩
        exact .ok ⟨List.forall_mem_cons.mpr ⟨firstPlaced, othersPlaced⟩, remainingIsLeft⟩
      · exact .ok ⟨List.forall_mem_nil _, isLeft⟩

theorem call_keepsTo {label : Token} (isPlace : label.position ∈ placesOf source) :
    (call nested label).KeepsTo source (Placed source) := by
  intro tokens isLeft
  refine (arguments_keepsTo nestedKeeps _ isLeft).bind ?_
  rintro ⟨values, remaining⟩ ⟨valuesPlaced, remainingIsLeft⟩
  have here := List.contains_iff_mem.mpr isPlace
  exact .ok ⟨placed_of_parts here valuesPlaced, remainingIsLeft⟩

include finishIsPlace

theorem assignment_keepsTo {token : Token} (isPlace : token.position ∈ placesOf source) :
    (assignment finish nested token).KeepsTo source (Placed source) := by
  intro tokens isLeft
  have here := List.contains_iff_mem.mpr isPlace
  refine (variableOf_keepsTo isPlace _).bind ?_
  intro subject _
  dsimp only
  split
  · split
    · refine (nestedKeeps (isLeft.of_suffix (List.tail_suffix _))).bind ?_
      rintro ⟨value, remaining⟩ ⟨valuePlaced, remainingIsLeft⟩
      exact .ok ⟨placed_of_parts here (List.forall_mem_singleton.mpr valuePlaced),
        remainingIsLeft⟩
    · exact .error isPlace
  · have typeIsLeft := isLeft.of_suffix (skipKind_suffix .colon tokens)
    refine (expectType_keepsTo finishIsPlace _ typeIsLeft).bind ?_
    rintro ⟨type, remaining⟩ ⟨_, remainingIsLeft⟩
    refine (expect_keepsTo finishIsPlace _ _ remainingIsLeft).bind ?_
    rintro ⟨arrow, remaining⟩ ⟨_, remainingIsLeft⟩
    refine (nestedKeeps remainingIsLeft).bind ?_
    rintro ⟨value, remaining⟩ ⟨valuePlaced, remainingIsLeft⟩
    exact .ok ⟨placed_of_parts here (List.forall_mem_singleton.mpr valuePlaced), remainingIsLeft⟩

theorem primary_keepsTo : (primary finish nested).KeepsTo source (Placed source) := by
  intro tokens isLeft
  cases tokens with
  | nil => exact .error finishIsPlace
  | cons token rest =>
      have here := List.contains_iff_mem.mpr isLeft.head
      rw [primary]
      split
      · split
        · exact call_keepsTo nestedKeeps isLeft.head (isLeft.tail.of_suffix (List.tail_suffix _))
        · split
          · exact .ok ⟨placed_of_parts here (List.forall_mem_nil _), isLeft.tail⟩
          · exact .error isLeft.head
      · exact input_keepsTo finishIsPlace isLeft.head isLeft.tail
      · split
        · exact assignment_keepsTo finishIsPlace nestedKeeps isLeft.head isLeft.tail
        · refine (variableOf_keepsTo isLeft.head _).bind ?_
          intro subject _
          exact .ok ⟨placed_of_parts here (List.forall_mem_nil _), isLeft.tail⟩
      · refine (nestedKeeps isLeft.tail).bind ?_
        rintro ⟨inner, remaining⟩ ⟨innerPlaced, remainingIsLeft⟩
        refine (expect_keepsTo finishIsPlace _ _ remainingIsLeft).bind ?_
        rintro ⟨closing, remaining⟩ ⟨_, remainingIsLeft⟩
        exact .ok ⟨placed_of_parts here (List.forall_mem_singleton.mpr innerPlaced),
          remainingIsLeft⟩
      · exact .error isLeft.head

theorem castable_keepsTo : (castable finish nested).KeepsTo source (Placed source) := by
  intro tokens isLeft
  refine (primary_keepsTo finishIsPlace nestedKeeps isLeft).bind ?_
  rintro ⟨inner, remaining⟩ ⟨innerPlaced, remainingIsLeft⟩
  exact .ok (casts_placed innerPlaced remainingIsLeft)

end Primary

theorem nestedExpression_keepsTo
    {finish : Position} (finishIsPlace : finish ∈ placesOf source) (depth : Nat) :
    (nestedExpression finish depth).KeepsTo source (Placed source) := by
  induction depth with
  | zero => exact fun _ => .outOfFuel
  | succ depth inductionHypothesis =>
      exact tier_keepsTo (unary_keepsTo (castable_keepsTo finishIsPlace inductionHypothesis)) 6

theorem expression_keepsTo {finish : Position} (finishIsPlace : finish ∈ placesOf source) :
    (expression finish).KeepsTo source (Placed source) :=
  fun isLeft => nestedExpression_keepsTo finishIsPlace _ isLeft

/-! ## Lines -/

/-- An arrow that is found stands in the line. -/
theorem lineArrow_keepsTo
    {line : List Token} (inSource : ∀ token ∈ line, token.position ∈ placesOf source) :
    KeepsTo source (fun _ => True) (lineArrow line) := by
  have inLine : ∀ (kind : TokenKind) {arrow : Token} {others : List Token},
      line.dropWhile (fun token => token.kind != kind) = arrow :: others →
      arrow.position ∈ placesOf source := by
    intro kind arrow others found
    have suffix : arrow :: others <:+ line := by
      rw [← found]
      exact List.dropWhile_suffix _
    exact inSource arrow (suffix.mem List.mem_cons_self)
  unfold lineArrow
  dsimp only
  split
  · exact .ok trivial
  · next found => exact .error (inLine _ found)
  · exact .ok trivial
  · next found _ => exact .error (inLine _ found)
  · exact .ok trivial
  · next found => exact .error (inLine _ found)

/-! ## The heads of zoops -/

section Heads

variable {finish : Position} (finishIsPlace : finish ∈ placesOf source)

include finishIsPlace

theorem parameter_keepsTo : (parameter finish).KeepsTo source fun _ => True := by
  intro tokens isLeft
  refine (expect_keepsTo finishIsPlace _ _ isLeft).bind ?_
  rintro ⟨token, remaining⟩ ⟨isPlace, remainingIsLeft⟩
  refine (variableOf_keepsTo isPlace _).bind ?_
  intro subject _
  dsimp only
  split
  · exact .error isPlace
  · refine (expect_keepsTo finishIsPlace _ _ remainingIsLeft).bind ?_
    rintro ⟨colon, remaining⟩ ⟨_, remainingIsLeft⟩
    refine (expectType_keepsTo finishIsPlace _ remainingIsLeft).bind ?_
    rintro ⟨type, remaining⟩ ⟨_, remainingIsLeft⟩
    exact .ok ⟨trivial, remainingIsLeft⟩

theorem parameters_keepsTo (bound : Nat) :
    (parameters finish bound).KeepsTo source fun _ => True := by
  intro tokens isLeft
  fun_induction parameters finish bound tokens with
  | case1 bound => exact .ok ⟨trivial, isLeft⟩
  | case2 bound token rest ends => exact .ok ⟨trivial, isLeft⟩
  | case3 token rest goesOn => exact .outOfFuel
  | case4 token rest goesOn bound inductionHypothesis =>
      refine (parameter_keepsTo finishIsPlace isLeft).bind ?_
      rintro ⟨first, remaining⟩ ⟨_, remainingIsLeft⟩
      refine (inductionHypothesis remaining remainingIsLeft).bind ?_
      rintro ⟨others, remaining⟩ ⟨_, remainingIsLeft⟩
      exact .ok ⟨trivial, remainingIsLeft⟩

theorem routineLabel_keepsTo : (routineLabel finish).KeepsTo source fun _ => True := by
  intro tokens isLeft
  refine (expect_keepsTo finishIsPlace _ _ isLeft).bind ?_
  rintro ⟨token, remaining⟩ ⟨isPlace, remainingIsLeft⟩
  dsimp only
  split
  · exact .ok ⟨trivial, remainingIsLeft⟩
  · exact .error isPlace

theorem returnType_keepsTo : (returnType finish).KeepsTo source fun _ => True := by
  intro tokens isLeft
  unfold returnType
  split
  · refine (expectType_keepsTo finishIsPlace _ (isLeft.of_suffix (List.tail_suffix _))).bind ?_
    rintro ⟨type, remaining⟩ ⟨_, remainingIsLeft⟩
    exact .ok ⟨trivial, remainingIsLeft⟩
  · exact .ok ⟨trivial, isLeft⟩

end Heads

/-! ## Statements

What holds of all expressions that are parsed from a source, and of all statements that stand at its
places, holds everywhere in its program. -/

/-- The condition is met by all that is parsed from what is left of a source. -/
structure Met (test : Condition) (source : List Token) (finish : Position) : Prop where
  finishIsPlace : finish ∈ placesOf source
  expression : ∀ {tokens rest : List Token} {value : Expression},
    IsLeft source tokens → expression finish tokens = .ok (value, rest) →
      test.inExpression value = true
  statement : ∀ {statement : Statement},
    statement.position ∈ placesOf source → test.statement statement = true

section Statements

variable {test : Condition} {finish : Position} (met : Met test source finish)

theorem inStatements_cons
    {first : Statement} {others : List Statement} (firstMeets : test.inStatement first = true)
    (othersMeet : test.inStatements others = true) : test.inStatements (first :: others) = true := by
  rw [Condition.inStatements, Bool.and_eq_true]
  exact ⟨firstMeets, othersMeet⟩

include met

theorem expression_meets :
    (expression finish).KeepsTo source fun value =>
      test.inExpression value = true ∧ value.position ∈ placesOf source := by
  intro tokens isLeft
  have keeps := expression_keepsTo met.finishIsPlace isLeft
  cases parsed : expression finish tokens with
  | ok result =>
      rw [parsed] at keeps
      cases keeps with
      | ok good =>
          exact .ok ⟨⟨met.expression isLeft parsed, Expression.position_mem good.1⟩, good.2⟩
  | error error =>
      rw [parsed] at keeps
      cases keeps with
      | error isPlace => exact .error isPlace
  | fault =>
      rw [parsed] at keeps
      cases keeps
  | outOfFuel => exact .outOfFuel

theorem lineStatement_keepsTo :
    (lineStatement finish).KeepsTo source (test.inStatement · = true) := by
  intro tokens isLeft
  have inSource : ∀ token ∈ tokens.takeWhile fun token => !endsLine token,
      token.position ∈ placesOf source :=
    fun token member => isLeft.mem ((List.takeWhile_prefix _).mem member)
  refine (lineArrow_keepsTo inSource).bind ?_
  intro arrow _
  refine (expression_meets met isLeft).bind ?_
  rintro ⟨value, remaining⟩ ⟨⟨valueMeets, valueIsPlace⟩, remainingIsLeft⟩
  cases arrow with
  | none =>
      exact .ok ⟨Bool.and_eq_true_iff.mpr ⟨met.statement valueIsPlace, valueMeets⟩, remainingIsLeft⟩
  | some kind =>
      refine (expect_keepsTo met.finishIsPlace _ _ remainingIsLeft).bind ?_
      rintro ⟨token, remaining⟩ ⟨isPlace, remainingIsLeft⟩
      dsimp only
      split
      · exact .ok ⟨Bool.and_eq_true_iff.mpr ⟨met.statement isPlace, valueMeets⟩, remainingIsLeft⟩
      · exact .ok ⟨Bool.and_eq_true_iff.mpr ⟨met.statement isPlace, valueMeets⟩, remainingIsLeft⟩

/-! ### Bodies -/

variable
    {nested : StatementParser}
    (nestedKeeps : ∀ place, (nested place).KeepsTo source (test.inStatement · = true))

include nestedKeeps

omit met in
/-- A statement and the statements after it meet the condition if each part does. -/
theorem firstThenOthers_keepsTo
    {place : Place} {others : Parser (List Statement)}
    (othersKeep : others.KeepsTo source (test.inStatements · = true)) :
    Parser.KeepsTo source
      (fun tokens => do
        let (first, rest) ← nested place tokens
        let (others, rest) ← others rest
        return (first :: others, rest))
      (test.inStatements · = true) := by
  intro tokens isLeft
  refine (nestedKeeps place isLeft).bind ?_
  rintro ⟨first, remaining⟩ ⟨firstMeets, remainingIsLeft⟩
  refine (othersKeep remainingIsLeft).bind ?_
  rintro ⟨others, remaining⟩ ⟨othersMeet, remainingIsLeft⟩
  exact .ok ⟨inStatements_cons firstMeets othersMeet, remainingIsLeft⟩

omit met in
theorem blockStatements_keepsTo
    {opening : Position} (isPlace : opening ∈ placesOf source) (place : Place) (bound : Nat) :
    (blockStatements nested opening place bound).KeepsTo source (test.inStatements · = true) := by
  induction bound with
  | zero => exact fun _ => .outOfFuel
  | succ bound inductionHypothesis =>
      intro tokens isLeft
      have afterLines := isLeft.of_suffix (skipNewLines_suffix tokens)
      rw [blockStatements]
      split
      · exact .error isPlace
      · next token rest split =>
          rw [split] at afterLines
          split
          · exact .ok ⟨rfl, afterLines.tail⟩
          · exact firstThenOthers_keepsTo nestedKeeps inductionHypothesis afterLines

omit met in
theorem bodyStatements_keepsTo
    (construct : Construct) {opening : Position} (isPlace : opening ∈ placesOf source) (place : Place)
    (bound : Nat) :
    (bodyStatements nested construct opening place bound).KeepsTo source (test.inStatements · = true) := by
  induction bound with
  | zero => exact fun _ => .outOfFuel
  | succ bound inductionHypothesis =>
      intro tokens isLeft
      have afterLines := isLeft.of_suffix (skipNewLines_suffix tokens)
      rw [bodyStatements]
      split
      · exact .error isPlace
      · next token rest split =>
          rw [split] at afterLines
          split
          · exact .ok ⟨rfl, afterLines.tail⟩
          · exact firstThenOthers_keepsTo nestedKeeps inductionHypothesis afterLines

omit met nestedKeeps in
theorem lineEnd_keepsTo
    (construct : Construct) {tokens : List Token} (isLeft : IsLeft source tokens) :
    KeepsTo source (IsLeft source) (lineEnd construct tokens) := by
  cases tokens with
  | nil => exact .ok isLeft
  | cons token rest =>
      rw [lineEnd]
      split
      · exact .ok isLeft.tail
      · exact .error isLeft.head

omit met in
theorem body_keepsTo
    (construct : Construct) {opening : Position} (isPlace : opening ∈ placesOf source) (place : Place) :
    (body nested construct opening place).KeepsTo source (test.inStatements · = true) := by
  intro tokens isLeft
  unfold body
  split
  · refine (nestedKeeps place (isLeft.of_suffix (List.tail_suffix _))).bind ?_
    rintro ⟨single, remaining⟩ ⟨singleMeets, remainingIsLeft⟩
    exact .ok ⟨inStatements_cons singleMeets rfl,
      remainingIsLeft.of_suffix (skipKind_suffix .newLine remaining)⟩
  · refine (bodyStatements_keepsTo nestedKeeps construct isPlace place _ isLeft).bind ?_
    rintro ⟨statements, remaining⟩ ⟨statementsMeet, remainingIsLeft⟩
    refine (lineEnd_keepsTo construct remainingIsLeft).bind ?_
    intro rest restIsLeft
    exact .ok ⟨statementsMeet, restIsLeft⟩

/-! ### Conditions -/

theorem branch_keepsTo
    (construct : Construct) {opening : Position} (isPlace : opening ∈ placesOf source) (place : Place) :
    (branch finish nested construct opening place).KeepsTo source fun branch =>
      test.inBranch branch = true := by
  intro tokens isLeft
  refine (expression_meets met isLeft).bind ?_
  rintro ⟨guard, remaining⟩ ⟨⟨guardMeets, _⟩, remainingIsLeft⟩
  refine (body_keepsTo nestedKeeps construct isPlace place remainingIsLeft).bind ?_
  rintro ⟨statements, remaining⟩ ⟨statementsMeet, remainingIsLeft⟩
  exact .ok ⟨Bool.and_eq_true_iff.mpr ⟨guardMeets, statementsMeet⟩, remainingIsLeft⟩

theorem elifBranches_keepsTo (place : Place) (bound : Nat) :
    (elifBranches finish nested place bound).KeepsTo source fun branches =>
      test.inBranches branches = true := by
  intro tokens isLeft
  fun_induction elifBranches finish nested place bound tokens with
  | case1 bound => exact .ok ⟨rfl, isLeft⟩
  | case2 token rest isElif => exact .outOfFuel
  | case3 token rest isElif bound inductionHypothesis =>
      refine (branch_keepsTo met nestedKeeps _ isLeft.head place isLeft.tail).bind ?_
      rintro ⟨first, remaining⟩ ⟨firstMeets, remainingIsLeft⟩
      refine (inductionHypothesis remaining remainingIsLeft).bind ?_
      rintro ⟨others, remaining⟩ ⟨othersMeet, remainingIsLeft⟩
      exact .ok ⟨Bool.and_eq_true_iff.mpr ⟨firstMeets, othersMeet⟩, remainingIsLeft⟩
  | case4 bound token rest notElif => exact .ok ⟨rfl, isLeft⟩

omit met in
theorem elseBody_keepsTo (place : Place) :
    (elseBody nested place).KeepsTo source fun otherwise =>
      test.inOtherwise otherwise = true := by
  intro tokens isLeft
  cases tokens with
  | nil => exact .ok ⟨rfl, isLeft⟩
  | cons token rest =>
      rw [elseBody]
      split
      · refine (body_keepsTo nestedKeeps _ isLeft.head place isLeft.tail).bind ?_
        rintro ⟨statements, remaining⟩ ⟨statementsMeet, remainingIsLeft⟩
        exact .ok ⟨statementsMeet, remainingIsLeft⟩
      · exact .ok ⟨rfl, isLeft⟩

theorem condition_keepsTo {opening : Position} (isPlace : opening ∈ placesOf source) (place : Place) :
    (condition finish nested opening place).KeepsTo source (test.inStatement · = true) := by
  intro tokens isLeft
  refine (branch_keepsTo met nestedKeeps _ isPlace place isLeft).bind ?_
  rintro ⟨first, remaining⟩ ⟨firstMeets, remainingIsLeft⟩
  refine (elifBranches_keepsTo met nestedKeeps place _ remainingIsLeft).bind ?_
  rintro ⟨others, remaining⟩ ⟨othersMeet, remainingIsLeft⟩
  refine (elseBody_keepsTo nestedKeeps place remainingIsLeft).bind ?_
  rintro ⟨otherwise, remaining⟩ ⟨otherwiseMeets, remainingIsLeft⟩
  refine .ok ⟨?_, remainingIsLeft⟩
  simp only [Condition.inStatement, Bool.and_eq_true]
  exact ⟨met.statement isPlace, firstMeets, othersMeet, otherwiseMeets⟩

/-! ### Zoops -/

theorem routine_keepsTo {opening : Position} (isPlace : opening ∈ placesOf source) :
    (routine finish nested opening).KeepsTo source (test.inStatement · = true) := by
  intro tokens isLeft
  refine (returnType_keepsTo met.finishIsPlace isLeft).bind ?_
  rintro ⟨type, remaining⟩ ⟨_, remainingIsLeft⟩
  refine (routineLabel_keepsTo met.finishIsPlace remainingIsLeft).bind ?_
  rintro ⟨label, remaining⟩ ⟨_, remainingIsLeft⟩
  refine (expect_keepsTo met.finishIsPlace _ _ remainingIsLeft).bind ?_
  rintro ⟨arrow, remaining⟩ ⟨_, remainingIsLeft⟩
  refine (parameters_keepsTo met.finishIsPlace _ remainingIsLeft).bind ?_
  rintro ⟨taken, remaining⟩ ⟨_, remainingIsLeft⟩
  refine (body_keepsTo nestedKeeps _ isPlace _ remainingIsLeft).bind ?_
  rintro ⟨statements, remaining⟩ ⟨statementsMeet, remainingIsLeft⟩
  exact .ok ⟨Bool.and_eq_true_iff.mpr ⟨met.statement isPlace, statementsMeet⟩, remainingIsLeft⟩

/-! ### Statements -/

theorem statementWith_keepsTo (place : Place) :
    (statementWith finish nested place).KeepsTo source (test.inStatement · = true) := by
  intro tokens isLeft
  cases tokens with
  | nil => exact .error met.finishIsPlace
  | cons token rest =>
      have isPlace := isLeft.head
      rw [statementWith]
      by_cases opens : token.kind = .blockOpen
      · rw [if_pos opens]
        refine (blockStatements_keepsTo nestedKeeps isPlace _ _ isLeft.tail).bind ?_
        rintro ⟨statements, remaining⟩ ⟨statementsMeet, remainingIsLeft⟩
        exact .ok ⟨Bool.and_eq_true_iff.mpr ⟨met.statement isPlace, statementsMeet⟩, remainingIsLeft⟩
      rw [if_neg opens]
      by_cases isZoop : token.isKeyword "zoop" = true
      · rw [if_pos isZoop]
        split
        · exact routine_keepsTo met nestedKeeps isPlace isLeft.tail
        · exact .error isPlace
      rw [if_neg isZoop]
      by_cases isIf : token.isKeyword "if" = true
      · rw [if_pos isIf]
        exact condition_keepsTo met nestedKeeps isPlace _ isLeft.tail
      rw [if_neg isIf]
      by_cases isLoop : token.isKeyword "loop" = true
      · rw [if_pos isLoop]
        refine (body_keepsTo nestedKeeps _ isPlace _ isLeft.tail).bind ?_
        rintro ⟨statements, remaining⟩ ⟨statementsMeet, remainingIsLeft⟩
        exact .ok ⟨Bool.and_eq_true_iff.mpr ⟨met.statement isPlace, statementsMeet⟩, remainingIsLeft⟩
      rw [if_neg isLoop]
      by_cases isEnd : token.isKeyword "end" = true
      · rw [if_pos isEnd]
        split
        · exact .ok ⟨met.statement isPlace, isLeft.tail⟩
        · exact .error isPlace
      rw [if_neg isEnd]
      by_cases isDe : token.isKeyword "de" = true
      · rw [if_pos isDe]
        exact .error isPlace
      rw [if_neg isDe]
      by_cases isArrow : token.kind = .flowOut
      · rw [if_pos isArrow]
        exact .ok ⟨met.statement isPlace, isLeft.tail⟩
      · rw [if_neg isArrow]
        exact lineStatement_keepsTo met isLeft

omit nestedKeeps in
theorem nestedStatement_keepsTo (depth : Nat) (place : Place) :
    (nestedStatement finish depth place).KeepsTo source (test.inStatement · = true) := by
  induction depth generalizing place with
  | zero => exact fun _ => .outOfFuel
  | succ depth inductionHypothesis =>
      exact statementWith_keepsTo met inductionHypothesis place

/-! ### Programs -/

omit nestedKeeps in
theorem topStatements_keepsTo (bound : Nat) {tokens : List Token} (isLeft : IsLeft source tokens) :
    KeepsTo source (test.inStatements · = true) (topStatements finish bound tokens) := by
  induction bound generalizing tokens with
  | zero => exact .outOfFuel
  | succ bound inductionHypothesis =>
      have afterLines := isLeft.of_suffix (skipNewLines_suffix tokens)
      rw [topStatements]
      split
      · exact .ok rfl
      · next token rest split =>
          rw [split] at afterLines
          refine (nestedStatement_keepsTo met _ .top afterLines).bind ?_
          rintro ⟨first, remaining⟩ ⟨firstMeets, remainingIsLeft⟩
          refine (inductionHypothesis remainingIsLeft).bind ?_
          intro others othersMeet
          exact .ok (inStatements_cons firstMeets othersMeet)

end Statements

theorem finishOf_mem (source : List Token) : finishOf source ∈ placesOf source := by
  unfold finishOf
  cases last : source.getLast? with
  | none => exact List.mem_cons_self
  | some token => exact IsLeft.mem (List.suffix_refl source) (List.mem_of_getLast? last)

theorem program_keepsTo
    {test : Condition} {tokens : List Token}
    (met : Met test (significant tokens) (finishOf (significant tokens))) :
    KeepsTo (significant tokens) (fun program => test.inProgram program = true)
      (program tokens) := by
  refine (topStatements_keepsTo met _ (List.suffix_refl _)).bind ?_
  intro statements meet
  exact .ok meet

theorem placed_met (source : List Token) :
    Met (.placed (placesOf source)) source (finishOf source) where
  finishIsPlace := finishOf_mem source
  expression isLeft parsed := by
    have keeps := expression_keepsTo (finishOf_mem source) isLeft
    rw [parsed] at keeps
    cases keeps with
    | ok good => exact good.1
  statement isPlace := List.contains_iff_mem.mpr isPlace

end Grammar

namespace Program

open Grammar

/-- What is met by all that is parsed from its tokens holds everywhere in a program. -/
theorem inProgram_of_parse
    {test : Condition} {tokens : List Token} {program : Program}
    (met : Met test (significant tokens) (finishOf (significant tokens)))
    (parsed : parse tokens = .ok program) : test.inProgram program = true := by
  have keeps := program_keepsTo met
  rw [program_of_parse parsed] at keeps
  cases keeps with
  | ok meets => exact meets

/-- A program stands at the places of its tokens. -/
theorem placed_of_parse
    {tokens : List Token} {program : Program} (parsed : parse tokens = .ok program) :
    (Condition.placed (placesOf (significant tokens))).inProgram program = true :=
  inProgram_of_parse (placed_met _) parsed

/-- Tokens that are no program are refused at the place of one of them, or at the start. -/
theorem position_of_parse
    {tokens : List Token} {error : SyntaxError} (refused : parse tokens = .error error) :
    error.position ∈ placesOf (significant tokens) := by
  have keeps := program_keepsTo (placed_met (significant tokens))
  unfold parse at refused
  split at refused
  · cases refused
  · next failed =>
      cases refused
      rw [failed] at keeps
      cases keeps with
      | error isPlace => exact isPlace
  all_goals
    cases refused
    exact List.mem_cons_self

end Program

end Zoop
