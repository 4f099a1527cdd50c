import Zoop.Proofs.Grammar.Places
import Zoop.Proofs.Grammar.Precedence
import Zoop.Proofs.Token.PrefixMarks
import Zoop.Proofs.Token.Tiling

/-!
# Prefix operators and their operands

Every expression of a program stands in its source as consecutive tokens, comments apart.  So the operand
of a prefix operator starts with the next token that is no comment.  Whether that token touches the
operator is settled by the character right behind the operator: a tab or a carriage return parts `-` from
its operand, and a comment parts `~` from its operand.
-/

namespace Zoop

open Grammar

/-! ## Expressions in a source -/

namespace Expression

/-- The expression is written with consecutive tokens of a source. -/
def StandsIn (source : List Token) (tree : Expression) : Prop :=
  ∃ taken, taken <:+: source ∧ tree.Yields taken

/-- An expression has a first token, which is one that an argument may start with. -/
theorem Yields.head {tree : Expression} {taken : List Token} (yields : tree.Yields taken) :
    ∃ first others, taken = first :: others ∧ startsArgument first = true := by
  cases yields with
  | literal stands =>
      exact ⟨_, _, rfl, by simp [startsArgument, Token.kind_of_ofToken? stands]⟩
  | reference names | declare names _ _ _ _ | reassign names _ _ _ =>
      exact ⟨_, _, rfl, by simp [startsArgument, names.kind]⟩
  | grouping opens _ _ => exact ⟨_, _, rfl, by simp [startsArgument, opens]⟩
  | unary isOperator _ => exact ⟨_, _, rfl, by simp [startsArgument, isOperator.1]⟩
  | binary leftYields _ _ =>
      obtain ⟨first, others, rfl, starts⟩ := leftYields.head
      exact ⟨first, _, rfl, starts⟩
  | cast innerYields _ _ =>
      obtain ⟨first, others, rfl, starts⟩ := innerYields.head
      exact ⟨first, _, rfl, starts⟩
  | input isArrow _ _ => exact ⟨_, _, rfl, by simp [startsArgument, isArrow]⟩
  | call isLabel _ _ =>
      simp only [Token.isLabel, Bool.and_eq_true, beq_iff_eq] at isLabel
      exact ⟨_, _, rfl, by simp [startsArgument, isLabel]⟩
termination_by sizeOf tree

end Expression

open Classical in
/-- Every expression is written with consecutive tokens of a source. -/
noncomputable def Condition.standing (source : List Token) : Condition :=
  ⟨fun tree => decide (tree.StandsIn source), fun _ => true⟩

namespace Grammar

variable {source : List Token}

theorem standing_expression_iff {tree : Expression} :
    (Condition.standing source).expression tree = true ↔ tree.StandsIn source := by
  classical exact decide_eq_true_iff

mutual

/-- The tokens of each part of an expression are consecutive ones of those of the whole. -/
theorem inExpression_of_yields
    {tree : Expression} {taken : List Token} (yields : tree.Yields taken)
    (inside : taken <:+: source) : (Condition.standing source).inExpression tree = true := by
  have here := standing_expression_iff.mpr ⟨taken, inside, yields⟩
  match yields with
  | .literal _ | .reference _ | .input _ _ _ => exact here
  | .declare _ _ _ _ valueYields =>
      have part := (List.suffix_append [_, _, _, _] _).isInfix.trans inside
      exact Bool.and_eq_true_iff.mpr ⟨here, inExpression_of_yields valueYields part⟩
  | .reassign _ _ _ valueYields =>
      have part := (List.suffix_append [_, _] _).isInfix.trans inside
      exact Bool.and_eq_true_iff.mpr ⟨here, inExpression_of_yields valueYields part⟩
  | .grouping _ innerYields _ =>
      have behind := (List.suffix_append [_] _).isInfix.trans inside
      have part := (List.prefix_append _ [_]).isInfix.trans behind
      exact Bool.and_eq_true_iff.mpr ⟨here, inExpression_of_yields innerYields part⟩
  | .unary _ operandYields =>
      have part := (List.suffix_append [_] _).isInfix.trans inside
      exact Bool.and_eq_true_iff.mpr ⟨here, inExpression_of_yields operandYields part⟩
  | .binary leftYields _ rightYields =>
      have leftPart := (List.prefix_append _ _).isInfix.trans inside
      have behind := (List.suffix_append _ _).isInfix.trans inside
      have rightPart := (List.suffix_append [_] _).isInfix.trans behind
      exact Bool.and_eq_true_iff.mpr ⟨here, Bool.and_eq_true_iff.mpr
        ⟨inExpression_of_yields leftYields leftPart, inExpression_of_yields rightYields rightPart⟩⟩
  | .cast innerYields _ _ =>
      have part := (List.prefix_append _ _).isInfix.trans inside
      exact Bool.and_eq_true_iff.mpr ⟨here, inExpression_of_yields innerYields part⟩
  | .call _ _ argumentsYield =>
      have part := (List.suffix_append [_, _] _).isInfix.trans inside
      exact Bool.and_eq_true_iff.mpr ⟨here, inArguments_of_yield argumentsYield part⟩

theorem inArguments_of_yield
    {values : List Expression} {taken : List Token} (yield : Expression.AllYield values taken)
    (inside : taken <:+: source) : (Condition.standing source).inArguments values = true := by
  match yield with
  | .nil => rfl
  | .cons firstYields othersYield =>
      have firstPart := (List.prefix_append _ _).isInfix.trans inside
      have othersPart := (List.suffix_append _ _).isInfix.trans inside
      exact Bool.and_eq_true_iff.mpr ⟨inExpression_of_yields firstYields firstPart,
        inArguments_of_yield othersYield othersPart⟩

end

theorem standing_met (source : List Token) : Met (.standing source) source (finishOf source) where
  finishIsPlace := finishOf_mem source
  expression isLeft parsed := by
    obtain ⟨taken, rfl, yields⟩ := expression_takes _ parsed
    exact inExpression_of_yields yields ((List.prefix_append taken _).isInfix.trans isLeft.isInfix)
  statement _ := rfl

end Grammar

/-- Each expression of a program is written with consecutive tokens, comments apart. -/
theorem Program.standsIn_of_parse
    {tokens : List Token} {program : Program} {tree : Expression}
    (parsed : parse tokens = .ok program) (has : program.HasExpression tree) :
    tree.StandsIn (significant tokens) := by
  have holds := inProgram_of_parse (standing_met (significant tokens)) parsed
  have inTree := Condition.inExpression_of_hasExpression holds has
  exact standing_expression_iff.mp (Condition.expression_of_inExpression inTree)

/-! ## Operators and the first tokens of their operands -/

/-- The tokens have a prefix operator, and the first token of its operand is the next one that is no
comment. -/
structure PrefixAt
    (tokens : List Token) (position : Position) (operator : UnaryOperator) (operand : Expression)
    (mark first : Token) : Prop where
  isOperator : mark.IsUnary operator
  atPosition : mark.position = position
  follows : ∃ before between later,
    tokens = before ++ mark :: (between ++ first :: later) ∧
    (∀ token ∈ between, token.isComment = true) ∧
    ∃ others, operand.Yields (first :: others) ∧ others <+: significant later

theorem PrefixAt.mem
    {tokens : List Token} {position : Position} {operator : UnaryOperator} {operand : Expression}
    {mark first : Token} (prefixAt : PrefixAt tokens position operator operand mark first) :
    mark ∈ tokens := by
  obtain ⟨before, between, later, tokensAre, _⟩ := prefixAt.follows
  simp [tokensAre]

/-- What parts a prefix operator from its operand starts with such a character: a tab or a carriage
return behind `-`, and a comment behind `~`. -/
def UnaryOperator.isPartedBy : UnaryOperator → Char → Bool
  | .negate, character => character == '\t' || character == '\r'
  | .not, character => character == '-'

/-- Between two tokens of which one directly follows the other for the grammar stand comments only. -/
theorem comments_between
    {tokens earlier later : List Token} {mark first : Token}
    (split : significant tokens = earlier ++ mark :: first :: later) :
    ∃ before between rest,
      tokens = before ++ mark :: (between ++ first :: rest) ∧
      (∀ token ∈ between, token.isComment = true) ∧ significant rest = later := by
  unfold significant at split
  obtain ⟨front, back, rfl, _, backIs⟩ := List.filter_eq_append_iff.mp split
  obtain ⟨gap, behind, rfl, _, _, behindIs⟩ := List.filter_eq_cons_iff.mp backIs
  obtain ⟨between, rest, rfl, comments, _, restIs⟩ := List.filter_eq_cons_iff.mp behindIs
  refine ⟨front ++ gap, between, rest, by simp, ?_, restIs⟩
  intro token member
  simpa using comments token member

/-- Every prefix operator of a program has its token, and its operand a first one. -/
theorem exists_prefixAt
    {tokens : List Token} {program : Program} {position : Position} {operator : UnaryOperator}
    {operand : Expression} (parsed : Program.parse tokens = .ok program)
    (has : program.HasExpression (.unary position operator operand)) :
    ∃ mark first, PrefixAt tokens position operator operand mark first := by
  obtain ⟨taken, ⟨earlier, later, split⟩, yields⟩ := Program.standsIn_of_parse parsed has
  cases yields with
  | @unary mark _ _ operandTokens isOperator operandYields =>
      obtain ⟨first, others, rfl, _⟩ := operandYields.head
      have consecutive : significant tokens = earlier ++ mark :: first :: (others ++ later) := by
        rw [← split]
        simp
      obtain ⟨before, between, rest, tokensAre, comments, restIs⟩ := comments_between consecutive
      exact ⟨mark, first, isOperator, rfl, before, between, rest, tokensAre, comments, others,
        operandYields, later, restIs.symm⟩

/-- A token that an argument may start with is no comment. -/
theorem Token.not_comment_of_startsArgument
    {token : Token} (starts : startsArgument token = true) : token.isComment = false := by
  simp only [startsArgument, Bool.or_eq_true, beq_iff_eq] at starts
  rcases starts with (((kind | kind) | kind) | kind) | kind <;> simp [isComment, kind]

/-- The token right behind an operator is the first one of its operand, or a comment before that. -/
theorem next_of_comments
    {source : String} {tokens before between later : List Token} {mark first : Token}
    (tokenized : Token.tokenize source = .ok tokens)
    (tokensAre : tokens = before ++ mark :: (between ++ first :: later))
    (comments : ∀ token ∈ between, token.isComment = true) :
    ∃ next rest, tokens = before ++ mark :: next :: rest ∧
      (next = first ∨ next.isComment = true ∧ next.span.offset < first.span.offset) := by
  cases between with
  | nil => exact ⟨first, later, tokensAre, .inl rfl⟩
  | cons comment between =>
      refine ⟨comment, between ++ first :: later, tokensAre, .inr ⟨comments _ List.mem_cons_self, ?_⟩⟩
      have tiles := Token.tilesFrom_of_tokenize tokenized
      have isToken : comment ∈ tokens := by simp [tokensAre]
      have nonempty := tiles.nonempty comment isToken
      have ordered := tiles.ordered
      rw [tokensAre, List.pairwise_append] at ordered
      have behindMark := (List.pairwise_cons.mp ordered.2.1).2
      have before := (List.pairwise_cons.mp behindMark).1 first (by simp)
      unfold Span.stop at before
      omega

theorem Token.IsUnary.eq_of_lexeme
    {mark : Token} {operator other : UnaryOperator} (isOperator : mark.IsUnary operator)
    (spelled : mark.lexeme = other.lexeme) : operator = other := by
  have found := isOperator.2
  rw [spelled] at found
  cases other <;> exact (Option.some.inj found).symm

/-- The operator and the first token of its operand touch, or the character behind the operator is one
that parts them. -/
theorem touches_iff_of_prefixAt
    {source : String} {tokens : List Token} {position : Position} {operator : UnaryOperator}
    {operand : Expression} {mark first : Token} (tokenized : Token.tokenize source = .ok tokens)
    (prefixAt : PrefixAt tokens position operator operand mark first) :
    ∃ character, source.toList[mark.span.stop]? = some character ∧
      character ≠ ' ' ∧ character ≠ '\n' ∧
      (mark.span.stop = first.span.offset ↔ operator.isPartedBy character = false) := by
  obtain ⟨before, between, later, tokensAre, comments, others, yields, _⟩ := prefixAt.follows
  have isOperator := prefixAt.isOperator
  have starts : startsArgument first = true := by
    obtain ⟨_, _, same, starts⟩ := yields.head
    cases same
    exact starts
  have notComment := Token.not_comment_of_startsArgument starts
  obtain ⟨next, rest, nextIs, isFirst⟩ := next_of_comments tokenized tokensAre comments
  cases Token.behind_of_tokenize tokenized nextIs isOperator.1 with
  | @blank character there isBlank isMinus apart =>
      obtain rfl : operator = .negate := isOperator.eq_of_lexeme isMinus
      have notTouching : mark.span.stop ≠ first.span.offset := by
        rcases isFirst with rfl | ⟨_, later⟩ <;> omega
      rcases isBlank with rfl | rfl <;>
        exact ⟨_, there, by decide, by decide, iff_of_false notTouching (by decide)⟩
  | comment there isTilde isComment touches =>
      obtain rfl : operator = .not := isOperator.eq_of_lexeme isTilde
      have notTouching : mark.span.stop ≠ first.span.offset := by
        rcases isFirst with rfl | ⟨_, later⟩
        · rw [notComment] at isComment
          cases isComment
        · omega
      exact ⟨'-', there, by decide, by decide, iff_of_false notTouching (by decide)⟩
  | @touching character there visible touches nextNotComment =>
      obtain rfl : next = first := by
        rcases isFirst with isFirst | ⟨isComment, _⟩
        · exact isFirst
        · rw [nextNotComment] at isComment
          cases isComment
      simp only [List.mem_cons, List.not_mem_nil, or_false, not_or] at visible
      obtain ⟨noSpace, noTab, noReturn, noFeed, noDash⟩ := visible
      refine ⟨character, there, noSpace, noFeed, iff_of_true touches ?_⟩
      cases operator with
      | negate => simp [UnaryOperator.isPartedBy, noTab, noReturn]
      | not => simp [UnaryOperator.isPartedBy, noDash]
  | noOperand nextNotComment noOperand =>
      rcases isFirst with rfl | ⟨isComment, _⟩
      · rw [starts] at noOperand
        cases noOperand
      · rw [nextNotComment] at isComment
        cases isComment

/-- Every prefix operator of a source that is accepted has a token, behind which the operand starts with
the next token that is no comment.  Neither a space nor a line feed stands right behind the operator, and
the two tokens touch exactly if what stands there is not one of the characters that part them. -/
theorem prefix_operator_touches_operand_iff
    {source : String} {tokens : List Token} {program : Program}
    (tokenized : Token.tokenize source = .ok tokens) (parsed : Program.parse tokens = .ok program)
    {position : Position} {operator : UnaryOperator} {operand : Expression}
    (has : program.HasExpression (.unary position operator operand)) :
    (∃ mark first, PrefixAt tokens position operator operand mark first) ∧
    ∀ mark first, PrefixAt tokens position operator operand mark first →
      ∃ character, source.toList[mark.span.stop]? = some character ∧
        character ≠ ' ' ∧ character ≠ '\n' ∧
        (mark.span.stop = first.span.offset ↔ operator.isPartedBy character = false) :=
  ⟨exists_prefixAt parsed has, fun _ _ => touches_iff_of_prefixAt tokenized⟩

/-- A source with a prefix operator right before its operand. -/
def deniedSource : String :=
  "~true ->|"

def deniedTokens : List Token := [
  ⟨.unaryOperator, "~", ⟨1, 0⟩, ⟨0, 1⟩, none⟩,
  ⟨.literal, "true", ⟨1, 1⟩, ⟨1, 4⟩, some (.boolean true)⟩,
  ⟨.output, "->|", ⟨1, 6⟩, ⟨6, 3⟩, none⟩]

def deniedTruth : Expression :=
  .unary ⟨1, 0⟩ .not (.literal ⟨1, 1⟩ (.boolean true))

theorem prefix_operator_touches_operand_in_deniedSource :
    Token.tokenize deniedSource = .ok deniedTokens ∧
    Program.parse deniedTokens = .ok ⟨[.print ⟨1, 6⟩ deniedTruth]⟩ ∧
    ∃ mark first,
      PrefixAt deniedTokens ⟨1, 0⟩ .not (.literal ⟨1, 1⟩ (.boolean true)) mark first ∧
      mark.span.stop = first.span.offset := by
  have tokenized : Token.tokenize deniedSource = .ok deniedTokens :=
    Token.tokenize_eq_ok (by decide +kernel)
  have parsed : Program.parse deniedTokens = .ok ⟨[.print ⟨1, 6⟩ deniedTruth]⟩ := by rfl
  have has : Program.HasExpression ⟨[.print ⟨1, 6⟩ deniedTruth]⟩ deniedTruth :=
    .direct (.top (.head _)) (.head _)
  obtain ⟨⟨mark, first, prefixAt⟩, touchesIff⟩ :=
    prefix_operator_touches_operand_iff tokenized parsed has
  obtain ⟨character, there, _, _, touches⟩ := touchesIff mark first prefixAt
  have atMark : ∀ token ∈ deniedTokens, token.position = ⟨1, 0⟩ →
      deniedSource.toList[token.span.stop]? = some 't' := by decide
  rw [atMark mark prefixAt.mem prefixAt.atPosition] at there
  cases there
  exact ⟨tokenized, parsed, mark, first, prefixAt, touches.mpr rfl⟩

/-! ## Operators that are parted from their operands -/

/-- Every prefix operator of a program touches the first token of its operand. -/
def PrefixesTouch (tokens : List Token) (program : Program) : Prop :=
  ∀ position operator operand, program.HasExpression (.unary position operator operand) →
    ∀ mark first, PrefixAt tokens position operator operand mark first →
      mark.span.stop = first.span.offset

theorem not_prefixesTouch
    {source : String} {tokens : List Token} {program : Program} {position : Position}
    {operator : UnaryOperator} {operand : Expression} {character : Char}
    (tokenized : Token.tokenize source = .ok tokens) (parsed : Program.parse tokens = .ok program)
    (has : program.HasExpression (.unary position operator operand))
    (atMark : ∀ token ∈ tokens, token.position = position →
      source.toList[token.span.stop]? = some character)
    (parts : operator.isPartedBy character = true) : ¬PrefixesTouch tokens program := by
  intro touch
  obtain ⟨mark, first, prefixAt⟩ := exists_prefixAt parsed has
  obtain ⟨found, there, _, _, touchesIff⟩ := touches_iff_of_prefixAt tokenized prefixAt
  rw [atMark mark prefixAt.mem prefixAt.atPosition] at there
  cases there
  have noParting := touchesIff.mp (touch _ _ _ has mark first prefixAt)
  rw [parts] at noParting
  cases noParting

/-- A source with a tab between a prefix operator and its operand. -/
def tabbedSource : String :=
  "-\t5 ->|"

def tabbedTokens : List Token := [
  ⟨.unaryOperator, "-", ⟨1, 0⟩, ⟨0, 1⟩, none⟩,
  ⟨.literal, "5", ⟨1, 2⟩, ⟨2, 1⟩, some (.number (.ofBits 0x4014000000000000))⟩,
  ⟨.output, "->|", ⟨1, 4⟩, ⟨4, 3⟩, none⟩]

def tabbedNumber : Expression :=
  .unary ⟨1, 0⟩ .negate (.literal ⟨1, 2⟩ ⟨.int, .number (.ofBits 0x4014000000000000)⟩)

/-- A source with a comment between a prefix operator and its operand. -/
def notedSource : String :=
  "~--*c*--true ->|"

def notedTokens : List Token := [
  ⟨.unaryOperator, "~", ⟨1, 0⟩, ⟨0, 1⟩, none⟩,
  ⟨.blockComment, "--*c*--", ⟨1, 1⟩, ⟨1, 7⟩, some (.string "c")⟩,
  ⟨.literal, "true", ⟨1, 8⟩, ⟨8, 4⟩, some (.boolean true)⟩,
  ⟨.output, "->|", ⟨1, 13⟩, ⟨13, 3⟩, none⟩]

def notedTruth : Expression :=
  .unary ⟨1, 0⟩ .not (.literal ⟨1, 8⟩ (.boolean true))

/-- A tab behind `-` and a comment behind `~` are accepted, and part the operator from its operand. -/
theorem tab_and_comment_part_prefix_operators :
    (Token.tokenize tabbedSource = .ok tabbedTokens ∧
      Program.parse tabbedTokens = .ok ⟨[.print ⟨1, 4⟩ tabbedNumber]⟩ ∧
      ¬PrefixesTouch tabbedTokens ⟨[.print ⟨1, 4⟩ tabbedNumber]⟩) ∧
    (Token.tokenize notedSource = .ok notedTokens ∧
      Program.parse notedTokens = .ok ⟨[.print ⟨1, 13⟩ notedTruth]⟩ ∧
      ¬PrefixesTouch notedTokens ⟨[.print ⟨1, 13⟩ notedTruth]⟩) := by
  have tabbedTokenized : Token.tokenize tabbedSource = .ok tabbedTokens :=
    Token.tokenize_eq_ok (by decide +kernel)
  have tabbedParsed : Program.parse tabbedTokens = .ok ⟨[.print ⟨1, 4⟩ tabbedNumber]⟩ := by rfl
  have hasTabbed : Program.HasExpression ⟨[.print ⟨1, 4⟩ tabbedNumber]⟩ tabbedNumber :=
    .direct (.top (.head _)) (.head _)
  have behindMinus : ∀ token ∈ tabbedTokens, token.position = ⟨1, 0⟩ →
      tabbedSource.toList[token.span.stop]? = some '\t' := by decide
  have notedTokenized : Token.tokenize notedSource = .ok notedTokens :=
    Token.tokenize_eq_ok (by decide +kernel)
  have notedParsed : Program.parse notedTokens = .ok ⟨[.print ⟨1, 13⟩ notedTruth]⟩ := by rfl
  have hasNoted : Program.HasExpression ⟨[.print ⟨1, 13⟩ notedTruth]⟩ notedTruth :=
    .direct (.top (.head _)) (.head _)
  have behindTilde : ∀ token ∈ notedTokens, token.position = ⟨1, 0⟩ →
      notedSource.toList[token.span.stop]? = some '-' := by decide
  exact ⟨⟨tabbedTokenized, tabbedParsed,
      not_prefixesTouch tabbedTokenized tabbedParsed hasTabbed behindMinus rfl⟩,
    notedTokenized, notedParsed,
      not_prefixesTouch notedTokenized notedParsed hasNoted behindTilde rfl⟩

end Zoop
