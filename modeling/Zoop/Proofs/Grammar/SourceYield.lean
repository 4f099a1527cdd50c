import Zoop.Proofs.Grammar.TokensTaken
import Zoop.Proofs.Token.Pieces

/-!
# Programs and their sources

The tokens of a source that are neither comments nor line feeds are those that its program is written
with, from left to right.
-/

namespace Zoop

/-! ## Spelling -/

/-- The lexeme of the kinds that have only one. -/
def TokenKind.spelling? : TokenKind → Option String
  | .newLine => some "\n"
  | .colon => some ":"
  | .parenOpen => some "("
  | .parenClose => some ")"
  | .blockOpen => some "\x7b"
  | .blockClose => some "\x7d"
  | .flowIn => some "<-"
  | .flowOut => some "->"
  | .input => some "<-|"
  | .output => some "->|"
  | .direct => some "=>"
  | .variable | .unaryOperator | .binaryOperator | .literal | .keyword | .comment
  | .blockComment => none

namespace Token

/-- The kind of the token and its lexeme agree. -/
def Spelled (token : Token) : Prop :=
  ∀ text, token.kind.spelling? = some text → token.lexeme = text

theorem spelled_of_spelling?_eq_none
    {token : Token} (anyLexeme : token.kind.spelling? = none) : token.Spelled := by
  intro text spelling
  rw [anyLexeme] at spelling
  cases spelling

theorem spelling?_operatorKind (previous : Option Char) (text : List Char) :
    (operatorKind previous text).spelling? = none := by
  unfold operatorKind
  split <;> rfl

theorem spelled_of_recognizeFixed
    {reading : Reading} {text : List Char} {piece : Recognition}
    (recognized :
      recognizeFixed reading.before reading.previous reading.position text = .ok piece) :
    (reading.token piece).Spelled := by
  have listedSpelled :
      ∀ entry ∈ fixedLexemes, ∀ spelling ∈ entry.2.spelling?, String.ofList entry.1 = spelling := by
    decide
  obtain ⟨word, kind, found, -, rfl⟩ := recognizeFixed_eq_ok_iff.mp recognized
  split
  · exact spelled_of_spelling?_eq_none (spelling?_operatorKind _ _)
  · exact listedSpelled _ (fixedLexeme?_eq_some found).1

theorem Recognized.spelled
    {reading : Reading} {character : Char} {rest : List Char} {piece : Recognition}
    (recognized : Recognized reading character rest piece) :
    (reading.token piece).Spelled := by
  cases recognized with
  | type recognized =>
      obtain ⟨word, -, rfl⟩ := recognizeType_eq_ok_iff.mp recognized
      exact spelled_of_spelling?_eq_none rfl
  | newLine | colon | parenOpen | parenClose => exact fun _ spelled => Option.some.inj spelled
  | named _ recognized =>
      obtain ⟨name, -, -, rfl⟩ := recognizeVariable_eq_ok_iff.mp recognized
      exact spelled_of_spelling?_eq_none rfl
  | quoted recognized =>
      obtain ⟨-, inner, -, rfl⟩ := recognizeQuoted_eq_ok_iff.mp recognized
      exact spelled_of_spelling?_eq_none rfl
  | number recognized =>
      obtain ⟨run, -, -, rfl⟩ := recognizeNumber_eq_ok_iff.mp recognized
      exact spelled_of_spelling?_eq_none rfl
  | truth => exact spelled_of_spelling?_eq_none rfl
  | blockComment _ recognized =>
      obtain ⟨inner, -, rfl⟩ := recognizeBlockComment_eq_ok_iff.mp recognized
      exact spelled_of_spelling?_eq_none rfl
  | comment => exact spelled_of_spelling?_eq_none rfl
  | fixed recognized => exact spelled_of_recognizeFixed recognized

theorem Reads.spelled
    {reading : Reading} {text : List Char} {tokens : List Token}
    (reads : Reads reading text tokens) : ∀ token ∈ tokens, token.Spelled := by
  induction reads with
  | done reading => exact List.forall_mem_nil _
  | blank _ _ inductionHypothesis => exact inductionHypothesis
  | token recognized _ inductionHypothesis =>
      exact List.forall_mem_cons.mpr ⟨recognized.spelled, inductionHypothesis⟩

/-- Every token of a source is spelled as its kind is. -/
theorem spelled_of_tokenize
    {source : String} {tokens : List Token} (tokenized : tokenize source = .ok tokens) :
    ∀ token ∈ tokens, token.Spelled :=
  (reads_of_tokenize tokenized).spelled

end Token

/-! ## Line feeds -/

/-- The mark of a cast is known by its lexeme alone, and every other token of a program is of a kind
that is not that of a line feed. -/
def Token.NoLineFeed (token : Token) : Prop :=
  token.kind = .newLine → token.lexeme = "~"

namespace Token

theorem NoLineFeed.of_kind
    {token : Token} {kind : TokenKind} (isKind : token.kind = kind) (differs : kind ≠ .newLine) :
    token.NoLineFeed :=
  fun isNewLine => absurd (isKind.symm.trans isNewLine) differs

theorem NoLineFeed.of_isKeyword
    {token : Token} {word : String} (isWord : token.isKeyword word = true) : token.NoLineFeed := by
  simp only [isKeyword, Bool.and_eq_true, beq_iff_eq] at isWord
  exact NoLineFeed.of_kind isWord.1 (by decide)

theorem NoLineFeed.of_isLabel
    {token : Token} (isLabel : token.isLabel = true) : token.NoLineFeed := by
  simp only [Token.isLabel, Bool.and_eq_true, beq_iff_eq] at isLabel
  exact NoLineFeed.of_kind isLabel.1.1.1 (by decide)

theorem NoLineFeed.of_typeKeyword?
    {token : Token} {type : DataType} (isType : token.typeKeyword? = some type) :
    token.NoLineFeed := by
  unfold typeKeyword? at isType
  split at isType
  · next isKeyword => exact NoLineFeed.of_kind isKeyword (by decide)
  · cases isType

theorem NoLineFeed.of_ofToken?
    {token : Token} {value : Literal} (stands : Literal.ofToken? token = some value) :
    token.NoLineFeed := by
  unfold Literal.ofToken? at stands
  split at stands
  · next isLiteral => exact NoLineFeed.of_kind isLiteral (by decide)
  · cases stands

theorem Names.noLineFeed
    {token : Token} {subject : Variable} (names : token.Names subject) : token.NoLineFeed :=
  NoLineFeed.of_kind names.kind (by decide)

theorem IsUnary.noLineFeed
    {token : Token} {operator : UnaryOperator} (isOperator : token.IsUnary operator) :
    token.NoLineFeed :=
  NoLineFeed.of_kind isOperator.1 (by decide)

theorem IsBinary.noLineFeed
    {token : Token} {operator : BinaryOperator} (isOperator : token.IsBinary operator) :
    token.NoLineFeed := by
  rcases isOperator.1 with isBinary | isUnary
  · exact NoLineFeed.of_kind isBinary (by decide)
  · exact NoLineFeed.of_kind isUnary (by decide)

end Token

theorem InputTypeYields.noLineFeed
    {type : DataType} {tokens : List Token} (yields : InputTypeYields type tokens) :
    ∀ token ∈ tokens, token.NoLineFeed := by
  cases yields with
  | text => exact List.forall_mem_nil _
  | named isColon isType =>
      simp only [List.forall_mem_cons]
      exact ⟨.of_kind isColon (by decide), .of_typeKeyword? isType, List.forall_mem_nil _⟩

theorem PromptYields.noLineFeed
    {prompt : Option String} {tokens : List Token} (yields : PromptYields prompt tokens) :
    ∀ token ∈ tokens, token.NoLineFeed := by
  cases yields with
  | none => exact List.forall_mem_nil _
  | label isLabel _ =>
      simp only [List.forall_mem_cons]
      exact ⟨.of_isLabel isLabel, List.forall_mem_nil _⟩

mutual

theorem Expression.Yields.noLineFeed
    {value : Expression} {tokens : List Token} (yields : value.Yields tokens) :
    ∀ token ∈ tokens, token.NoLineFeed := by
  cases yields with
  | literal stands =>
      simp only [List.forall_mem_cons]
      exact ⟨.of_ofToken? stands, List.forall_mem_nil _⟩
  | reference names =>
      simp only [List.forall_mem_cons]
      exact ⟨names.noLineFeed, List.forall_mem_nil _⟩
  | declare names isColon isType isArrow valueYields =>
      simp only [List.forall_mem_cons]
      exact ⟨names.noLineFeed, .of_kind isColon (by decide), .of_typeKeyword? isType,
        .of_kind isArrow (by decide), valueYields.noLineFeed⟩
  | reassign names _ isArrow valueYields =>
      simp only [List.forall_mem_cons]
      exact ⟨names.noLineFeed, .of_kind isArrow (by decide), valueYields.noLineFeed⟩
  | grouping opens innerYields closes =>
      simp only [List.forall_mem_cons, List.forall_mem_append]
      exact ⟨.of_kind opens (by decide), innerYields.noLineFeed, .of_kind closes (by decide),
        List.forall_mem_nil _⟩
  | unary isOperator operandYields =>
      simp only [List.forall_mem_cons]
      exact ⟨isOperator.noLineFeed, operandYields.noLineFeed⟩
  | binary leftYields isOperator rightYields =>
      simp only [List.forall_mem_cons, List.forall_mem_append]
      exact ⟨leftYields.noLineFeed, isOperator.noLineFeed, rightYields.noLineFeed⟩
  | cast innerYields isMark isType =>
      simp only [List.forall_mem_cons, List.forall_mem_append]
      exact ⟨innerYields.noLineFeed, fun _ => isMark, .of_typeKeyword? isType, List.forall_mem_nil _⟩
  | input isArrow typeYields promptYields =>
      simp only [List.forall_mem_cons, List.forall_mem_append]
      exact ⟨.of_kind isArrow (by decide), typeYields.noLineFeed, promptYields.noLineFeed⟩
  | call isLabel isDe argumentsYield =>
      simp only [List.forall_mem_cons]
      exact ⟨.of_isLabel isLabel, .of_isKeyword isDe, argumentsYield.noLineFeed⟩

theorem Expression.AllYield.noLineFeed
    {values : List Expression} {tokens : List Token} (yield : Expression.AllYield values tokens) :
    ∀ token ∈ tokens, token.NoLineFeed := by
  cases yield with
  | nil => exact List.forall_mem_nil _
  | cons firstYields othersYield =>
      exact List.forall_mem_append.mpr ⟨firstYields.noLineFeed, othersYield.noLineFeed⟩

end

theorem ReturnTypeYields.noLineFeed
    {type : Option DataType} {tokens : List Token} (yields : ReturnTypeYields type tokens) :
    ∀ token ∈ tokens, token.NoLineFeed := by
  cases yields with
  | none => exact List.forall_mem_nil _
  | named isColon isType =>
      simp only [List.forall_mem_cons]
      exact ⟨.of_kind isColon (by decide), .of_typeKeyword? isType, List.forall_mem_nil _⟩

theorem ParametersYield.noLineFeed
    {parameters : List Parameter} {tokens : List Token}
    (yield : ParametersYield parameters tokens) : ∀ token ∈ tokens, token.NoLineFeed := by
  induction yield with
  | nil => exact List.forall_mem_nil _
  | cons names _ isColon isType _ inductionHypothesis =>
      simp only [List.forall_mem_cons]
      exact ⟨names.noLineFeed, .of_kind isColon (by decide), .of_typeKeyword? isType,
        inductionHypothesis⟩

mutual

theorem Statement.Yields.noLineFeed
    {statement : Statement} {tokens : List Token} (yields : statement.Yields tokens) :
    ∀ token ∈ tokens, token.NoLineFeed := by
  cases yields with
  | expression valueYields => exact valueYields.noLineFeed
  | print valueYields isArrow =>
      simp only [List.forall_mem_cons, List.forall_mem_append]
      exact ⟨valueYields.noLineFeed, .of_kind isArrow (by decide), List.forall_mem_nil _⟩
  | giveNothingBack isArrow =>
      simp only [List.forall_mem_cons]
      exact ⟨.of_kind isArrow (by decide), List.forall_mem_nil _⟩
  | giveBack valueYields isArrow =>
      simp only [List.forall_mem_cons, List.forall_mem_append]
      exact ⟨valueYields.noLineFeed, .of_kind isArrow (by decide), List.forall_mem_nil _⟩
  | block opens bodyYields closes =>
      simp only [List.forall_mem_cons, List.forall_mem_append]
      exact ⟨.of_kind opens (by decide), bodyYields.noLineFeed, .of_kind closes (by decide),
        List.forall_mem_nil _⟩
  | condition isIf guardYields bodyYields othersYield otherwiseYields =>
      simp only [List.forall_mem_cons, List.forall_mem_append]
      exact ⟨.of_isKeyword isIf, guardYields.noLineFeed, bodyYields.noLineFeed,
        othersYield.noLineFeed, otherwiseYields.noLineFeed⟩
  | routine isZoop typeYields isLabel _ isArrow parametersYield bodyYields =>
      simp only [List.forall_mem_cons, List.forall_mem_append]
      exact ⟨.of_isKeyword isZoop, typeYields.noLineFeed, .of_isLabel isLabel,
        .of_kind isArrow (by decide), parametersYield.noLineFeed, bodyYields.noLineFeed⟩
  | loop isLoop bodyYields =>
      simp only [List.forall_mem_cons]
      exact ⟨.of_isKeyword isLoop, bodyYields.noLineFeed⟩
  | leave isEnd =>
      simp only [List.forall_mem_cons]
      exact ⟨.of_isKeyword isEnd, List.forall_mem_nil _⟩

theorem Statement.AllYield.noLineFeed
    {statements : List Statement} {tokens : List Token}
    (yield : Statement.AllYield statements tokens) : ∀ token ∈ tokens, token.NoLineFeed := by
  cases yield with
  | nil => exact List.forall_mem_nil _
  | cons firstYields othersYield =>
      exact List.forall_mem_append.mpr ⟨firstYields.noLineFeed, othersYield.noLineFeed⟩

theorem Statement.BodyYields.noLineFeed
    {construct : Construct} {body : List Statement} {tokens : List Token}
    (yields : Statement.BodyYields construct body tokens) :
    ∀ token ∈ tokens, token.NoLineFeed := by
  match yields with
  | .direct isArrow singleYields =>
      simp only [List.forall_mem_cons]
      exact ⟨.of_kind isArrow (by decide), singleYields.noLineFeed⟩
  | .closed bodyYields closes =>
      simp only [List.forall_mem_cons, List.forall_mem_append]
      exact ⟨bodyYields.noLineFeed, .of_isKeyword closes, List.forall_mem_nil _⟩

theorem Branch.AllYield.noLineFeed
    {branches : List Branch} {tokens : List Token} (yield : Branch.AllYield branches tokens) :
    ∀ token ∈ tokens, token.NoLineFeed := by
  cases yield with
  | nil => exact List.forall_mem_nil _
  | cons isElif guardYields bodyYields othersYield =>
      simp only [List.forall_mem_cons, List.forall_mem_append]
      exact ⟨.of_isKeyword isElif, guardYields.noLineFeed, bodyYields.noLineFeed,
        othersYield.noLineFeed⟩

theorem Statement.OtherwiseYields.noLineFeed
    {otherwise : Option (List Statement)} {tokens : List Token}
    (yields : Statement.OtherwiseYields otherwise tokens) :
    ∀ token ∈ tokens, token.NoLineFeed := by
  cases yields with
  | none => exact List.forall_mem_nil _
  | body isElse bodyYields =>
      simp only [List.forall_mem_cons]
      exact ⟨.of_isKeyword isElse, bodyYields.noLineFeed⟩

end

/-! ## Sources -/

namespace Program

/-- The tokens that count for a program: all but comments and line feeds. -/
def content (tokens : List Token) : List Token :=
  tokens.filter fun token => !token.isComment && token.kind != .newLine

/-- The tokens of a source that count are those of its program, from left to right: none is lost,
added or moved.  Their kinds say how they are spelled. -/
theorem content_is_yield
    {source : String} {tokens : List Token} {program : Program}
    (tokenized : Token.tokenize source = .ok tokens) (parsed : parse tokens = .ok program) :
    program.Yields (content tokens) ∧ ∀ token ∈ tokens, token.Spelled := by
  have spelled := Token.spelled_of_tokenize tokenized
  obtain ⟨kept, spaced, yields⟩ := yields_of_parse parsed
  have noNewLine : ∀ token ∈ kept, token.kind ≠ .newLine := by
    -- only the mark of a cast could be a line feed, but that is spelled in another way
    intro token keeps isNewLine
    have isMark : token.lexeme = "~" := Statement.AllYield.noLineFeed yields token keeps isNewLine
    have stands : token ∈ tokens := (List.mem_filter.mp (spaced.subset token keeps)).1
    have isLineFeed : token.lexeme = "\n" := spelled token stands "\n" (by rw [isNewLine]; rfl)
    exact absurd (isMark.symm.trans isLineFeed) (by decide)
  have keptIs : kept = content tokens := by
    rw [spaced.eq_filter noNewLine]
    unfold content Grammar.significant
    rw [List.filter_filter]
    exact congrArg (tokens.filter ·) (funext fun _ => Bool.and_comm _ _)
  rw [← keptIs]
  exact ⟨yields, spelled⟩

/-- A loop whose body is one statement, with a comment behind it. -/
def spinningSource : String :=
  "loop => @b~int ->| -- b\n"

def spinningTokens : List Token := [
  ⟨.keyword, "loop", ⟨1, 0⟩, ⟨0, 4⟩, none⟩,
  ⟨.direct, "=>", ⟨1, 5⟩, ⟨5, 2⟩, none⟩,
  ⟨.variable, "@b", ⟨1, 8⟩, ⟨8, 2⟩, some (.string "b")⟩,
  ⟨.unaryOperator, "~", ⟨1, 10⟩, ⟨10, 1⟩, none⟩,
  ⟨.keyword, "int", ⟨1, 11⟩, ⟨11, 3⟩, none⟩,
  ⟨.output, "->|", ⟨1, 15⟩, ⟨15, 3⟩, none⟩,
  ⟨.comment, "-- b", ⟨1, 19⟩, ⟨19, 4⟩, some (.string " b")⟩,
  ⟨.newLine, "\n", ⟨1, 23⟩, ⟨23, 1⟩, none⟩]

def spinningProgram : Program :=
  ⟨[.loop ⟨1, 0⟩ [.print ⟨1, 15⟩ (.cast ⟨1, 11⟩ .int (.variable ⟨1, 8⟩ ⟨true, "b"⟩))]]⟩

theorem content_is_yield_of_spinningProgram :
    Token.tokenize spinningSource = .ok spinningTokens ∧
      parse spinningTokens = .ok spinningProgram ∧
      content spinningTokens = spinningTokens.take 6 ∧
      spinningProgram.Yields (content spinningTokens) ∧
      ∀ token ∈ spinningTokens, token.Spelled := by
  have tokenized : Token.tokenize spinningSource = .ok spinningTokens :=
    Token.tokenize_eq_ok (by decide +kernel)
  have parsed : parse spinningTokens = .ok spinningProgram := by rfl
  exact ⟨tokenized, parsed, by decide +kernel, content_is_yield tokenized parsed⟩

end Program

end Zoop
