import Zoop.Interpretation
import Zoop.Proofs.Evaluation.Contract
import Zoop.Proofs.Evaluation.ErrorOrigin
import Zoop.Proofs.Grammar.Places
import Zoop.Proofs.Text.PointsInto
import Zoop.Proofs.Token.ErrorPlaces

/-!
# Every error points into the source

An error of a run is raised by some part of the program, at the place of that part, of one of its
operands or of its operator.  These are places of tokens, and places of tokens are places of the source,
so there is always a line to show and a place on it to mark.
-/

namespace Zoop

open Evaluation

/-! ## Errors of a run -/

section Run

variable {κ : Type} [Console κ] {places : List Position}

theorem Statement.position_mem
    {statement : Statement} (placed : (Condition.placed places).inStatement statement = true) :
    statement.position ∈ places :=
  List.contains_iff_mem.mp (Condition.statement_of_inStatement placed)

/-- The operator of a binary expression has a place of its own. -/
theorem Expression.operatorPosition_mem
    {position operatorPosition : Position} {operator : BinaryOperator} {left right : Expression}
    (placed : (Condition.placed places).inExpression
      (.binary position operator operatorPosition left right) = true) :
    operatorPosition ∈ places := by
  have here := Condition.expression_of_inExpression placed
  simp only [Condition.placed, isPlaced, Bool.and_eq_true] at here
  exact List.contains_iff_mem.mp here.2

theorem Operation.Refuses.position_mem
    {operator : BinaryOperator} {left right : Operand} {place : Position} {error : RuntimeError}
    (refused : Refuses operator left right place error) (leftIsPlace : left.position ∈ places)
    (rightIsPlace : right.position ∈ places) (isPlace : place ∈ places) :
    error.position ∈ places := by
  cases refused with
  | leftNumber | leftTruth | leftVoid => exact leftIsPlace
  | rightNumber | zero | rightTruth | rightVoid => exact rightIsPlace
  | mixed | differentTypes => exact isPlace

/-- A part stands at the given places.  The rounds of a loop are at the place of the loop. -/
structure Task.PlacedAt (places : List Position) (task : Task) : Prop where
  inside : (Condition.placed places).inTask task = true
  loop : ∀ {position body count}, task = .rounds position body count → position ∈ places

/-- A part that stands at the given places raises its errors there. -/
theorem Raises.position_mem
    {point : Point κ} {error : RuntimeError} {left : Machine κ} (raises : Raises point error left)
    (placed : point.task.PlacedAt places) : error.position ∈ places := by
  have inside := placed.inside
  cases raises with
  | unknownVariable | argumentName | redefined | unknownTarget | reassignedCast | lostTarget
  | notOperand | negateOperand | casted | noLine | readFailed | wrongLine | unknownZoop | arity
  | tooDeep | returnedType => exact Expression.position_mem inside
  | declaredType | reassignedType =>
      exact Expression.position_mem (Condition.inExpression_part inside List.mem_cons_self)
  | operands _ _ refused =>
      have leftInside := Condition.inExpression_part inside List.mem_cons_self
      have rightInside :=
        Condition.inExpression_part inside (List.mem_cons_of_mem _ List.mem_cons_self)
      exact refused.position_mem (Expression.position_mem leftInside)
        (Expression.position_mem rightInside) (Expression.operatorPosition_mem inside)
  | argumentType =>
      simp only [Condition.inTask, Condition.inArguments, Bool.and_eq_true] at inside
      exact Expression.position_mem inside.1
  | printedVoid | printFailed | redeclared => exact Statement.position_mem inside
  | valueInLoop => exact placed.loop rfl

/-- The rounds that follow from a part are those of a loop in it, or the rest of its own. -/
theorem loop_of_step
    {point next : Point κ} (step : Step point next) (placed : point.task.PlacedAt places) :
    ∀ {position body count}, next.task = .rounds position body count → position ∈ places := by
  intro position body count isLoop
  cases step with
  | loop =>
      cases isLoop
      exact Statement.position_mem placed.inside
  | moreRounds =>
      cases isLoop
      exact placed.loop rfl
  | _ => cases isLoop

/-- Places ask nothing of values, so that only the zoops of an environment matter. -/
theorem placedContract (places : List Position) :
    Contract (Condition.placed places) (fun _ => True) (fun _ => True)
      (Environment.Every (Stored (fun _ => True) (fun _ => True))) :=
  ValueContract.contract {
    named := fun _ _ => trivial
    parameters := fun _ _ _ => trivial
    literal := fun _ => trivial
    void := trivial
    unary := fun _ _ => trivial
    binary := fun _ _ _ => trivial
    cast := fun _ _ _ => trivial
    line := fun _ _ => trivial }

/-- All points on the way stand at the places of the start.  A call goes on with the body of a zoop that
has been declared on the way, so the zoops of the environment are part of what each step keeps. -/
theorem placedAt_of_visits
    {start point : Point κ} (visits : Visits start point)
    (ready : (placedContract places).Ready start) (placed : start.task.PlacedAt places) :
    point.task.PlacedAt places := by
  let holds (here : Point κ) := (placedContract places).Ready here ∧ here.task.PlacedAt places
  have both : holds point := by
    apply visits.keeps ?_ ⟨ready, placed⟩
    rintro here next ⟨readyHere, placedHere⟩ step
    have readyNext :=
      (placedContract places).ready_of_step readyHere (fun _ _ => (placedContract places).ends) step
    exact ⟨readyNext, readyNext.holds, loop_of_step step placedHere⟩
  exact both.2

/-- A program that stands at the given places fails there, whatever its console does. -/
theorem Program.position_of_runWith
    {program : Program} (placed : (Condition.placed places).inProgram program = true) {fuel : Nat}
    {console : κ} {error : RuntimeError}
    (fails : (program.runWith fuel (Machine.start console)).1 = .error error) :
    error.position ∈ places := by
  have ready : (placedContract places).Ready
      ⟨fuel, .program program.statements, Machine.start console⟩ :=
    ⟨⟨Environment.every_initial, Condition.admitsAll_initial _⟩, placed, trivial⟩
  have ends : (Point.mk fuel (.program program.statements) (Machine.start console)).ending =
      (.error error, (program.runWith fuel (Machine.start console)).2) :=
    Prod.ext fails rfl
  obtain ⟨point, left, visits, raises, _⟩ := Point.raised_at _ ends
  exact raises.position_mem (placedAt_of_visits visits ready ⟨placed, nofun⟩)

end Run

/-! ## Whole sources -/

/-- The place of a failure is on a line of the source or right behind it, and its diagnostic ends with
that line, without the white space at its end, and with a mark below the place. -/
def Failure.PointsInto (failure : Failure) (source : String) : Prop :=
  ∃ line,
    Text.line? source failure.position.line = some line ∧
    failure.position.column ≤ line.length ∧
    (failure.diagnostic source).text =
      "\n" ++ failure.category ++ ": " ++ failure.text ++ "\n" ++
        String.ofList (Text.trimRight line.toList) ++ "\n" ++
        String.ofList (List.replicate failure.position.column ' ') ++ "^"

theorem Failure.pointsInto_of_isIn
    {failure : Failure} {source : String} (isIn : failure.position.IsIn source.toList) :
    failure.PointsInto source := by
  obtain ⟨line, found, covered⟩ := Text.line?_of_isIn isIn
  refine ⟨line, found, covered, ?_⟩
  have shown : Text.line? (failure.diagnostic source).source
      (failure.diagnostic source).position.line = some line := found
  simp only [Diagnostic.text, Diagnostic.excerpt, shown]
  apply String.toList_injective
  simp [diagnostic, Failure.text]

theorem Token.isIn_of_mem_placesOf
    {source : String} {tokens : List Token} (tokenized : tokenize source = .ok tokens)
    {position : Position} (isPlace : position ∈ Grammar.placesOf (Grammar.significant tokens)) :
    position.IsIn source.toList := by
  rcases List.mem_cons.mp isPlace with rfl | ofToken
  · exact Position.isIn_start _
  · obtain ⟨token, member, rfl⟩ := List.mem_map.mp ofToken
    exact isIn_of_mem tokenized (List.mem_filter.mp member).1

namespace Interpretation

/-- A source is refused by the lexer or by the grammar. -/
theorem ofSource_eq_error
    {source : String} {error : SyntaxError} (refused : ofSource source = .error error) :
    Token.tokenize (Text.normalize source) = .error error ∨
      ∃ tokens, Token.tokenize (Text.normalize source) = .ok tokens ∧
        Program.parse tokens = .error error := by
  unfold ofSource at refused
  cases tokenized : Token.tokenize (Text.normalize source) with
  | error cause =>
      simp only [tokenized, bind, Except.bind] at refused
      cases refused
      exact .inl rfl
  | ok tokens =>
      refine .inr ⟨tokens, rfl, ?_⟩
      cases parsed : Program.parse tokens with
      | error cause =>
          simp only [tokenized, parsed, bind, Except.bind] at refused
          cases refused
          rfl
      | ok program =>
          simp only [tokenized, parsed, bind, Except.bind] at refused
          cases refused

theorem ofSource_eq_ok
    {source : String} {interpretation : Interpretation}
    (accepted : ofSource source = .ok interpretation) :
    Token.tokenize (Text.normalize source) = .ok interpretation.tokens ∧
      Program.parse interpretation.tokens = .ok interpretation.program := by
  unfold ofSource at accepted
  cases tokenized : Token.tokenize (Text.normalize source) with
  | error cause =>
      simp only [tokenized, bind, Except.bind] at accepted
      cases accepted
  | ok tokens =>
      cases parsed : Program.parse tokens with
      | error cause =>
          simp only [tokenized, parsed, bind, Except.bind] at accepted
          cases accepted
      | ok program =>
          simp only [tokenized, parsed, bind, Except.bind] at accepted
          cases accepted
          exact ⟨rfl, parsed⟩

end Interpretation

/-- Every error points into the normal form of its source: the one for which the source is refused, and
the one with which a run of its program fails, on whatever console and however long it has run. -/
theorem every_error_points_into_source
    {κ : Type} [Console κ] (source : String) (console : κ) :
    (∀ error, Interpretation.ofSource source = .error error →
      (Failure.inSource error).PointsInto (Text.normalize source)) ∧
    ∀ interpretation, Interpretation.ofSource source = .ok interpretation →
      ∀ fuel error,
        (interpretation.program.runWith fuel (Machine.start console)).1 = .error error →
        (Failure.inRun error).PointsInto (Text.normalize source) := by
  constructor
  · intro error refused
    apply Failure.pointsInto_of_isIn
    rcases Interpretation.ofSource_eq_error refused with notTokens | ⟨tokens, tokenized, noProgram⟩
    · exact Token.isIn_of_tokenize notTokens
    · exact Token.isIn_of_mem_placesOf tokenized (Program.position_of_parse noProgram)
  · intro interpretation accepted fuel error fails
    apply Failure.pointsInto_of_isIn
    obtain ⟨tokenized, parsed⟩ := Interpretation.ofSource_eq_ok accepted
    have isPlace : error.position ∈ Grammar.placesOf (Grammar.significant interpretation.tokens) :=
      Program.position_of_runWith (Program.placed_of_parse parsed) fails
    exact Token.isIn_of_mem_placesOf tokenized isPlace

/-- A text over two lines that is not closed: the error is at its start, on the second line. -/
def unclosedSource : String :=
  "true ->|\r\n \"a\nb"

/-- A source whose second line asks for a variable that is not there. -/
def missingSource : String :=
  "true ->|\r\n$c & true ->|"

def missingInterpretation : Interpretation where
  source := "true ->|\n$c & true ->|"
  tokens := [
    ⟨.literal, "true", ⟨1, 0⟩, ⟨0, 4⟩, some (.boolean true)⟩,
    ⟨.output, "->|", ⟨1, 5⟩, ⟨5, 3⟩, none⟩,
    ⟨.newLine, "\n", ⟨1, 8⟩, ⟨8, 1⟩, none⟩,
    ⟨.variable, "$c", ⟨2, 0⟩, ⟨9, 2⟩, some (.string "c")⟩,
    ⟨.binaryOperator, "&", ⟨2, 3⟩, ⟨12, 1⟩, none⟩,
    ⟨.literal, "true", ⟨2, 5⟩, ⟨14, 4⟩, some (.boolean true)⟩,
    ⟨.output, "->|", ⟨2, 10⟩, ⟨19, 3⟩, none⟩]
  program :=
    ⟨[.print ⟨1, 5⟩ (.literal ⟨1, 0⟩ (.boolean true)),
      .print ⟨2, 10⟩
        (.binary ⟨2, 0⟩ .and ⟨2, 3⟩ (.variable ⟨2, 0⟩ ⟨false, "c"⟩)
          (.literal ⟨2, 5⟩ (.boolean true)))]⟩

theorem unclosedSource_and_missingSource_point_into_source :
    Interpretation.ofSource unclosedSource = .error ⟨.unclosedString, ⟨2, 1⟩⟩ ∧
    (Failure.inSource ⟨.unclosedString, ⟨2, 1⟩⟩).PointsInto (Text.normalize unclosedSource) ∧
    Interpretation.ofSource missingSource = .ok missingInterpretation ∧
    (missingInterpretation.run (BufferedConsole.ofInput [])).1 =
      .error ⟨.undefinedVariable ⟨false, "c"⟩, ⟨2, 0⟩⟩ ∧
    (Failure.inRun ⟨.undefinedVariable ⟨false, "c"⟩, ⟨2, 0⟩⟩).PointsInto
      (Text.normalize missingSource) := by
  have refused : Interpretation.ofSource unclosedSource = .error ⟨.unclosedString, ⟨2, 1⟩⟩ := by
    rfl
  have normal : Text.normalize missingSource = missingInterpretation.source := by decide +kernel
  have tokenized : Token.tokenize missingInterpretation.source = .ok missingInterpretation.tokens :=
    Token.tokenize_eq_ok (by decide +kernel)
  have parsed : Program.parse missingInterpretation.tokens = .ok missingInterpretation.program := by
    rfl
  have accepted : Interpretation.ofSource missingSource = .ok missingInterpretation := by
    simp only [Interpretation.ofSource, normal, tokenized, parsed, bind, Except.bind, pure, Except.pure]
  have fails : (missingInterpretation.run (BufferedConsole.ofInput [])).1 =
      .error ⟨.undefinedVariable ⟨false, "c"⟩, ⟨2, 0⟩⟩ := by rfl
  have unclosed := every_error_points_into_source unclosedSource (BufferedConsole.ofInput [])
  have missing := every_error_points_into_source missingSource (BufferedConsole.ofInput [])
  exact ⟨refused, unclosed.1 _ refused, accepted, fails,
    missing.2 _ accepted Program.plenty _ fails⟩

end Zoop
