import Zoop.BoundedStack
import Zoop.Change
import Zoop.CommandLine.Arguments
import Zoop.CommandLine.Path
import Zoop.CommandLine.Report
import Zoop.Console
import Zoop.DataType
import Zoop.Diagnostic
import Zoop.Dump
import Zoop.Environment
import Zoop.Evaluation.Cast
import Zoop.Evaluation.Expression
import Zoop.Evaluation.Operation
import Zoop.Evaluation.Run
import Zoop.Evaluation.Statement
import Zoop.Grammar.Cursor
import Zoop.Grammar.Expression
import Zoop.Grammar.Statement
import Zoop.Interpretation
import Zoop.Literal
import Zoop.Main
import Zoop.Number.Basic
import Zoop.Number.Layout
import Zoop.Number.Reader
import Zoop.Number.Rounding
import Zoop.Number.Shortest
import Zoop.Outcome
import Zoop.Program.Expression
import Zoop.Program.Operator
import Zoop.Program.Statement
import Zoop.Program.Variable
import Zoop.RuntimeError
import Zoop.SyntaxError
import Zoop.Text.DefaultIgnorable
import Zoop.Text.GraphemeExtend
import Zoop.Text.Line
import Zoop.Text.LineEnding
import Zoop.Text.Position
import Zoop.Text.Printable
import Zoop.Text.Quoted
import Zoop.Text.Range
import Zoop.Text.WhiteSpace
import Zoop.Token.Basic
import Zoop.Token.Fixed
import Zoop.Token.Lexer
import Zoop.Word
import Zoop.Proofs.Program.Condition
import Zoop.Proofs.Evaluation.Congruence
import Zoop.Proofs.Environment.Changes
import Zoop.Proofs.Evaluation.StackDiscipline
import Zoop.Proofs.Evaluation.Agreement
import Zoop.Proofs.Evaluation.Termination
import Zoop.Proofs.Grammar.Placement
import Zoop.Proofs.Evaluation.LoopExit
import Zoop.Proofs.Evaluation.History
import Zoop.Proofs.Environment.Types
import Zoop.Proofs.Evaluation.DeclaredTypes
import Zoop.Proofs.Token.Pieces
import Zoop.Proofs.Token.Tiling
import Zoop.Proofs.Grammar.Yield
import Zoop.Proofs.Grammar.TokensTaken
import Zoop.Proofs.Grammar.SourceYield
import Zoop.Proofs.Grammar.WellFormed
import Zoop.Proofs.Environment.Values
import Zoop.Proofs.Evaluation.Points
import Zoop.Proofs.Evaluation.Contract
import Zoop.Proofs.Evaluation.Tags
import Zoop.Proofs.Evaluation.LexicalLookup
import Zoop.Proofs.Evaluation.Permanence
import Zoop.Proofs.Number.Fit
import Zoop.Proofs.Evaluation.FittingNumbers
import Zoop.Proofs.Program.Moved
import Zoop.Proofs.Grammar.Continuation
import Zoop.Proofs.Grammar.Sequence
import Zoop.Proofs.Token.Replay
import Zoop.Proofs.Token.Splice
import Zoop.Proofs.Token.Joined
import Zoop.Proofs.Evaluation.Moved
import Zoop.Proofs.Evaluation.JoinedSources
import Zoop.Proofs.Grammar.InsertedComment
import Zoop.Proofs.Evaluation.Transcript
import Zoop.Proofs.Evaluation.MoreFuel
import Zoop.Proofs.Evaluation.EarlyStop
import Zoop.Proofs.Evaluation.MoreInput
import Zoop.Proofs.Evaluation.ErrorCauses
import Zoop.Proofs.Evaluation.ErrorOrigin
import Zoop.Proofs.Evaluation.ConsoleFailure
import Zoop.Proofs.Grammar.AcceptedPrograms
import Zoop.Proofs.Grammar.Walk
import Zoop.Proofs.Grammar.WalkedStatements
import Zoop.Proofs.Grammar.Progress
import Zoop.Proofs.Grammar.Canonical
import Zoop.Proofs.Grammar.Precedence
import Zoop.Proofs.Evaluation.StandardConsole
import Zoop.Proofs.Text.PointsInto
import Zoop.Proofs.Token.ErrorPlaces
import Zoop.Proofs.Evaluation.ErrorPlaces
import Zoop.Proofs.Token.PrefixMarks
import Zoop.Proofs.Grammar.PrefixOperators
import Zoop.Proofs.Evaluation.ActiveCalls
import Zoop.Proofs.Evaluation.VisitedParts
import Zoop.Proofs.Evaluation.CallDepth
import Zoop.Proofs.Evaluation.BoundParameters
import Zoop.Proofs.Environment.Requests
import Zoop.Proofs.Evaluation.Reassignment
import Zoop.Proofs.Evaluation.Prompts
import Zoop.Proofs.Grammar.OperandPlaces
import Zoop.Proofs.Number.Decimals
import Zoop.Proofs.Token.Words
import Zoop.Proofs.Token.NumberLiterals
import Zoop.Proofs.Number.Rounding
import Zoop.Proofs.Number.ReadBack
import Zoop.Proofs.Number.Digits
import Zoop.Proofs.Number.Shortest
import Zoop.Proofs.Number.Printed
import Zoop.Proofs.Text.NormalForm
import Zoop.Proofs.Token.Variables
