import Zoop.Diagnostic
import Zoop.Evaluation.Statement
import Zoop.Grammar.Statement
import Zoop.Text.LineEnding
import Zoop.Token.Lexer

/-!
# Interpretations

A source with everything that is read from it before it runs.
-/

namespace Zoop

/-- A source in its normal form, with its tokens and its program. -/
structure Interpretation where
  /-- The source in its normal form, which positions refer to. -/
  source : String
  /-- All tokens, comments and line feeds included. -/
  tokens : List Token
  program : Program

namespace Interpretation

/-- Read a source. -/
def ofSource (source : String) : Except SyntaxError Interpretation := do
  let normal := Text.normalize source
  let tokens ← Token.tokenize normal
  let program ← Program.parse tokens
  return ⟨normal, tokens, program⟩

variable {κ : Type} [Console κ]

/-- Run the program on a machine, which keeps what earlier runs have left on it. -/
def resume (interpretation : Interpretation) (machine : Machine κ) :
    Outcome RuntimeError Unit × Machine κ :=
  interpretation.program.run machine

/-- Run the program on a new machine with the given console. -/
def run (interpretation : Interpretation) (console : κ) :
    Outcome RuntimeError Unit × Machine κ :=
  interpretation.resume (Machine.start console)

end Interpretation

/-- The failure of a run, if it has one. -/
def Outcome.failure? {α : Type} : Outcome RuntimeError α → Option Failure
  | .error cause => some (.inRun cause)
  | _ => none

end Zoop
