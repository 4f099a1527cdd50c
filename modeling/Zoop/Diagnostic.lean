import Zoop.RuntimeError
import Zoop.SyntaxError
import Zoop.Text.Line
import Zoop.Text.WhiteSpace

/-!
# Diagnostics

How an error is shown to the author of a program: what kind it is, what is wrong, where, and the line
of the source with a mark below the place.
-/

namespace Zoop

/-- An error with the source that it is about. -/
structure Diagnostic where
  category : String
  message : String
  position : Position
  source : String

namespace Diagnostic

/-- The line of the place without the white space at its end, and a mark below the place. -/
def excerpt (diagnostic : Diagnostic) : String :=
  match Text.line? diagnostic.source diagnostic.position.line with
  | none => ""
  | some line =>
      String.ofList
        (Text.trimRight line.toList ++ '\n' ::
          (List.replicate diagnostic.position.column ' ' ++ ['^']))

/-- The text of a diagnostic, which starts with an empty line.  Without a line in the source there is
no excerpt. -/
def text (diagnostic : Diagnostic) : String :=
  "\n" ++ diagnostic.category ++ ": " ++ diagnostic.message ++ " (" ++ diagnostic.position.text ++
    ")\n" ++ diagnostic.excerpt

end Diagnostic

/-- What a program can fail with: an error in its source or an error in its run. -/
inductive Failure where
  | inSource (error : SyntaxError)
  | inRun (error : RuntimeError)
deriving DecidableEq, Repr

namespace Failure

/-- The kind of error. -/
def category : Failure → String
  | .inSource _ => "Syntax Error"
  | .inRun _ => "Runtime Error"

/-- What is wrong. -/
def message : Failure → String
  | .inSource error => error.cause.message
  | .inRun error => error.cause.message

/-- Where it is. -/
def position : Failure → Position
  | .inSource error => error.position
  | .inRun error => error.position

/-- The message with its place. -/
def text (failure : Failure) : String :=
  failure.message ++ " (" ++ failure.position.text ++ ")"

/-- The failure with the source that it is about. -/
def diagnostic (failure : Failure) (source : String) : Diagnostic :=
  ⟨failure.category, failure.message, failure.position, source⟩

end Failure

end Zoop
