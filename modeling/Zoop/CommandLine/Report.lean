import Zoop.CommandLine.Arguments
import Zoop.CommandLine.Path
import Zoop.Dump
import Zoop.Interpretation

/-!
# Runs from the command line

What the command line does with a file: it reads the file, shows its tokens or its statements when
asked to, runs the program, and reports an error with its place in the source.
-/

namespace Zoop.CommandLine

/-- How an invocation ends. -/
inductive Report where
  /-- The arguments cannot be used, or ask for the help or the version. -/
  | usage (error : ArgumentError)
  /-- The file cannot be run at all. -/
  | unreadable (message : String)
  /-- The program has been read, and run if it could be; the output, and what has gone wrong. -/
  | finished (output : String) (diagnostic : Option String)
deriving DecidableEq, Repr

namespace Report

/-- The exit code. -/
def exitCode : Report → Nat
  | .usage .displayHelp => 0
  | .usage .displayVersion => 0
  | .usage _ => 2
  | .unreadable _ => 1
  | .finished _ none => 0
  | .finished _ (some _) => 1

end Report

/-- The source in a file.  The extension of its name has to be `zoop`, and its bytes have to be
text. -/
def readSource (read : String → Option (List UInt8)) (path : String) : Except String String :=
  if Path.extension? path = some "zoop" then
    match (read path).bind StreamConsole.decode? with
    | some source => .ok (String.ofList source)
    | none => .error ("No such file or directory was found in path: " ++ path)
  else
    .error "Can only interpret files of type zoop (.zoop)"

/-- What is shown before a program runs. -/
def emitted (emit : Option Emit) (interpretation : Interpretation) : String :=
  match emit with
  | none => ""
  | some .tokens => (Dump.tokens interpretation.tokens).text ++ "\n"
  | some .program => (Dump.program interpretation.program).text ++ "\n"

/-- Run a source on a console of streams. -/
def runSource (emit : Option Emit) (source : String) (console : StreamConsole) : Report :=
  match Interpretation.ofSource source with
  | .error error =>
      .finished console.output
        (some ((Failure.inSource error).diagnostic (Text.normalize source)).text)
  | .ok interpretation =>
      let shown := { console with output := console.output ++ emitted emit interpretation }
      let (outcome, machine) := interpretation.run shown
      .finished machine.console.output
        (outcome.failure?.map fun failure => (failure.diagnostic interpretation.source).text)

/-- Run what the arguments ask for. -/
def runArguments
    (read : String → Option (List UInt8))
    (console : StreamConsole)
    (arguments : Arguments) : Report :=
  match readSource read arguments.file with
  | .error message => .unreadable message
  | .ok source => runSource arguments.emit source console

/-- Run a command line over files and an input that are held in memory. -/
def invoke
    (read : String → Option (List UInt8))
    (environmentLevel : Option String)
    (input : List UInt8)
    (arguments : List String) : Report :=
  match Arguments.parse arguments environmentLevel with
  | .error error => .usage error
  | .ok parsed => runArguments read (.ofBytes input) parsed

end Zoop.CommandLine
