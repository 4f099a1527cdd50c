import Zoop.CommandLine.Report

/-!
# The command line

Runs a file on the streams of the process.  A run is a function of the lines of input, and more lines
change nothing of what came before.  So the program is run on the lines that have come so far, and
again with one line more whenever it asks for one, and only what is new of the output is written.
-/

namespace Zoop.CommandLine

/-- The bytes of a stream up to the end of a line, after the bytes already taken from that line. -/
partial def lineBytes (stream : IO.FS.Stream) (taken : ByteArray) : IO ByteArray := do
  let next ← stream.read 1
  match next.toList with
  | [] => return taken
  | byte :: _ =>
      if byte = 10 then
        return taken.push byte
      else
        lineBytes stream (taken.push byte)

/-- The next line of a stream with its ending, and nothing for a line that is not text. -/
def nextPiece (stream : IO.FS.Stream) : IO (Option (List Char)) := do
  let bytes ← lineBytes stream ByteArray.empty
  return StreamConsole.decode? bytes.toList

/-- Run a program on the lines of a stream, and write what it prints as far as that is new. -/
partial def interact
    (stream : IO.FS.Stream)
    (interpretation : Interpretation)
    (pieces : Array (Option (List Char)))
    (written : Nat) : IO (Option Failure) := do
  let (outcome, machine) := interpretation.run (⟨"", pieces.toList⟩ : StreamConsole)
  let output := machine.console.output.toList
  let stdout ← IO.getStdout
  stdout.putStr (String.ofList (output.drop written))
  stdout.flush
  match outcome with
  | .error ⟨.inputCancelled, _⟩ => do
      match ← nextPiece stream with
      | some [] => return outcome.failure?
      | piece => interact stream interpretation (pieces.push piece) output.length
  | _ => return outcome.failure?

/-- Report a failure with its place in the source. -/
def report (source : String) : Option Failure → IO UInt32
  | none => return 0
  | some failure => do
      IO.eprintln (failure.diagnostic source).text
      return 1

/-- The bytes of a file, if it can be read. -/
def fileBytes? (path : String) : IO (Option (List UInt8)) := do
  try
    let bytes ← IO.FS.readBinFile path
    return some bytes.toList
  catch _ =>
    return none

/-- Do what the arguments ask for. -/
def runFile (arguments : Arguments) : IO UInt32 := do
  let bytes ← fileBytes? arguments.file
  match readSource (fun _ => bytes) arguments.file with
  | .error message => do
      IO.eprintln ("Error: " ++ message)
      return 1
  | .ok source =>
      match Interpretation.ofSource source with
      | .error error => report (Text.normalize source) (some (.inSource error))
      | .ok interpretation => do
          IO.print (emitted arguments.emit interpretation)
          let stdin ← IO.getStdin
          let failure ← interact stdin interpretation #[] 0
          report interpretation.source failure

/-- The environment variable that holds the level of the log when no option gives it. -/
def levelVariable : String :=
  "RUST_LOG"

/-- How the command is used. -/
def usageText : String :=
  "Usage: zoop [-v | -q] [--log-level LEVEL] [--emit tokens|program] FILE"

end Zoop.CommandLine

open Zoop.CommandLine in
/-- Run a program from the command line. -/
def main (arguments : List String) : IO UInt32 := do
  let level ← IO.getEnv levelVariable
  match Arguments.parse arguments level with
  | .ok parsed => runFile parsed
  | .error error => do
      let code := (Report.usage error).exitCode
      if code = 0 then
        IO.println usageText
      else
        IO.eprintln usageText
      return UInt32.ofNat code
