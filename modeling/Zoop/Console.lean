import Zoop.Change
import Zoop.Text.LineEnding

/-!
# Consoles

What a run talks to: printed lines go to a console, and lines of input come from it after a prompt.
Both may fail with a reason.  A console is also told of each change of the environment, which only
those that keep a log make use of.  A console is plain state, so that a run is a function of it.
-/

namespace Zoop

/-- What a run needs of the state of a console. -/
class Console (κ : Type) where
  printLine : String → κ → Except String Unit × κ
  /-- Show a prompt and take a line of input, without its ending; there may be none left. -/
  readLine : String → κ → Except String (Option String) × κ
  /-- Take note of a change and of the environment after it. -/
  notice : Change → Environment → κ → κ := fun _ _ console => console

/-! ## Buffered consoles -/

/-- A console that keeps all printed lines and prompts, and answers from a list of lines. -/
structure BufferedConsole where
  output : Array String
  prompts : Array String
  /-- The lines of input that are left. -/
  input : List String
deriving DecidableEq

namespace BufferedConsole

/-- A console with the given lines of input. -/
def ofInput (lines : List String) : BufferedConsole :=
  ⟨#[], #[], lines⟩

/-- Keep a printed line. -/
def print (console : BufferedConsole) (line : String) : BufferedConsole :=
  { console with output := console.output.push line }

/-- Keep a prompt and take a line of input. -/
def read (console : BufferedConsole) (prompt : String) : Option String × BufferedConsole :=
  (console.input.head?,
    { console with prompts := console.prompts.push prompt, input := console.input.tail })

instance : Console BufferedConsole where
  printLine line console := (.ok (), console.print line)
  readLine prompt console := ((.ok (console.read prompt).1), (console.read prompt).2)

end BufferedConsole

/-! ## Failing consoles -/

/-- A buffered console that fails at a chosen printed line and at a chosen prompt, counted from
zero. -/
structure FailingConsole where
  buffer : BufferedConsole
  /-- How many lines are printed before printing fails. -/
  failPrint : Option Nat
  /-- How many prompts are shown before reading fails. -/
  failRead : Option Nat

namespace FailingConsole

instance : Console FailingConsole where
  printLine line console :=
    if console.failPrint = some console.buffer.output.size then
      (.error "print failed", console)
    else
      (.ok (), { console with buffer := console.buffer.print line })
  readLine prompt console :=
    if console.failRead = some console.buffer.prompts.size then
      (.error "read failed", console)
    else
      let (line, buffer) := console.buffer.read prompt
      (.ok line, { console with buffer := buffer })

end FailingConsole

/-! ## Streams -/

/-- A console over two streams of text.  Prompts and printed lines go to one stream in order, and
lines of input are cut from the other. -/
structure StreamConsole where
  output : String
  /-- The pieces of input that are left, each up to the end of its line.  A piece that is not text
  is not kept. -/
  input : List (Option (List Char))

namespace StreamConsole

/-- A console with a text as its input. -/
def ofText (text : List Char) : StreamConsole :=
  ⟨"", (Text.pieces text).map some⟩

/-- A sequence of bytes cut after each line feed. -/
def bytePieces : List UInt8 → List (List UInt8)
  | [] => []
  | byte :: rest =>
      if byte = 10 then
        [byte] :: bytePieces rest
      else
        match bytePieces rest with
        | [] => [[byte]]
        | piece :: others => (byte :: piece) :: others

/-- The text of a sequence of bytes, if it is one. -/
def decode? (bytes : List UInt8) : Option (List Char) :=
  (String.fromUTF8? (ByteArray.mk bytes.toArray)).map String.toList

/-- A console with a sequence of bytes as its input.  Each line is text or not on its own. -/
def ofBytes (bytes : List UInt8) : StreamConsole :=
  ⟨"", (bytePieces bytes).map decode?⟩

/-- The reason for which a line that is not text cannot be read. -/
def notText : String :=
  "stream did not contain valid UTF-8"

instance : Console StreamConsole where
  printLine line console := (.ok (), { console with output := console.output ++ line ++ "\n" })
  readLine prompt console :=
    let output := console.output ++ prompt
    match console.input with
    | [] => (.ok none, ⟨output, []⟩)
    | some piece :: rest =>
        (.ok (some (String.ofList (Text.withoutEnding piece))), ⟨output, rest⟩)
    | none :: rest => (.error notText, ⟨output, rest⟩)

end StreamConsole

end Zoop
