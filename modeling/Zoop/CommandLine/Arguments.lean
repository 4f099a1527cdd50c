/-!
# Arguments of the command line

One file, the form of the program to show before it runs, and how much to log.  Arguments are read
from left to right, and the first one that is wrong decides.  A value is looked at only when the next
argument that is known has been reached, or the end.
-/

namespace Zoop.CommandLine

/-! ## What arguments say -/

/-- What is shown of a program before it runs. -/
inductive Emit where
  | tokens
  | program
deriving DecidableEq, Repr

/-- How much is logged, from nothing to everything. -/
inductive Level where
  | off
  | error
  | warn
  | info
  | debug
  | trace
deriving DecidableEq, Repr

/-- Why arguments cannot be used, or what is shown in place of a run. -/
inductive ArgumentError where
  /-- An option that does not exist, or a second file. -/
  | unknownArgument
  /-- A value that is missing, empty or none of those allowed. -/
  | invalidValue
  | valueValidation
  /-- Arguments that exclude each other, or an option given twice. -/
  | argumentConflict
  | missingRequiredArgument
  | tooManyValues
  | displayHelp
  | displayVersion
deriving DecidableEq, Repr

/-- What a command line asks for. -/
structure Arguments where
  file : String
  emit : Option Emit
  level : Level
deriving DecidableEq, Repr

/-! ## Values -/

/-- The form to show that a value names. -/
def Emit.ofText? (text : String) : Option Emit :=
  if text = "tokens" then
    some .tokens
  else if text = "program" then
    some .program
  else
    none

/-- The level that a value names, in any case. -/
def Level.ofText? (text : String) : Option Level :=
  match String.ofList (text.toList.map Char.toLower) with
  | "off" => some .off
  | "error" => some .error
  | "warn" => some .warn
  | "info" => some .info
  | "debug" => some .debug
  | "trace" => some .trace
  | _ => none

/-- The level for a number of flags for more and a number of flags for less. -/
def Level.ofFlags (verbose quiet : Nat) : Level :=
  match verbose, quiet with
  | 0, 0 => .warn
  | 0, 1 => .error
  | 0, _ => .off
  | 1, _ => .debug
  | _, _ => .trace

/-! ## Reading arguments -/

/-- The options that take a value. -/
inductive ValueOption where
  | emit
  | logLevel
deriving DecidableEq, Repr

/-- An argument whose value has not been looked at. -/
inductive Pending where
  | file (value : String)
  /-- An option, whose value may not have come yet. -/
  | option (name : ValueOption) (value : Option String)

/-- What has been read so far. -/
structure Reading where
  file : Option String := none
  emit : Option Emit := none
  level : Option Level := none
  /-- How many flags ask for more. -/
  verbose : Nat := 0
  /-- How many flags ask for less. -/
  quiet : Nat := 0
  /-- The argument whose value has not been looked at. -/
  pending : Option Pending := none
  /-- Whether there has been a file. -/
  fileTaken : Bool := false
  /-- Whether only files follow. -/
  onlyFiles : Bool := false

namespace Reading

/-- Take the value of an option, which may not have one already. -/
def takeOption (reading : Reading) (name : ValueOption) (value : Option String) :
    Except ArgumentError Reading :=
  match value with
  | none => .error .invalidValue
  | some value =>
      match name with
      | .emit =>
          if reading.emit.isSome then
            .error .argumentConflict
          else
            match Emit.ofText? value with
            | some emit => .ok { reading with emit := some emit }
            | none => .error .invalidValue
      | .logLevel =>
          if reading.level.isSome then
            .error .argumentConflict
          else
            match Level.ofText? value with
            | some level => .ok { reading with level := some level }
            | none => .error .valueValidation

/-- Look at the value that has not been looked at. -/
def settle (reading : Reading) : Except ArgumentError Reading :=
  let settled := { reading with pending := none }
  match reading.pending with
  | none => .ok settled
  | some (.file value) =>
      if value.isEmpty then
        .error .invalidValue
      else
        .ok { settled with file := some value }
  | some (.option name value) => settled.takeOption name value

/-- Take a file. -/
def takeFile (reading : Reading) (value : String) : Except ArgumentError Reading :=
  if reading.fileTaken then
    .error .unknownArgument
  else do
    let reading ← reading.settle
    return { reading with pending := some (.file value), fileTaken := true }

/-- Take a flag of one letter.  Each of the two flags may be given twice. -/
def takeFlag (reading : Reading) (letter : Char) : Except ArgumentError Reading :=
  match letter with
  | 'v' => do
      let reading ← reading.settle
      if 2 ≤ reading.verbose then
        .error .valueValidation
      else
        return { reading with verbose := reading.verbose + 1 }
  | 'q' => do
      let reading ← reading.settle
      if 2 ≤ reading.quiet then
        .error .valueValidation
      else
        return { reading with quiet := reading.quiet + 1 }
  | 'h' => do
      let _ ← reading.settle
      .error .displayHelp
  | 'V' => do
      let _ ← reading.settle
      .error .displayVersion
  | _ => .error .unknownArgument

/-- Take an option that has a value, which may be attached to it. -/
def takeValueOption (reading : Reading) (name : ValueOption) (attached : Option String) :
    Except ArgumentError Reading := do
  let reading ← reading.settle
  match attached with
  | some value => reading.takeOption name (some value)
  | none => return { reading with pending := some (.option name none) }

/-- Take an option that has no value. -/
def takeInformation (reading : Reading) (shown : ArgumentError) (attached : Option String) :
    Except ArgumentError Reading :=
  if attached.isSome then
    .error .tooManyValues
  else do
    let _ ← reading.settle
    .error shown

/-- Take an option with a long name, given without the two dashes. -/
def takeLong (reading : Reading) (text : List Char) : Except ArgumentError Reading :=
  let name := String.ofList (text.takeWhile (· ≠ '='))
  let attached :=
    match text.dropWhile (· ≠ '=') with
    | _ :: value => some (String.ofList value)
    | [] => none
  if name = "emit" then
    reading.takeValueOption .emit attached
  else if name = "log-level" then
    reading.takeValueOption .logLevel attached
  else if name = "help" then
    reading.takeInformation .displayHelp attached
  else if name = "version" then
    reading.takeInformation .displayVersion attached
  else
    .error .unknownArgument

/-- Take an argument that is no option: the value of an option that waits for one, or a file. -/
def takePlain (reading : Reading) (argument : String) : Except ArgumentError Reading :=
  match reading.pending with
  | some (.option name none) =>
      .ok { reading with pending := some (.option name (some argument)) }
  | _ => reading.takeFile argument

/-- Take one argument. -/
def take (reading : Reading) (argument : String) : Except ArgumentError Reading :=
  if reading.onlyFiles then
    reading.takeFile argument
  else
    match argument.toList with
    | ['-', '-'] => .ok { reading with onlyFiles := true }
    | '-' :: '-' :: text => reading.takeLong text
    | ['-'] => reading.takePlain argument
    | '-' :: letters => letters.foldlM takeFlag reading
    | _ => reading.takePlain argument

/-- Use the level of the environment when no level is given by name. -/
def withEnvironment (reading : Reading) (named : Option String) :
    Except ArgumentError Reading :=
  match reading.level, named with
  | none, some value => reading.takeOption .logLevel (some value)
  | _, _ => .ok reading

/-- What the arguments ask for, after the last one. -/
def finish (reading : Reading) : Except ArgumentError Arguments :=
  if 0 < reading.verbose && 0 < reading.quiet then
    .error .argumentConflict
  else
    match reading.file with
    | none => .error .missingRequiredArgument
    | some file =>
        .ok {
          file := file
          emit := reading.emit
          level := reading.level.getD (Level.ofFlags reading.verbose reading.quiet) }

end Reading

/-- What a list of arguments asks for, where the environment may name a level. -/
def Arguments.parse (arguments : List String) (environmentLevel : Option String) :
    Except ArgumentError Arguments := do
  let reading ← arguments.foldlM Reading.take {}
  let reading ← reading.settle
  let reading ← reading.withEnvironment environmentLevel
  reading.finish

end Zoop.CommandLine
