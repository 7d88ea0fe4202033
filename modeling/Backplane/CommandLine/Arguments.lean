import Backplane.Machine.Config
import Backplane.Numeral

/-!
# Command-line arguments

The command line names a program and sets options.  An option has a long name, given after two
dashes; two of them, and the two requests for information, also have a letter, given after one
dash.  A value follows its option as the next argument, after an equals sign, or directly after
the letter.  Two dashes alone end the options: all that follows is taken as it stands.

A value given as an argument of its own is not looked at before the next argument has been
recognised.  So of two faults in a row, a bad value and then an argument that is not known at
all, the second is reported, while a bad value before anything else that is recognised is
reported itself.  `Reader.pending` holds the value that waits.

Giving anything twice is refused, whatever the values.

## Reader and record

The reader follows the conventions of command lines as they are described above, and how it treats a
malformed command line is a matter of these conventions and not of the machine.  What is proved
about starts is about the record `Arguments`, whichever reader has filled it in.
-/

namespace Backplane.CommandLine

/-- Why arguments are refused. -/
inductive Refusal where
  /-- No program is named. -/
  | missingProgram
  /-- An argument is no option, and there is no place left for it. -/
  | unknownArgument
  /-- A value is missing, or not one of those that are possible. -/
  | invalidValue
  /-- A value is no number of the kind asked for. -/
  | malformedValue (reason : String)
  /-- Something is given twice. -/
  | repeated
  /-- An option that takes no value has one. -/
  | unexpectedValue
deriving DecidableEq, Repr

/-- Why the program does not start. -/
inductive Stop where
  | refused (cause : Refusal)
  | showHelp
  | showVersion
deriving DecidableEq, Repr

/-- The exit code that goes with each: asking for information is no failure. -/
def Stop.exitCode : Stop → UInt8
  | .refused _ => 2
  | .showHelp => 0
  | .showVersion => 0

/-- An option with a value. -/
inductive Setting where
  | programsDirectory
  | volumesDirectory
  | firstDisk
  | secondDisk
  | persistentPath
  | programSize
  | frontPanel
  | log
  | logLevel
deriving DecidableEq, Repr

/-- An option without a value. -/
inductive Switch where
  | noReservedPage
  | noDialog
  | help
  | version
deriving DecidableEq, Repr

/-- What an argument sets. -/
inductive Target where
  | setting (setting : Setting)
  | switch (switch : Switch)
deriving DecidableEq, Repr

/-- The option of a long name. -/
def Target.ofName? : String → Option Target
  | "programs-dir" => some (.setting .programsDirectory)
  | "volumes-dir" => some (.setting .volumesDirectory)
  | "drive-a" => some (.setting .firstDisk)
  | "drive-b" => some (.setting .secondDisk)
  | "fram" => some (.setting .persistentPath)
  | "rom-size" => some (.setting .programSize)
  | "fp" => some (.setting .frontPanel)
  | "log" => some (.setting .log)
  | "log-level" => some (.setting .logLevel)
  | "no-reserved-page" => some (.switch .noReservedPage)
  | "no-dialog" => some (.switch .noDialog)
  | "help" => some (.switch .help)
  | "version" => some (.switch .version)
  | _ => none

/-- The option of a letter. -/
def Target.ofLetter? : Char → Option Target
  | 'l' => some (.setting .log)
  | 'L' => some (.setting .logLevel)
  | 'h' => some (.switch .help)
  | 'V' => some (.switch .version)
  | _ => none

/-! ## Values -/

/-- What has been given so far. -/
structure Given where
  program : Option String := none
  programsDirectory : Option Path := none
  volumesDirectory : Option Path := none
  firstDisk : Option String := none
  secondDisk : Option String := none
  persistentPath : Option Path := none
  programSize : Option Nat := none
  frontPanel : Option UInt8 := none
  log : Option Path := none
  logLevel : Option Level := none
  noReservedPage : Bool := false
  noDialog : Bool := false
deriving DecidableEq, Repr

/-- Accepts a path, which cannot be empty. -/
def readPath (value : String) : Except Stop Path :=
  if value = "" then .error (.refused .invalidValue) else .ok ⟨value⟩

/-- Reads a size, or says why the text is none. -/
def readSize (text : String) : Except String Nat :=
  (Numeral.size? text).mapError fun cause => s!"'{text}' is not a size: {cause.message}"

/-- Reads a byte in hexadecimal, or says why the text is none. -/
def readHexByte (text : String) : Except String UInt8 :=
  (Numeral.byte? text).mapError fun cause => s!"'{text}' is not a hex byte: {cause.message}"

/-- Accepts a number. -/
def acceptNumber {α : Type} (number : Except String α) : Except Stop α :=
  number.mapError fun reason => .refused (.malformedValue reason)

/-- Accepts the name of a level in either case. -/
def readLevel (value : String) : Except Stop Level :=
  match String.ofList (value.toList.map Char.toUpper) with
  | "TRACE" => .ok .trace
  | "DEBUG" => .ok .debug
  | "INFO" => .ok .info
  | "WARN" => .ok .warn
  | _ => .error (.refused .invalidValue)

/-- Takes a value for the first time. -/
def once {α : Type} (earlier : Option α) (value : Except Stop α) : Except Stop (Option α) :=
  match earlier with
  | some _ => .error (.refused .repeated)
  | none => value.map some

namespace Given

/-- Sets an option to a value. -/
def set (given : Given) (setting : Setting) (value : String) : Except Stop Given :=
  match setting with
  | .programsDirectory =>
    (once given.programsDirectory (readPath value)).map ({ given with programsDirectory := · })
  | .volumesDirectory =>
    (once given.volumesDirectory (readPath value)).map ({ given with volumesDirectory := · })
  | .firstDisk => (once given.firstDisk (.ok value)).map ({ given with firstDisk := · })
  | .secondDisk => (once given.secondDisk (.ok value)).map ({ given with secondDisk := · })
  | .persistentPath =>
    (once given.persistentPath (readPath value)).map ({ given with persistentPath := · })
  | .programSize =>
    (once given.programSize (acceptNumber (readSize value))).map
      ({ given with programSize := · })
  | .frontPanel =>
    (once given.frontPanel (acceptNumber (readHexByte value))).map
      ({ given with frontPanel := · })
  | .log => (once given.log (.ok ⟨value⟩)).map ({ given with log := · })
  | .logLevel => (once given.logLevel (readLevel value)).map ({ given with logLevel := · })

/-- Turns on an option without a value.  The requests for information end the reading. -/
def turnOn (given : Given) : Switch → Except Stop Given
  | .noReservedPage =>
    if given.noReservedPage then .error (.refused .repeated)
    else .ok { given with noReservedPage := true }
  | .noDialog =>
    if given.noDialog then .error (.refused .repeated)
    else .ok { given with noDialog := true }
  | .help => .error .showHelp
  | .version => .error .showVersion

end Given

/-! ## Reading -/

/-- What the last argument left open. -/
inductive Pending where
  | nothing
  /-- An option whose value is still to come. -/
  | awaiting (setting : Setting)
  /-- An option with a value that has not been looked at. -/
  | holding (setting : Setting) (value : String)
deriving DecidableEq, Repr

/-- A reader of arguments between two of them. -/
structure Reader where
  given : Given := {}
  pending : Pending := .nothing
  /-- Whether the options have ended. -/
  optionsEnded : Bool := false
deriving DecidableEq, Repr

/-- The forms of an argument. -/
inductive Form where
  /-- Two dashes alone. -/
  | separator
  /-- A long name, with the value after an equals sign if there is one. -/
  | long (name : String) (value : Option String)
  /-- A letter after one dash, with all that follows it. -/
  | letter (letter : Char) (rest : List Char)
  /-- Anything else, a dash alone included. -/
  | plain
deriving DecidableEq, Repr

/-- Recognises the form of an argument. -/
def Form.ofArgument (argument : String) : Form :=
  match argument.toList with
  | ['-', '-'] => .separator
  | '-' :: '-' :: rest =>
    match rest.dropWhile (· != '=') with
    | [] => .long (String.ofList rest) none
    | _ :: value => .long (String.ofList (rest.takeWhile (· != '='))) (some (String.ofList value))
  | '-' :: c :: rest => .letter c rest
  | _ => .plain

namespace Reader

/-- Looks at what the last argument left open. -/
def resolve (reader : Reader) : Except Stop Reader :=
  match reader.pending with
  | .nothing => .ok reader
  | .awaiting _ => .error (.refused .invalidValue)
  | .holding setting value =>
    (reader.given.set setting value).map ({ reader with given := ·, pending := .nothing })

/-- Takes an option with a value that is part of the same argument. -/
def takeAttached (reader : Reader) (setting : Setting) (value : String) : Except Stop Reader := do
  let reader ← reader.resolve
  (reader.given.set setting value).map ({ reader with given := · })

/-- Takes an option whose value is to be the next argument. -/
def takeSetting (reader : Reader) (setting : Setting) : Except Stop Reader := do
  let reader ← reader.resolve
  .ok { reader with pending := .awaiting setting }

/-- Takes an option without a value. -/
def takeSwitch (reader : Reader) (switch : Switch) : Except Stop Reader := do
  let reader ← reader.resolve
  (reader.given.turnOn switch).map ({ reader with given := · })

/-- Takes an option by its long name. -/
def takeLong (reader : Reader) (name : String) (value : Option String) : Except Stop Reader :=
  match Target.ofName? name, value with
  | none, _ => .error (.refused .unknownArgument)
  | some (.setting setting), some value => reader.takeAttached setting value
  | some (.setting setting), none => reader.takeSetting setting
  | some (.switch _), some _ => .error (.refused .unexpectedValue)
  | some (.switch switch), none => reader.takeSwitch switch

/-- Takes an option by its letter.  An equals sign between the letter and the value is no part of
the value. -/
def takeLetter (reader : Reader) (letter : Char) (rest : List Char) : Except Stop Reader :=
  match Target.ofLetter? letter, rest with
  | none, _ => .error (.refused .unknownArgument)
  | some (.setting setting), [] => reader.takeSetting setting
  | some (.setting setting), '=' :: value => reader.takeAttached setting (String.ofList value)
  | some (.setting setting), value => reader.takeAttached setting (String.ofList value)
  | some (.switch switch), _ => reader.takeSwitch switch

/-- Takes an argument that is no option: the name of the program, the first time. -/
def takePlain (reader : Reader) (argument : String) : Except Stop Reader :=
  match reader.given.program with
  | some _ => .error (.refused .unknownArgument)
  | none => do
    let reader ← reader.resolve
    .ok { reader with given := { reader.given with program := some argument } }

/-- Takes the next argument. -/
def take (reader : Reader) (argument : String) : Except Stop Reader :=
  if reader.optionsEnded then reader.takePlain argument
  else
    match Form.ofArgument argument with
    | .separator => .ok { reader with optionsEnded := true }
    | .long name value => reader.takeLong name value
    | .letter letter rest => reader.takeLetter letter rest
    | .plain =>
      match reader.pending with
      | .awaiting setting => .ok { reader with pending := .holding setting argument }
      | _ => reader.takePlain argument

end Reader

/-! ## The arguments as a whole -/

/-- Accepted arguments, with defaults in place of what was not given. -/
structure Arguments where
  program : String
  programsDirectory : Path
  volumesDirectory : Path
  firstDisk : Option String
  secondDisk : Option String
  persistentPath : Option Path
  programSize : Nat
  reservedPage : Bool
  frontPanel : UInt8
  log : Option Path
  logLevel : Level
  dialog : Bool
deriving DecidableEq, Repr

/-- Completes what was given, if it names a program. -/
def Given.complete (given : Given) : Except Stop Arguments :=
  match given.program with
  | none => .error (.refused .missingProgram)
  | some program =>
    let standard : Config := {}
    .ok {
      program
      programsDirectory := given.programsDirectory.getD standard.programsDirectory
      volumesDirectory := given.volumesDirectory.getD standard.volumesDirectory
      firstDisk := given.firstDisk
      secondDisk := given.secondDisk
      persistentPath := given.persistentPath
      programSize := given.programSize.getD standard.programSize
      reservedPage := !given.noReservedPage
      frontPanel := given.frontPanel.getD standard.frontPanel
      log := given.log
      logLevel := given.logLevel.getD .trace
      dialog := !given.noDialog }

/-- Reads all arguments. -/
def readArguments (arguments : List String) : Except Stop Arguments := do
  let reader ← arguments.foldlM Reader.take {}
  let reader ← reader.resolve
  reader.given.complete

end Backplane.CommandLine
