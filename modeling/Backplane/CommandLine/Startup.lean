import Backplane.CommandLine.Arguments
import Backplane.CommandLine.LogFile
import Backplane.Dialog.Session

/-!
# Starting up

From accepted arguments to a configured machine.  Some failures end the start: the log file
cannot be created, the program storage does not fit, the program's name is invalid or its image
is missing, the machine cannot be built, or the program cannot be loaded.  They are looked for in
this order, and those that can be found before the terminal is taken over are found before it.

A disk that cannot be mounted is no such failure.  It is noted and logged, and can be put right
in the dialog.

Logging begins when the log file has been created.  What each step reports is in the log file
before the next step looks at the host, and before a failure ends the start.

## Limits

The arguments have been read when the start begins, and everything here is a function of the record
of arguments, of the host and of the bytes that the terminal sends.  Taking over the terminal always
succeeds.  Once the machine is configured, the start is over and the processor begins; it is not
modelled.
-/

namespace Backplane.CommandLine

/-- Why a start ended. -/
inductive StartupFailure where
  | logFile (fault : Fault)
  | storageTooLarge (size limit : Nat)
  | invalidProgramName (name : String)
  | programNotFound (path : Path)
  | notBuilt (cause : MachineError)
  | notLoaded (cause : MachineError)
  /-- Building the machine panicked. -/
  | panicked (cause : Panic)
deriving DecidableEq, Repr

/-- The wording of each failure. -/
def StartupFailure.message : StartupFailure → String
  | .logFile fault => "Failed to create log file: " ++ fault.message
  | .storageTooLarge size limit =>
    s!"Program storage of {Hex.size size} bytes does not fit below {Hex.size limit}."
  | .invalidProgramName name => "'" ++ name ++ "' is not a valid program name."
  | .programNotFound path => "Program '" ++ path.text ++ "' not found."
  | .notBuilt cause => "Failed to build the machine: " ++ cause.message
  | .notLoaded cause => "Failed to load program: " ++ cause.message
  | .panicked cause => "panicked: " ++ cause.message

/-- The exit code that goes with each failure. -/
def StartupFailure.exitCode : StartupFailure → UInt8
  | .panicked _ => 101
  | _ => 1

/-- The configuration that arguments ask for: working storage takes all that program storage leaves.
The size is compared with the limit before it is subtracted from it. -/
def Arguments.config (arguments : Arguments) : Except StartupFailure Config :=
  let limit := storageLimit arguments.reservedPage
  if limit < arguments.programSize then .error (.storageTooLarge arguments.programSize limit)
  else
    .ok {
      programSize := arguments.programSize
      workingSize := limit - arguments.programSize
      reservedPage := arguments.reservedPage
      volumesDirectory := arguments.volumesDirectory
      programsDirectory := arguments.programsDirectory
      persistentPath := arguments.persistentPath
      frontPanel := arguments.frontPanel }

/-- Creates the log file, if one is asked for. -/
def createLog (arguments : Arguments) (host : Host) : Except StartupFailure Site :=
  match arguments.log with
  | none => .ok { host }
  | some path =>
    match host.create path with
    | .ok (node, host) => .ok { host, log := some { node, least := arguments.logLevel } }
    | .error fault => .error (.logFile fault)

/-- Checks what can be checked before the terminal is taken over. -/
def checkProgram (arguments : Arguments) (host : Host) : Except StartupFailure Config := do
  let config ← arguments.config
  match Name.resolve? config.programsDirectory arguments.program Name.programExtension with
  | none => .error (.invalidProgramName arguments.program)
  | some path => if host.isFile path then .ok config else .error (.programNotFound path)

/-- Builds the machine and loads its program. -/
def bringUp (arguments : Arguments) (config : Config) (line : Console.Line) (site : Site) :
    Except StartupFailure Machine × Site :=
  let site := site.add .terminalTaken
  match Machine.build config line site.host with
  | ⟨(.error (.refused refusal), host), events⟩ =>
    (.error (.notBuilt refusal), site.after host events)
  | ⟨(.error (.panicked panic), host), events⟩ =>
    (.error (.panicked panic), site.after host events)
  | ⟨(.ok machine, host), events⟩ =>
    let site := site.after host events
    match machine.loadProgram site.host arguments.program with
    | ⟨(.error refusal, _, host), events⟩ =>
      (.error (.notLoaded refusal), site.after host events)
    | ⟨(.ok _, machine, host), events⟩ => (.ok machine, site.after host events)

/-- The note on a disk that cannot be mounted. -/
def driveNote (drive : Disk.Drive) (cause : MachineError) : String :=
  s!"Drive {drive.number}: {cause.message}\r\n"

/-- Mounts the disk asked for in a drive, and notes a refusal. -/
def mountAsked (machine : Machine) (host : Host) (drive : Disk.Drive) :
    Option String → Logged (String × Machine)
  | none => pure ("", machine)
  | some name => do
    match ← machine.mount host drive.number name with
    | (.ok (), machine) => pure ("", machine)
    | (.error refusal, machine) =>
      Logged.report (.driveNotReady drive refusal)
      pure (driveNote drive refusal, machine)

/-- Everything up to the dialog: the machine and the notes on its drives.  A disk that cannot be
mounted leaves a note and does not end the start. -/
def prepare (arguments : Arguments) (line : Console.Line) (site : Site) :
    Except StartupFailure (Machine × String) × Site :=
  match checkProgram arguments site.host with
  | .error failure => (.error failure, site)
  | .ok config =>
    match bringUp arguments config line site with
    | (.error failure, site) => (.error failure, site)
    | (.ok machine, site) =>
      match mountAsked machine site.host .first arguments.firstDisk with
      | ⟨(first, machine), events⟩ =>
        let site := site.addAll events
        match mountAsked machine site.host .second arguments.secondDisk with
        | ⟨(second, machine), events⟩ => (.ok (machine, first ++ second), site.addAll events)

/-- The last thing a start reports. -/
def configuredEvent (machine : Machine) : Event :=
  .configured machine.frontPanel.value machine.led.lit

/-! ## The dialog -/

/-- Feeds a byte to a session on the host of a site, and logs what it reports. -/
def feed (log : Option LogFile) (session : Dialog.Session) (value : UInt8) :
    Dialog.Progress × Option LogFile :=
  match session.feed value with
  | ⟨.waiting ⟨machine, host, prompt, text⟩, events⟩ =>
    match (⟨host, log⟩ : Site).addAll events with
    | ⟨host, log⟩ => (.waiting ⟨machine, host, prompt, text⟩, log)
  | ⟨.left machine host, events⟩ =>
    match (⟨host, log⟩ : Site).addAll events with
    | ⟨host, log⟩ => (.left machine host, log)

/-- Feeds bytes to a session until it is over or has used them up. -/
def feedAll (log : Option LogFile) (session : Dialog.Session) :
    List UInt8 → Dialog.Progress × Option LogFile
  | [] => (.waiting session, log)
  | value :: rest =>
    match feed log session value with
    | (.waiting next, log) => feedAll log next rest
    | (.left machine host, log) => (.left machine host, log)

/-- Shows the dialog, unless it is skipped, and reports the machine as configured.  A dialog that
runs out of input is not left, and then the machine is never configured. -/
def configure (arguments : Arguments) (machine : Machine) (site : Site) : Machine × Site :=
  if arguments.dialog then
    match site.add .dialogEntered with
    | ⟨host, log⟩ =>
      let session := Dialog.showMenu (Dialog.withInput machine []) host
      match feedAll log session machine.console.line.input with
      | (.waiting session, log) => (session.machine, ⟨session.host, log⟩)
      | (.left machine host, log) =>
        (machine, (⟨host, log⟩ : Site).addAll [.dialogLeft, configuredEvent machine])
  else (machine, site.add (configuredEvent machine))

/-! ## Whole runs -/

/-- What a whole run leaves behind. -/
structure Outcome where
  exitCode : UInt8
  /-- What was sent to the terminal. -/
  terminal : Array UInt8 := #[]
  /-- The notes and the failure, for the person at the host. -/
  notes : String := ""
  /-- The host's files, the log file among them. -/
  host : Host

/-- The text that reports a failure. -/
def failureNote (failure : StartupFailure) : String := "Error: " ++ failure.message ++ "\n"

/-- Runs the program on a terminal that sends the given bytes. -/
def run (arguments : Arguments) (input : List UInt8) (host : Host) : Outcome :=
  match createLog arguments host with
  | .error failure => { exitCode := failure.exitCode, notes := failureNote failure, host }
  | .ok site =>
    match prepare arguments { input } site with
    | (.error failure, site) =>
      { exitCode := failure.exitCode, notes := failureNote failure, host := site.host }
    | (.ok (machine, notes), site) =>
      match configure arguments machine site with
      | (machine, site) =>
        { exitCode := 0, terminal := machine.console.line.output, notes, host := site.host }

end Backplane.CommandLine
