import Backplane.CommandLine.Startup
import Backplane.Console.Terminal
import Backplane.Host.Changes

/-!
# The program

The outer layer: it copies the files that the machine may look at into a tree, runs the start and
the dialog on that tree, and carries what changed back to the host.  It decides nothing about the
machine.

The dialog expects the terminal in raw mode, so that every key arrives at once and is not echoed.
-/

namespace Backplane.Program

open CommandLine

/-! ## Files -/

/-- The host's error as a fault. -/
def faultOf (error : IO.Error) : Fault :=
  match error with
  | .noFileOrDirectory .. => .notFound
  | .inappropriateType .. => .isADirectory
  | other => .reported (toString other)

/-- Copies a file into the tree, if it is there. -/
def copyIn (host : Host) (path : Path) : IO Host := do
  try
    let bytes ← IO.FS.readBinFile path.text
    match host.makeFile path bytes.data with
    | .ok host => pure host
    | .error _ => pure host
  catch _ => pure host

/-- Copies a file from the tree to the host. -/
def copyOut (host : Host) (path : Path) : IO Unit :=
  match host.contents? path with
  | some content => IO.FS.writeBinFile path.text ⟨content.toList.toArray⟩
  | none => pure ()

/-- Makes a file if it is missing. -/
def touch (path : Path) : IO Unit := do
  try
    let _ ← IO.FS.Handle.mk path.text .append
  catch _ => pure ()

/-- The image of a bare name, if the name is valid. -/
def imagesOf (directory : Path) (extension name : String) : List Path :=
  (Name.resolve? directory name extension).toList

/-- The images that a session can look at when it is fed a byte: those of the name typed so far
and of the name with the byte. -/
def imagesWanted (session : Dialog.Session) (value : UInt8) : List Path :=
  let config := session.machine.config
  let names := [Dialog.lineText session.text, Dialog.lineText (session.text ++ [value])]
  match session.prompt with
  | .programName => names.flatMap (imagesOf config.programsDirectory Name.programExtension)
  | .diskName _ => names.flatMap (imagesOf config.volumesDirectory Name.diskExtension)
  | _ => []

/-! ## The log file -/

/-- The log file of the host, which follows the one in the tree. -/
structure OpenLog where
  handle : IO.FS.Handle
  /-- When the program started, in nanoseconds. -/
  start : Nat

/-- The site at the present time. -/
def now (file : Option OpenLog) (site : Site) : IO Site := do
  match file with
  | none => pure site
  | some file => pure (site.atTime (((← IO.monoNanosNow) - file.start) / 1000))

/-- Writes bytes to a log file.  One that refuses them stops nothing. -/
def writeOut (file : OpenLog) (bytes : List UInt8) : IO Unit := do
  try
    file.handle.write ⟨bytes.toArray⟩
    file.handle.flush
  catch _ => pure ()

/-- Carries to the host what was added to the log file in the tree. -/
def carryLog (file : Option OpenLog) (before after : Site) : IO Unit := do
  match file, before.log, after.log with
  | some file, some old, some new =>
    match after.host.read new.node old.written (new.written - old.written) with
    | .ok [] => pure ()
    | .ok bytes => writeOut file bytes
    | .error _ => pure ()
  | _, _, _ => pure ()

/-- Creates the log file, if one is asked for, on the host and in the tree. -/
def openLog (arguments : Arguments) :
    IO (Except StartupFailure (Option OpenLog × Site)) := do
  match arguments.log with
  | none => pure (.ok (none, {}))
  | some path =>
    try
      let handle ← IO.FS.Handle.mk path.text .write
      let host := (({} : Host).makeDirectoryOf path).1
      match createLog arguments host with
      | .ok site => pure (.ok (some { handle, start := ← IO.monoNanosNow }, site))
      | .error failure => pure (.error failure)
    catch error => pure (.error (.logFile (faultOf error)))

/-! ## The dialog -/

/-- Sends to the terminal what the machine has sent to its line. -/
def showOutput (machine : Machine) : IO Machine := do
  let (bytes, line) := machine.console.line.collect
  let out ← IO.getStdout
  out.write ⟨bytes⟩
  out.flush
  pure { machine with console := { machine.console with line } }

/-- Feeds bytes to a session until the dialog is left or they are used up. -/
def feedAll (file : Option OpenLog) (log : Option LogFile) (session : Dialog.Session) :
    List UInt8 → IO (Dialog.Progress × Option LogFile)
  | [] => pure (.waiting session, log)
  | value :: rest => do
    let host ← (imagesWanted session value).foldlM copyIn session.host
    let before ← now file { host, log }
    match CommandLine.feed before.log { session with host } value with
    | (.waiting next, log) =>
      carryLog file before { host := next.host, log }
      feedAll file log next rest
    | (.left machine host, log) =>
      carryLog file before { host, log }
      pure (.left machine host, log)

/-- Feeds keys to a session until the dialog is left or the terminal is closed. -/
partial def talk (file : Option OpenLog) (collected : List UInt8) (log : Option LogFile)
    (session : Dialog.Session) : IO (Option (Machine × Site)) := do
  let machine ← showOutput session.machine
  let received ← (← IO.getStdin).read 1024
  if received.isEmpty then return none
  let (input, collected) := Console.Terminal.lineInput collected received.data.toList
  match ← feedAll file log { session with machine } input with
  | (.waiting next, log) => talk file collected log next
  | (.left machine host, log) => return some (← showOutput machine, { host, log })

/-- Logs events on the host and in the tree. -/
def logEvents (file : Option OpenLog) (site : Site) (events : List Event) : IO Site := do
  let before ← now file site
  let after := before.addAll events
  carryLog file before after
  pure after

/-- Shows the dialog, unless it is skipped, and reports the machine as configured. -/
def configure (file : Option OpenLog) (arguments : Arguments) (machine : Machine)
    (site : Site) : IO Unit := do
  if arguments.dialog then
    let site ← logEvents file site [.dialogEntered]
    match ← talk file [] site.log (Dialog.showMenu machine site.host) with
    | some (machine, site) =>
      let _ ← logEvents file site [.dialogLeft, configuredEvent machine]
    | none => pure ()
  else
    let _ ← logEvents file site [configuredEvent machine]

/-! ## The run -/

/-- Reports a failure and gives its exit code. -/
def fail (failure : StartupFailure) : IO UInt32 := do
  IO.eprint (failureNote failure)
  pure 1

/-- The images that the arguments name. -/
def imagesNamed (arguments : Arguments) : List Path :=
  imagesOf arguments.programsDirectory Name.programExtension arguments.program ++
    (arguments.firstDisk.toList ++ arguments.secondDisk.toList).flatMap
      (imagesOf arguments.volumesDirectory Name.diskExtension)

/-- Runs the program on accepted arguments. -/
def run (arguments : Arguments) : IO UInt32 := do
  match ← openLog arguments with
  | .error failure => fail failure
  | .ok (file, site) =>
    let host ← (imagesNamed arguments).foldlM copyIn site.host
    match checkProgram arguments host with
    | .error failure => fail failure
    | .ok _ =>
      let persistent := arguments.persistentPath.toList
      persistent.forM touch
      let host ← persistent.foldlM copyIn host
      let before ← now file { site with host }
      match prepare arguments {} before with
      | (.error failure, site) =>
        persistent.forM (copyOut site.host)
        carryLog file before site
        fail failure
      | (.ok (machine, notes), site) =>
        persistent.forM (copyOut site.host)
        carryLog file before site
        IO.eprint notes
        configure file arguments machine site
        pure 0

/-- What the program says when it does not start. -/
def stopText : Stop → String
  | .showHelp =>
    "usage: backplane PROGRAM [--programs-dir DIR] [--volumes-dir DIR] [--drive-a NAME]\n" ++
    "  [--drive-b NAME] [--fram PATH] [--rom-size BYTES] [--no-reserved-page] [--fp HEX]\n" ++
    "  [-l PATH | --log PATH] [-L LEVEL | --log-level LEVEL] [--no-dialog]\n"
  | .showVersion => "backplane 1.0.0\n"
  | .refused .missingProgram => "error: no program is named\n"
  | .refused .unknownArgument => "error: unknown argument\n"
  | .refused .invalidValue => "error: a value is missing or not possible\n"
  | .refused (.malformedValue reason) => "error: " ++ reason ++ "\n"
  | .refused .repeated => "error: an option is given twice\n"
  | .refused .unexpectedValue => "error: an option without a value has one\n"

end Backplane.Program

open Backplane in
/-- Reads the arguments and runs the program. -/
def main (arguments : List String) : IO UInt32 := do
  match CommandLine.readArguments arguments with
  | .ok accepted => Program.run accepted
  | .error stop =>
    if stop.exitCode = 0 then IO.print (Program.stopText stop)
    else IO.eprint (Program.stopText stop)
    pure stop.exitCode.toUInt32
