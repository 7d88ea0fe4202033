import Backplane.Event
import Backplane.Host.Tree

/-!
# The log file

A log file is a file of the host like any other, and it is written while the machine runs.  The
lines of an operation are added when it is done and before the next one looks at the host: a
program or a persistent memory that is kept in the log file holds what has been logged so far.

Lines are not put at the end of the file but behind the last one, and the two differ if the file
was made longer in between.

A log file that refuses a line stays as it is, and nothing else comes of it: no run ends because
it could not be logged.
-/

namespace Backplane.CommandLine

/-! ## Lines -/

/-- A number in a column of digits. -/
def column (width n : Nat) : String :=
  String.ofList ((toString n).toList.leftpad width '0')

/-- A time in microseconds as hours, minutes, seconds and the rest. -/
def timeStamp (micros : Nat) : String :=
  let seconds := micros / 1000000
  column 2 (seconds / 3600) ++ ":" ++ column 2 (seconds / 60 % 60) ++ ":" ++
    column 2 (seconds % 60) ++ "." ++ column 6 (micros % 1000000)

/-- The column a level takes up in the log file. -/
def levelColumn : Level → String
  | .trace => "[TRACE]"
  | .debug => "[DEBUG]"
  | .info => "[INFO ]"
  | .warn => "[WARN ]"

/-- What the log file says about an event, after the time stamp. -/
def logText (event : Event) : String := levelColumn event.level ++ " " ++ event.message

/-- A line of the log file. -/
def logLine (micros : Nat) (event : Event) : String :=
  timeStamp micros ++ " " ++ logText event ++ "\n"

/-! ## Writing -/

/-- A log file that is being written. -/
structure LogFile where
  node : Node
  /-- The least level that is logged. -/
  least : Level
  /-- How many bytes have been written, which is where the next line goes. -/
  written : Nat := 0
  /-- What the clock shows, in microseconds.  It is set from outside. -/
  time : Nat := 0

/-- Adds the line of an event, unless its level is too low. -/
def LogFile.append (log : LogFile) (host : Host) (event : Event) : LogFile × Host :=
  if event.isShown log.least then
    let line := (logLine log.time event).toUTF8.data.toList
    match host.write log.node log.written line with
    | .ok host => ({ log with written := log.written + line.length }, host)
    | .error _ => (log, host)
  else (log, host)

/-! ## Sites -/

/-- Where a machine is started: the host's files, and the log file if one is kept. -/
structure Site where
  host : Host := {}
  log : Option LogFile := none

namespace Site

/-- Logs an event, if a log file is kept. -/
def add (site : Site) (event : Event) : Site :=
  match site with
  | ⟨host, none⟩ => ⟨host, none⟩
  | ⟨host, some log⟩ =>
    match log.append host event with
    | (log, host) => ⟨host, some log⟩

/-- Logs events in order. -/
def addAll (site : Site) : List Event → Site
  | [] => site
  | event :: rest => (site.add event).addAll rest

/-- The site after an operation that changed the host's files and reported events. -/
def after (site : Site) (host : Host) (events : List Event) : Site :=
  (⟨host, site.log⟩ : Site).addAll events

/-- The site at another time of the clock. -/
def atTime (site : Site) (micros : Nat) : Site :=
  { site with log := site.log.map fun log => { log with time := micros } }

@[simp]
theorem addAll_nil (site : Site) : site.addAll [] = site := rfl

@[simp]
theorem addAll_cons (site : Site) (event : Event) (events : List Event) :
    site.addAll (event :: events) = (site.add event).addAll events := rfl

end Site

end Backplane.CommandLine
