import Backplane.Dialog.Dump
import Backplane.Dialog.Editor
import Backplane.Machine.Basic
import Backplane.Numeral

/-!
# The configuration dialog

Before the machine runs, the person at the host can set the front panel, load a program, mount
disks and look at memory, in a dialog over the serial line.  A menu is shown, a command of one
character is read, the command may ask for one more line, and the menu is shown again, until the
command to run the machine.

The dialog is a *session* that is fed one byte at a time: it knows which prompt is being answered
and what has been typed so far, and each byte takes it to the next such state.  Feeding is total,
so the only way to wait is to have no byte left, and a session depends on the bytes it was fed
and not on how they arrived.

While a session runs, the machine's input queue is empty, because the session has taken it over;
what it does not use is put back at the end.

## Answers

An answer that is refused is said to be, and the menu is shown again: a number that is none, a name
that is no bare name, a file that is not there.  No answer ends the dialog but the command to run
the machine.  The answer to the last question, for an address, shows memory as the bus reads it, and
that is the only thing in a dialog that reports failures of devices.
-/

namespace Backplane.Dialog

/-- What the line being typed answers. -/
inductive Prompt where
  /-- The menu. -/
  | command
  /-- The value of the front panel. -/
  | panelValue
  /-- The name of a program. -/
  | programName
  /-- The name of a disk for a drive. -/
  | diskName (drive : Disk.Drive)
  /-- The address a dump starts at. -/
  | address
deriving DecidableEq, Repr

/-- The most characters that each answer can have. -/
def Prompt.limit : Prompt → Nat
  | .command => 1
  | .panelValue => 2
  | .programName => Name.maxLength
  | .diskName _ => Name.maxLength
  | .address => 4

/-- What asks for each answer; the menu is asked for with `menu`. -/
def Prompt.question : Prompt → String
  | .command => ""
  | .panelValue => "Value (hex): "
  | .programName => "Filename: "
  | .diskName _ => "Disk name (empty to unmount): "
  | .address => "Address (hex): "

/-- How the menu labels a drive: with the name of its disk, which is its image's file name
without the extension. -/
def driveLabel (image : Option Path) : String := (image.bind Path.stem?).getD "none"

/-- The menu. -/
def menu (frontPanel : UInt8) (drives : Disk.Drives) : String :=
  "1 - set port 255 value, currently " ++ Hex.byte frontPanel ++ "\r\n" ++
  "2 - load file\r\n" ++
  "3 - mount disk in drive 0, currently " ++ driveLabel drives.first ++ "\r\n" ++
  "4 - mount disk in drive 1, currently " ++ driveLabel drives.second ++ "\r\n" ++
  "5 - examine memory\r\n" ++
  "6 - run machine\r\n\r\n" ++
  "Command: "

/-- A dialog that waits for a byte: the machine and the host as they are by now, the prompt that is
being answered, and what has been typed for it. -/
structure Session where
  machine : Machine
  host : Host
  /-- What is being answered. -/
  prompt : Prompt
  /-- What has been typed so far. -/
  text : List UInt8

/-- What feeding a byte leads to. -/
inductive Progress where
  /-- The session goes on. -/
  | waiting (session : Session)
  /-- The dialog is over. -/
  | left (machine : Machine) (host : Host)

/-! ## Output -/

/-- Sends bytes to the terminal. -/
def send (machine : Machine) (bytes : List UInt8) : Machine :=
  match machine with
  | ⟨config, memory, ports, ⟨line, last⟩, led, controller, frontPanel⟩ =>
    ⟨config, memory, ports, ⟨line.sendAll bytes, last⟩, led, controller, frontPanel⟩

/-- Sends text to the terminal. -/
def say (machine : Machine) (text : String) : Machine := send machine text.toUTF8.data.toList

/-- Asks for a line. -/
def ask (machine : Machine) (host : Host) (prompt : Prompt) : Session where
  machine := say machine prompt.question
  host
  prompt
  text := []

/-- Shows the menu and waits for a command. -/
def showMenu (machine : Machine) (host : Host) : Session where
  machine := say machine (menu machine.frontPanel.value machine.controller.drives)
  host
  prompt := .command
  text := []

/-! ## Commands and answers -/

/-- What a command asks for. -/
inductive Choice where
  | prompt (next : Prompt)
  | leave
  /-- Not a command; the menu is shown again. -/
  | again
deriving DecidableEq, Repr

/-- The commands of the menu. -/
def Choice.ofText (text : String) : Choice :=
  match text with
  | "1" => .prompt .panelValue
  | "2" => .prompt .programName
  | "3" => .prompt (.diskName .first)
  | "4" => .prompt (.diskName .second)
  | "5" => .prompt .address
  | "6" => .leave
  | _ => .again

/-- Obeys a command. -/
def obey (machine : Machine) (host : Host) (text : String) : Progress :=
  let machine := say machine "\r\n"
  match Choice.ofText text with
  | .prompt next => .waiting (ask machine host next)
  | .leave => .left machine host
  | .again => .waiting (showMenu (say machine "\r\n") host)

/-- What the dialog says about a request that can be refused. -/
def reply (accepted : String) : Except MachineError Unit → String
  | .ok () => accepted
  | .error refusal => refusal.message ++ "\r\n"

/-- Acts on the answer to a question, and gives what is to be said about it. -/
def act (machine : Machine) (host : Host) (prompt : Prompt) (text : String) :
    Logged (String × Machine × Host) :=
  match prompt with
  | .command => pure ("", machine, host)
  | .panelValue =>
    match Numeral.byte? text with
    | .ok value => do
      let machine ← machine.setFrontPanel value
      pure ("", machine, host)
    | .error _ => pure ("Invalid value.\r\n", machine, host)
  | .programName => do
    match ← machine.loadProgram host text with
    | (.ok size, machine, host) => pure (s!"Loaded {size} bytes.\r\n", machine, host)
    | (.error refusal, machine, host) => pure (refusal.message ++ "\r\n", machine, host)
  | .diskName drive => do
    match ← machine.mount host drive.number text with
    | (result, machine) =>
      pure (reply (if text = "" then "Unmounted.\r\n" else "Mounted.\r\n") result,
        machine, host)
  | .address =>
    match Numeral.word? text with
    | .ok start => do
      let shown ← dump machine.memory host start
      pure (shown, machine, host)
    | .error _ => pure ("Invalid address.\r\n", machine, host)

/-- Takes a complete line. -/
def complete (machine : Machine) (host : Host) (prompt : Prompt) (text : String) :
    Logged Progress :=
  match prompt with
  | .command => pure (obey machine host text)
  | question => do
    match ← act machine host question text with
    | (said, machine, host) =>
      pure (.waiting (showMenu (say (say machine said) "\r\n") host))

/-! ## Sessions -/

/-- Feeds a byte to a session.  The editor decides what the byte does to the line, and a line that
it completes is taken as the answer to the prompt. -/
def Session.feed (session : Session) (value : UInt8) : Logged Progress :=
  match session with
  | ⟨machine, host, prompt, text⟩ =>
    match press prompt.limit text value with
    | ⟨text, echo, false⟩ => pure (.waiting ⟨send machine echo, host, prompt, text⟩)
    | ⟨text, echo, true⟩ =>
      complete (send machine (echo ++ [carriageReturn, lineFeed])) host prompt (lineText text)

/-- Feeds bytes to a session until it is over or has used them up, and gives what is left. -/
def Session.run (session : Session) : List UInt8 → Logged (Progress × List UInt8)
  | [] => pure (.waiting session, [])
  | value :: rest => do
    match ← session.feed value with
    | .waiting next => next.run rest
    | .left machine host => pure (.left machine host, rest)

/-- How a dialog ended. -/
inductive Ending where
  /-- With the command to run the machine. -/
  | left
  /-- With no byte left, so it would have gone on waiting. -/
  | waiting
deriving DecidableEq, Repr

/-- Puts unused input back into the machine's queue. -/
def withInput (machine : Machine) (input : List UInt8) : Machine :=
  match machine with
  | ⟨config, memory, ports, ⟨⟨_, output, ready?⟩, last⟩, led, controller, frontPanel⟩ =>
    ⟨config, memory, ports, ⟨⟨input, output, ready?⟩, last⟩, led, controller, frontPanel⟩

/-- Runs the dialog on the machine's queued input.  The session takes all of it over, and what it
has not used when the dialog is left is put back. -/
def run (machine : Machine) (host : Host) : Logged (Ending × Machine × Host) := do
  Logged.report .dialogEntered
  let input := machine.console.line.input
  match ← (showMenu (withInput machine []) host).run input with
  | (.left machine host, rest) =>
    Logged.report .dialogLeft
    pure (.left, withInput machine rest, host)
  | (.waiting session, rest) =>
    pure (.waiting, withInput session.machine rest, session.host)

end Backplane.Dialog
