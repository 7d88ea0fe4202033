import Backplane.Console.Device
import Backplane.Disk.Controller
import Backplane.Machine.Config
import Backplane.Panel
import Backplane.Ports

/-!
# The machine

A machine is storage in an address space, a port table, and the devices behind the ports.  The
processor drives it through four operations: `read` and `write` on the bus, `input` and `output`
on the ports.  None of them can fail.  The person at the host mounts disks, loads programs and
sets the front panel; those requests can be refused.

Machines share nothing but the host's files.  Every operation takes the machine, and the host if
it looks at files, and gives both back if it may have changed them.

## Refusals and panics

Building can be refused, with an error that says why, and what was done to the host before is not
taken back.  It can also panic, where a size is too large for any array or the sum of two sizes is
no 64-bit word; then there is neither a machine nor an error.  `BuildFailure` keeps the two apart.

Loading a program goes through a fixed sequence of conditions: the name is a bare name, its path
leads to a regular file, the host lets the file be opened and read, and the image is no longer than
program storage.  Only then is a byte stored.
-/

namespace Backplane

/-- One complete machine.  Its parts do not refer to each other: an operation that needs two of
them, such as a disk transfer, is given both. -/
structure Machine where
  config : Config
  memory : Memory
  ports : PortTable
  console : Console
  led : Led
  controller : Disk.Controller
  frontPanel : FrontPanel

namespace Machine

/-! ## Building -/

/-- The working storage of a configuration: an image file if it names one, or else an array. -/
def openWorking (config : Config) (host : Host) : Logged (Except BuildFailure Store × Host) :=
  match config.persistentPath with
  | some path => do
    match ← Store.openPersistent host path config.workingSize with
    | (result, host) => pure (result.mapError fun fault => .refused (.io fault), host)
  | none => pure ((Store.allocate config.workingSize).mapError .panicked, host)

/-- A machine around laid-out storage, with the standard port map and empty drives. -/
def ofMemory (config : Config) (memory : Memory) (line : Console.Line) : Machine where
  config
  memory
  ports := .standard
  console := { line }
  led := {}
  controller := { volumesDirectory := config.volumesDirectory }
  frontPanel := { value := config.frontPanel }

/-- Builds a machine on a serial line.  Working storage is opened before the layout is checked, so a
machine that is refused for its layout has an image already, if its working storage is kept in
one. -/
def build (config : Config) (line : Console.Line) (host : Host) :
    Logged (Except BuildFailure Machine × Host) := do
  match Store.allocate config.programSize with
  | .error panic => pure (.error (.panicked panic), host)
  | .ok program =>
    match ← openWorking config host with
    | (.error failure, host) => pure (.error failure, host)
    | (.ok working, host) =>
      match Memory.layOut program working config.reservedPage with
      | .error failure => pure (.error failure, host)
      | .ok memory =>
        Logged.report
          (.machineCreated memory.programSize memory.workingSize config.reservedPage)
        pure (.ok (ofMemory config memory line), host)

/-! ## The bus -/

/-- A read cycle. -/
def read (machine : Machine) (host : Host) (address : UInt16) : Logged UInt8 :=
  machine.memory.read host address

/-- A write cycle. -/
def write (machine : Machine) (host : Host) (address : UInt16) (value : UInt8) :
    Logged (Machine × Host) :=
  match machine with
  | ⟨config, memory, ports, console, led, controller, frontPanel⟩ => do
    match ← memory.write host address value with
    | (memory, host) =>
      pure (⟨config, memory, ports, console, led, controller, frontPanel⟩, host)

/-! ## The ports -/

/-- Reads the register a binding names.  A register without an input side leaves the bus
floating. -/
def inputFrom (machine : Machine) (binding : Binding) : UInt8 × Machine :=
  match binding.device with
  | .console =>
    match machine.console.input binding.register with
    | (value, console) => (value.getD floatingBus, { machine with console })
  | .led => (machine.led.input.getD floatingBus, machine)
  | .controller => (machine.controller.input.getD floatingBus, machine)
  | .frontPanel => (machine.frontPanel.input.getD floatingBus, machine)

/-- Reads a port.  A port that is bound to nothing leaves the bus floating. -/
def input (machine : Machine) (port : UInt8) : Logged (UInt8 × Machine) := do
  match ← machine.ports.lookup port with
  | some binding => pure (machine.inputFrom binding)
  | none => pure (floatingBus, machine)

/-- Writes the register a binding names. -/
def outputTo (machine : Machine) (host : Host) (binding : Binding) (value : UInt8) :
    Logged (Machine × Host) :=
  match machine with
  | ⟨config, memory, ports, console, led, controller, frontPanel⟩ =>
    match binding.device with
    | .console => do
      let console ← console.output binding.register value
      pure (⟨config, memory, ports, console, led, controller, frontPanel⟩, host)
    | .led => do
      let led ← led.output value
      pure (⟨config, memory, ports, console, led, controller, frontPanel⟩, host)
    | .controller => do
      match ← controller.output memory host value with
      | (controller, memory, host) =>
        pure (⟨config, memory, ports, console, led, controller, frontPanel⟩, host)
    | .frontPanel =>
      pure (⟨config, memory, ports, console, led, controller, frontPanel.output value⟩, host)

/-- Writes a port.  What is written to a port that is bound to nothing is lost. -/
def output (machine : Machine) (host : Host) (port value : UInt8) :
    Logged (Machine × Host) := do
  match ← machine.ports.lookup port with
  | some binding => machine.outputTo host binding value
  | none => pure (machine, host)

/-! ## Requests from the host -/

/-- Mounts the disk of a bare name in a drive; the empty name empties the drive. -/
def mount (machine : Machine) (host : Host) (number : Nat) (name : String) :
    Logged (Except MachineError Unit × Machine) := do
  match ← machine.controller.mount host number name with
  | (result, controller) => pure (result.mapError .mount, { machine with controller })

/-- Empties a drive. -/
def unmount (machine : Machine) (number : Nat) :
    Logged (Except MachineError Unit × Machine) := do
  match ← machine.controller.unmount number with
  | (result, controller) => pure (result.mapError .mount, { machine with controller })

/-- The program image of a bare name, with its content.  What is not a regular file is not found,
and one that is there may still refuse to be opened or to be read. -/
def findProgram (machine : Machine) (host : Host) (name : String) :
    Except MachineError (Path × Content) :=
  match Name.resolve? machine.config.programsDirectory name Name.programExtension with
  | none => .error (.invalidName name)
  | some path =>
    match host.find path with
    | .ok (.regular index) =>
      match host.readAll index with
      | .error fault => .error (.io fault)
      | .ok image => .ok (path, image)
    | _ => .error (.notFound path)

/-- Loads the program of a bare name into program storage, and answers with its length.  One that
is too long is refused before its bytes are taken. -/
def loadProgram (machine : Machine) (host : Host) (name : String) :
    Logged (Except MachineError Nat × Machine × Host) :=
  match machine.findProgram host name with
  | .error refusal => pure (.error refusal, machine, host)
  | .ok (path, image) =>
    match machine.memory.sizeRefusal? image.length with
    | some refusal => pure (.error refusal, machine, host)
    | none =>
      match machine with
      | ⟨config, memory, ports, console, led, controller, frontPanel⟩ =>
        match memory.loadProgram host image.toList with
        | (.error refusal, memory, host) =>
          pure (.error refusal,
            ⟨config, memory, ports, console, led, controller, frontPanel⟩, host)
        | (.ok (), memory, host) => do
          Logged.report (.programLoaded image.length path)
          pure (.ok image.length,
            ⟨config, memory, ports, console, led, controller, frontPanel⟩, host)

/-- Sets what the front panel shows. -/
def setFrontPanel (machine : Machine) (value : UInt8) : Logged Machine := do
  Logged.report (.frontPanelSet value)
  pure { machine with frontPanel := { value } }

end Machine

end Backplane
