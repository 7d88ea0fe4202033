import Backplane.Disk.Drive
import Backplane.Disk.Image
import Backplane.Error
import Backplane.Hex

/-!
# Log events

The machine reports what it does as events.  An event is a cause with its particulars; its
severity and its wording are functions of the cause, so it can be counted and filtered without
reading text.  Failures of devices are warnings, state changes asked for by the person at the
host are information, disk commands are for debugging, and accesses that reach nothing are
traces.
-/

namespace Backplane

/-- How much an event matters, most verbose first. -/
inductive Level where
  | trace
  | debug
  | info
  | warn
deriving DecidableEq, Repr

namespace Level

/-- The rank of a level; a higher one is more severe. -/
def severity : Level → Nat
  | .trace => 0
  | .debug => 1
  | .info => 2
  | .warn => 3

/-- The name of a level. -/
def name : Level → String
  | .trace => "TRACE"
  | .debug => "DEBUG"
  | .info => "INFO"
  | .warn => "WARN"

end Level

/-- Something the machine reports. -/
inductive Event where
  -- Storage and memory
  | persistentOpened (path : Path) (size : Nat)
  | readFailed (address : UInt16) (fault : Fault)
  | writeFailed (address : UInt16) (fault : Fault)
  | unmappedRead (address : UInt16)
  | programWriteIgnored (address : UInt16)
  | unmappedWriteIgnored (address : UInt16)
  -- Ports and small devices
  | unassignedPort (port : UInt8)
  | readOnlyRegister (register : UInt8)
  | lampChanged (lit : Bool)
  -- Disk controller
  | descriptorAwaited
  | descriptorLatched (address : UInt16)
  | unknownCommand (value : UInt8)
  | transferStarted (direction : Disk.Direction) (drive : Nat)
  | noDescriptor
  | descriptorLoadFailed (address : UInt16) (fault : Fault)
  | imageFailed (path : Path) (fault : Disk.ImageFault)
  | dmaLoadFailed (address : UInt16) (fault : Fault)
  | dmaStoreFailed (address : UInt16) (fault : Fault)
  | sectorMoved (descriptor : Disk.Descriptor)
  | statusSet (status : Disk.Status)
  -- Drives
  | mountRefused (drive : Disk.Drive) (path : Path)
  | mounted (drive : Disk.Drive) (path : Path)
  | unmounted (drive : Disk.Drive) (path : Path)
  -- Machine and start-up
  | machineCreated (programSize workingSize : Nat) (reservedPage : Bool)
  | programLoaded (size : Nat) (path : Path)
  | frontPanelSet (value : UInt8)
  | dialogEntered
  | dialogLeft
  | terminalTaken
  | driveNotReady (drive : Disk.Drive) (cause : MachineError)
  | configured (frontPanel : UInt8) (lampLit : Bool)
deriving DecidableEq, Repr

namespace Event

/-- How much each event matters. -/
def level : Event → Level
  | .readFailed .. | .writeFailed .. | .unknownCommand .. | .descriptorLoadFailed ..
  | .imageFailed .. | .dmaLoadFailed .. | .dmaStoreFailed .. | .driveNotReady .. => .warn
  | .persistentOpened .. | .mountRefused .. | .mounted .. | .unmounted .. | .machineCreated ..
  | .programLoaded .. | .frontPanelSet .. | .dialogEntered | .dialogLeft | .terminalTaken
  | .configured .. => .info
  | .lampChanged .. | .descriptorAwaited | .descriptorLatched .. | .transferStarted ..
  | .noDescriptor | .sectorMoved .. | .statusSet .. => .debug
  | .unmappedRead .. | .programWriteIgnored .. | .unmappedWriteIgnored .. | .unassignedPort ..
  | .readOnlyRegister .. => .trace

/-- The word for a lamp that is on or off. -/
def lampWord (lit : Bool) : String := if lit then "on" else "off"

/-- The command a transfer is started with, as the log names it. -/
def commandName : Disk.Direction → String
  | .read => "READ"
  | .write => "WRITE"

/-- The wording of each event. -/
def message : Event → String
  | .persistentOpened path size => s!"FRAM image '{path.text}' opened with {size} bytes."
  | .readFailed address fault =>
    s!"Backing store read at {Hex.address address} failed: {fault.message}"
  | .writeFailed address fault =>
    s!"Backing store write at {Hex.address address} failed: {fault.message}"
  | .unmappedRead address => s!"Read from unmapped address {Hex.address address}"
  | .programWriteIgnored address =>
    s!"Write to program storage at {Hex.address address} ignored"
  | .unmappedWriteIgnored address =>
    s!"Write to unmapped address {Hex.address address} ignored"
  | .unassignedPort port => s!"Port {Hex.register port} is unassigned"
  | .readOnlyRegister register => s!"Console register {register.toNat} is read-only"
  | .lampChanged lit => s!"LED {lampWord lit}"
  | .descriptorAwaited => "FDC: SETDD"
  | .descriptorLatched address => s!"FDC: descriptor at {Hex.address address}"
  | .unknownCommand value => s!"FDC: unknown command {Hex.register value} ignored"
  | .transferStarted direction drive => s!"FDC: {commandName direction} drive {drive}"
  | .noDescriptor => "FDC: no descriptor latched"
  | .descriptorLoadFailed address fault =>
    s!"FDC: descriptor load at {Hex.address address} failed: {fault.message}"
  | .imageFailed path fault => s!"FDC: '{path.text}': {fault.message}"
  | .dmaLoadFailed address fault =>
    s!"FDC: DMA load at {Hex.address address} failed: {fault.message}"
  | .dmaStoreFailed address fault =>
    s!"FDC: DMA store at {Hex.address address} failed: {fault.message}"
  | .sectorMoved d =>
    s!"FDC: track {d.track.toNat} sector {d.sector.toNat} <-> {Hex.address d.window}"
  | .statusSet status => s!"FDC: status {status.name} ({status.code.toNat})"
  | .mountRefused drive path =>
    s!"Drive {drive.number}: '{path.text}' not found, mount refused."
  | .mounted drive path => s!"Drive {drive.number}: mounted '{path.text}'."
  | .unmounted drive path => s!"Drive {drive.number}: unmounted '{path.text}'."
  | .machineCreated programSize workingSize reservedPage =>
    s!"Machine created: {Hex.size programSize} bytes program storage, " ++
      s!"{Hex.size workingSize} bytes working storage" ++
      (if reservedPage then ", top page reserved." else ".")
  | .programLoaded size path => s!"Loaded {size} bytes from '{path.text}'."
  | .frontPanelSet value => s!"Front panel set to {Hex.register value}."
  | .dialogEntered => "Entering configuration dialog."
  | .dialogLeft => "Leaving configuration dialog."
  | .terminalTaken => "Terminal switched to raw mode."
  | .driveNotReady drive cause => s!"Drive {drive.number}: {cause.message}"
  | .configured frontPanel lampLit =>
    s!"Machine configured; front panel {Hex.register frontPanel}, LED {lampWord lampLit}."

/-- Whether an event is severe enough to be shown. -/
def isShown (least : Level) (event : Event) : Bool :=
  least.severity ≤ event.level.severity

end Event

end Backplane
