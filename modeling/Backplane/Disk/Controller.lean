import Backplane.Disk.Transfer
import Backplane.Name

/-!
# The disk controller

The controller has one register.  Reading it shows the status of the last transfer and changes
nothing.  What is written is a stream of bytes: a command, whose high half says what to do and
whose low half names a drive, or, after the command that asks for a descriptor, the two bytes of
the descriptor's address, low byte first, which are never taken for commands.

The status belongs to the last transfer alone.  Latching an address, an unknown command and
mounting disks leave it as it is.

Disks are mounted by bare name from one directory.  A mount is refused unless the image is a
regular file at that moment, and a refused mount leaves the drives as they were.

## What the controller remembers

The directory of the disks, the drives, the latch and the status, and nothing else: no image is kept
open and no sector is kept in the controller.  A latched address stays latched for any number of
transfers.  A command that asks for a new one gives up the old one at once, before the bytes of the
new one have come.
-/

namespace Backplane.Disk

/-- Where the controller is in its byte stream. -/
inductive Latch where
  /-- No descriptor address was ever given. -/
  | idle
  /-- The address is asked for; its low byte may have come already. -/
  | collecting (low : Option UInt8)
  /-- The address of the descriptor. -/
  | pending (address : UInt16)
deriving DecidableEq, Repr

namespace Latch

/-- The latched address. -/
def address? : Latch → Option UInt16
  | .pending address => some address
  | _ => none

end Latch

/-- The disk controller with its drives. -/
structure Controller where
  /-- Where images are looked for. -/
  volumesDirectory : Path
  drives : Drives := {}
  latch : Latch := .idle
  status : Status := .ok
deriving DecidableEq, Repr

namespace Controller

/-! ## Drives -/

/-- Empties a drive.  One that is empty already stays so. -/
def unmount (controller : Controller) (number : Nat) :
    Logged (Except MountError Unit × Controller) :=
  match Drive.ofNumber? number with
  | none => pure (.error (.invalidDrive number), controller)
  | some drive => do
    Logged.report? ((controller.drives.get drive).map (.unmounted drive))
    pure (.ok (), { controller with drives := controller.drives.set drive none })

/-- Puts the disk of a bare name into a drive.  The empty name empties the drive.  The image has to
be a regular file now, but it is not opened before a transfer asks for it. -/
def mount (controller : Controller) (host : Host) (number : Nat) (name : String) :
    Logged (Except MountError Unit × Controller) :=
  match Drive.ofNumber? number with
  | none => pure (.error (.invalidDrive number), controller)
  | some drive =>
    if name = "" then controller.unmount number
    else
      match Name.resolve? controller.volumesDirectory name Name.diskExtension with
      | none => pure (.error (.invalidName name), controller)
      | some path =>
        if host.isFile path then do
          Logged.report (.mounted drive path)
          pure (.ok (), { controller with drives := controller.drives.set drive (some path) })
        else do
          Logged.report (.mountRefused drive path)
          pure (.error (.notFound path), controller)

/-- The image in the drive of a number. -/
def image? (controller : Controller) (number : Nat) : Option Path :=
  (Drive.ofNumber? number).bind controller.drives.get

/-! ## The register -/

/-- What the high half of a command byte asks for. -/
inductive Command where
  /-- The two bytes of a descriptor address follow. -/
  | setDescriptor
  | transfer (direction : Direction)
  | unknown
deriving DecidableEq, Repr

/-- Decodes the high half of a command byte. -/
def Command.ofByte (value : UInt8) : Command :=
  if value &&& 0xF0 = 0x10 then .setDescriptor
  else if value &&& 0xF0 = 0x20 then .transfer .read
  else if value &&& 0xF0 = 0x40 then .transfer .write
  else .unknown

/-- The drive number in the low half of a command byte. -/
def driveNumber (value : UInt8) : Nat := (value &&& 0x0F).toNat

/-- The status a transfer ends with. -/
def outcome : Except TransferFailure Unit → Status
  | .ok () => .ok
  | .error failure => failure.status

/-- What is reported about the way a transfer ended. -/
def outcomeEvent? : Except TransferFailure Unit → Option Event
  | .ok () => none
  | .error failure => failure.event?

/-- Runs a transfer and shows its outcome in the status register. -/
def runTransfer (controller : Controller) (memory : Memory) (host : Host)
    (direction : Direction) (number : Nat) : Logged (Controller × Memory × Host) := do
  Logged.report (.transferStarted direction number)
  match ← transfer controller.drives controller.latch.address? direction number memory host with
  | (result, memory, host) =>
    Logged.report? (outcomeEvent? result)
    Logged.report (.statusSet (outcome result))
    pure ({ controller with status := outcome result }, memory, host)

/-- Obeys a command byte. -/
def command (controller : Controller) (memory : Memory) (host : Host) (value : UInt8) :
    Logged (Controller × Memory × Host) :=
  match Command.ofByte value with
  | .setDescriptor => do
    Logged.report .descriptorAwaited
    pure ({ controller with latch := .collecting none }, memory, host)
  | .transfer direction => controller.runTransfer memory host direction (driveNumber value)
  | .unknown => do
    Logged.report (.unknownCommand value)
    pure (controller, memory, host)

/-- Reads the register. -/
def input (controller : Controller) : Option UInt8 := some controller.status.code

/-- Writes the register.  While an address is being given, the byte is a part of it, whatever it is;
at any other time it is a command. -/
def output (controller : Controller) (memory : Memory) (host : Host) (value : UInt8) :
    Logged (Controller × Memory × Host) :=
  match controller.latch with
  | .collecting none =>
    pure ({ controller with latch := .collecting (some value) }, memory, host)
  | .collecting (some low) => do
    Logged.report (.descriptorLatched (wordOfBytes low value))
    pure ({ controller with latch := .pending (wordOfBytes low value) }, memory, host)
  | .idle | .pending _ => controller.command memory host value

end Controller

end Backplane.Disk
