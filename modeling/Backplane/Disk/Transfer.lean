import Backplane.Disk.Drive
import Backplane.Memory

/-!
# Moving one sector

A transfer moves exactly one sector between the image in a drive and a window in memory.  What it
moves is given by the descriptor in memory at the moment the transfer starts.  It goes through a
fixed sequence of conditions, and the first one that fails ends it:

* there is such a drive;
* a descriptor is latched, can be loaded, and has no defect;
* the drive holds a disk, its image opens, and the sector's position lies in it;
* for reading, the sector is in the image, and memory takes its bytes one after the other;
* for writing, memory gives the bytes one after the other, and the image takes them.

A sector is read whole before its first byte is stored, and memory is read whole before the image
is written.  So a transfer into the image changes it completely or not at all; a transfer into
memory that a device ends early has stored the bytes before.

Each way to fail is a cause of its own.  The status register shows less than the cause, since
several causes share a number, and only failures of a device or of an image are logged as
warnings.

## What is not modelled

A transfer is done when the command has been written; on the machine nothing else happens meanwhile,
and others do not change the host in the middle of it.  How long it takes is not modelled.
-/

namespace Backplane.Disk

/-- Why a transfer ended early, with what the log says of it: the address or the path, and the fault
of the device. -/
inductive TransferFailure where
  | noSuchDrive
  | noDescriptor
  | descriptorLoad (address : UInt16) (fault : Fault)
  | defect (cause : Descriptor.Defect)
  | emptyDrive
  | image (path : Path) (fault : ImageFault)
  | dmaLoad (address : UInt16) (fault : Fault)
  | dmaStore (address : UInt16) (fault : Fault)
deriving DecidableEq, Repr

namespace TransferFailure

/-- How the status register reports each failure. -/
def status : TransferFailure → Status
  | .noSuchDrive => .disk
  | .noDescriptor => .dma
  | .descriptorLoad .. => .dma
  | .defect d => d.status
  | .emptyDrive => .noDisk
  | .image _ fault => fault.status
  | .dmaLoad .. => .dma
  | .dmaStore .. => .dma

/-- What is reported about each failure, if anything is. -/
def event? : TransferFailure → Option Event
  | .noSuchDrive => none
  | .noDescriptor => some .noDescriptor
  | .descriptorLoad address fault => some (.descriptorLoadFailed address fault)
  | .defect _ => none
  | .emptyDrive => none
  | .image path fault => some (.imageFailed path fault)
  | .dmaLoad address fault => some (.dmaLoadFailed address fault)
  | .dmaStore address fault => some (.dmaStoreFailed address fault)

end TransferFailure

/-- Loads the descriptor from the latched address. -/
def fetchDescriptor (memory : Memory) (host : Host) (latch : Option UInt16) :
    Logged (Except TransferFailure Descriptor) :=
  match latch with
  | none => pure (.error .noDescriptor)
  | some address => do
    match ← memory.loadBlock host address descriptorSize with
    | .error (address, fault) => pure (.error (.descriptorLoad address fault))
    | .ok bytes => pure (.ok (.ofBytes bytes))

/-- Opens the image in a drive at the position of a descriptor. -/
def openSector (drives : Drives) (host : Host) (drive : Drive) (direction : Direction)
    (descriptor : Descriptor) : Except TransferFailure (Path × Node) :=
  match descriptor.defect? with
  | some defect => .error (.defect defect)
  | none =>
    match drives.get drive with
    | none => .error .emptyDrive
    | some path =>
      match Image.openAt host path direction descriptor.offset with
      | .error fault => .error (.image path fault)
      | .ok node => .ok (path, node)

/-- Moves a sector from an open image into memory.  The sector is read whole before its first byte
is stored; a byte that is refused ends the transfer with those before it in place. -/
def readIntoMemory (memory : Memory) (host : Host) (path : Path) (node : Node)
    (descriptor : Descriptor) : Logged (Except TransferFailure Unit × Memory × Host) :=
  match Image.readSector host node descriptor.offset with
  | .error fault => pure (.error (.image path fault), memory, host)
  | .ok bytes => do
    match ← memory.storeBlock host descriptor.window bytes with
    | (.error (address, fault), memory, host) =>
      pure (.error (.dmaStore address fault), memory, host)
    | (.ok (), memory, host) => pure (.ok (), memory, host)

/-- Moves a sector from memory into an open image.  Memory is read whole before the image is
written, so one byte that memory does not give leaves the image as it was. -/
def writeFromMemory (memory : Memory) (host : Host) (path : Path) (node : Node)
    (descriptor : Descriptor) : Logged (Except TransferFailure Host) := do
  match ← memory.loadBlock host descriptor.window sectorSize with
  | .error (address, fault) => pure (.error (.dmaLoad address fault))
  | .ok bytes =>
    match Image.writeSector host node descriptor.offset bytes with
    | .error fault => pure (.error (.image path fault))
    | .ok host => pure (.ok host)

/-- Moves the sector that the latched descriptor asks for.  The conditions are looked at in a fixed
order, and the first that fails is the failure, whatever else would have failed behind it. -/
def transfer (drives : Drives) (latch : Option UInt16) (direction : Direction) (number : Nat)
    (memory : Memory) (host : Host) : Logged (Except TransferFailure Unit × Memory × Host) :=
  match Drive.ofNumber? number with
  | none => pure (.error .noSuchDrive, memory, host)
  | some drive => do
    match ← fetchDescriptor memory host latch with
    | .error failure => pure (.error failure, memory, host)
    | .ok descriptor =>
      match openSector drives host drive direction descriptor with
      | .error failure => pure (.error failure, memory, host)
      | .ok (path, node) =>
        match direction with
        | .read => do
          match ← readIntoMemory memory host path node descriptor with
          | (.error failure, memory, host) => pure (.error failure, memory, host)
          | (.ok (), memory, host) =>
            Logged.report (.sectorMoved descriptor)
            pure (.ok (), memory, host)
        | .write => do
          match ← writeFromMemory memory host path node descriptor with
          | .error failure => pure (.error failure, memory, host)
          | .ok host =>
            Logged.report (.sectorMoved descriptor)
            pure (.ok (), memory, host)

end Backplane.Disk
