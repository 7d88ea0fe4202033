import Backplane.Disk.Descriptor
import Backplane.Host.Tree

/-!
# Disk images

An image is opened for one transfer and closed with it.  A transfer opens the file, takes up its
position, and moves one whole sector; each of these can fail, and the status register tells them
apart.

Taking up a position is stricter than the host's own files are: a position past the end of the
image is an error and does not extend it.  The end itself is still a position, so whether a
sector is there is found out by reading it, and a sector can be added at the end by writing.
-/

namespace Backplane.Disk

/-- What failed between the controller and an image. -/
inductive ImageFault where
  | opening (fault : Fault)
  | seeking (fault : Fault)
  | reading (fault : Fault)
  | writing (fault : Fault)
deriving DecidableEq, Repr

namespace ImageFault

/-- The wording of each failure. -/
def message : ImageFault → String
  | .opening fault => "open failed: " ++ fault.message
  | .seeking fault => "seek failed: " ++ fault.message
  | .reading fault => "read failed: " ++ fault.message
  | .writing fault => "write failed: " ++ fault.message

/-- How the status register reports a failure. -/
def status : ImageFault → Status
  | .opening _ => .noDisk
  | .seeking _ => .seek
  | .reading _ => .read
  | .writing _ => .write

end ImageFault

/-- The direction a transfer moves a sector in. -/
inductive Direction where
  /-- From the image into memory. -/
  | read
  /-- From memory into the image. -/
  | write
deriving DecidableEq, Repr

namespace Image

/-- Opens an image, for writing too if sectors go that way. -/
def openFor (host : Host) (path : Path) (direction : Direction) : Except ImageFault Node :=
  let opened :=
    match direction with
    | .read => host.openForReading path
    | .write => host.openForWriting path
  match opened with
  | .error fault => .error (.opening fault)
  | .ok node => .ok node

/-- What opening an image for a direction asks of the host. -/
def accessFor : Direction → FileAccess
  | .read => .openForReading
  | .write => .openForWriting

/-- Why an image that was found cannot be opened, if it cannot. -/
def openFault? (host : Host) (node : Node) (direction : Direction) : Option Fault :=
  if node = .directory ∧ direction = .write then some .isADirectory
  else host.refusal? node (accessFor direction)

theorem openFor_of_not_found {host : Host} {path : Path} {fault : Fault}
    (h : host.find path = .error fault) (direction : Direction) :
    openFor host path direction = .error (.opening fault) := by
  cases direction <;> simp only [openFor, Host.openForReading, Host.openForWriting, h]

theorem openFor_of_find {host : Host} {path : Path} {node : Node} (h : host.find path = .ok node)
    (direction : Direction) :
    openFor host path direction =
      match openFault? host node direction with
      | some fault => .error (.opening fault)
      | none => .ok node := by
  cases direction with
  | read =>
    simp only [openFor, Host.openForReading, h, Host.grant, openFault?, accessFor, reduceCtorEq,
      and_false, if_false]
    cases host.refusal? node .openForReading <;> rfl
  | write =>
    cases node with
    | directory => simp [openFor, Host.openForWriting, h, openFault?]
    | _ =>
      simp only [openFor, Host.openForWriting, h, Host.grant, openFault?, accessFor, reduceCtorEq,
        false_and, if_false]
      cases host.refusal? _ .openForWriting <;> rfl

/-- Why a position cannot be taken up, if it cannot. -/
def seekFault? (host : Host) (node : Node) (offset : Nat) : Option ImageFault :=
  match host.measure node with
  | .error fault => some (.seeking fault)
  | .ok length => if length < offset then some (.seeking (.beyondImage offset length)) else none

/-- Opens an image at a position. -/
def openAt (host : Host) (path : Path) (direction : Direction) (offset : Nat) :
    Except ImageFault Node :=
  match openFor host path direction with
  | .error fault => .error fault
  | .ok node =>
    match seekFault? host node offset with
    | some fault => .error fault
    | none => .ok node

/-- Reads the sector at a position. -/
def readSector (host : Host) (node : Node) (offset : Nat) : Except ImageFault (List UInt8) :=
  match host.read node offset sectorSize with
  | .error fault => .error (.reading fault)
  | .ok bytes => .ok bytes

/-- Writes a sector at a position. -/
def writeSector (host : Host) (node : Node) (offset : Nat) (bytes : List UInt8) :
    Except ImageFault Host :=
  match host.write node offset bytes with
  | .error fault => .error (.writing fault)
  | .ok host => .ok host

end Image

end Backplane.Disk
