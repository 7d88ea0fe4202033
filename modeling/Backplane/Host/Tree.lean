import Backplane.Content
import Backplane.Host.Path

/-!
# The host's files

The machine keeps disk images, program images and persistent memory in files of the host.  This
module holds the part of the host it can see: a tree of directories below the working directory,
with regular files and with a device that is always full.

A path and an open file are different things.  A path is looked up in `entries` and names a
`Node`; a regular file's node is a number, and the file itself is found under that number in
`files`.  Whoever has opened a file keeps the node, so a file that is removed, or replaced under its
path by another one, stays what it was for those who have it open.  Two paths name the same file
exactly if they lead to the same node.

Places are written as lists of components from the working directory on.  The directories above
it are always there, and are written with two dots for each level.

Every operation either succeeds or reports a `Fault` and leaves the tree as it was.

## What hosts may differ in

A host can refuse what is asked of it for reasons of its own: permissions, a file system that is
full or does not take such long files, a disk with bad blocks.  None of these reasons is modelled,
and nothing is assumed about them.  Each `File` says which accesses it is refused
(`File.refusal?`), and the `Rules` of the host say where no file can be made, what is refused of a
file that has just been made, and how long a directory is said to be.  Statements that need a host
to be willing say so with a hypothesis about these functions.

Four things are the same on all hosts that are modelled.

* There are no symbolic links: a place has the one path that its directories give it, up to dots and
  doubled slashes.  Two names for one file, on the other hand, are two entries with the same node.
* An access is refused as a whole, so a refused write has left no part of its bytes behind.
* What the host refuses of a file depends on the file and on what is asked, and nothing that a
  machine does changes it.  A file system that fills up, or a disk that goes bad, is a change from
  outside.
* Offsets and lengths are signed 64-bit numbers (`offsetLimit`), because the interface to every file
  system passes them as such.
-/

namespace Backplane

/-- What a path can name, and what an open file refers to. -/
inductive Node where
  /-- A directory. -/
  | directory
  /-- A regular file, which is kept under this number. -/
  | regular (index : Nat)
  /-- A device of length zero that reads as zeros without end and takes no byte. -/
  | full
deriving DecidableEq, Repr

/-- What can be asked of a regular file. -/
inductive FileAccess where
  | openForReading
  /-- To open the file for writing, whether or not it is also going to be read. -/
  | openForWriting
  /-- To tell how long the file is. -/
  | measure
  | read (offset count : Nat)
  | write (offset count : Nat)
  | setLength (length : Nat)
deriving DecidableEq, Repr

/-- A regular file: its bytes, and what the host refuses of it.  A refusal depends on what is asked,
for example on the offset of a read, and not on the bytes, and nothing that the machine does changes
it. -/
structure File where
  content : Content := .empty
  /-- Why the host refuses an access for reasons of its own, if it does. -/
  refusal? : FileAccess → Option Fault := fun _ => none

/-- What a host decides about files that are not there yet, and about directories.  A file that is
made takes over the refusals of new files, so a host can let a file be made and then refuse to make
it as long as it should be. -/
structure Rules where
  /-- Why no file can be made in a place, if none can. -/
  makingRefusal? : List String → Option Fault := fun _ => none
  /-- What is refused of a file that has just been made. -/
  newRefusal? : FileAccess → Option Fault := fun _ => none
  /-- The length that is reported for a directory. -/
  directoryLength : Nat := 4096

/-- The files the machine can see: what there is under which place, the files by their numbers, and
the rules of the host.  Numbers are given in the order in which files are made and are never given
again. -/
structure Host where
  /-- What each path, given by its components, names. -/
  entries : List (List String × Node) := []
  /-- Every regular file that was ever made. -/
  files : Array File := #[]
  rules : Rules := {}

namespace Host

/-! ## Looking up paths -/

/-- The components of the root directory, where absolute paths start. -/
def root : List String := ["/"]

/-- Whether a place is the working directory or lies above it. -/
def isAtOrAbove (names : List String) : Bool := names.all (· == "..")

/-- What a place holds, given by its components.  The working directory, those above it and the
root are always there. -/
def node? (host : Host) (names : List String) : Option Node :=
  if isAtOrAbove names ∨ names = root then some .directory else host.entries.lookup names

/-- The directory above a place.  The root is its own. -/
def above (names : List String) : List String :=
  if names = root then root
  else if isAtOrAbove names then names ++ [".."]
  else names.dropLast

/-- Follows components from a directory on.  Each step demands that the place reached so far is a
directory; the last place itself may be missing. -/
def walk (host : Host) : (here : List String) → List String → Except Fault (List String)
  | here, [] => .ok here
  | here, name :: rest =>
    match host.node? here with
    | none => .error .notFound
    | some .directory =>
      if name = "" ∨ name = "." then host.walk here rest
      else if name = ".." then host.walk (above here) rest
      else if Path.maxComponentLength < name.utf8ByteSize then .error .nameTooLong
      else host.walk (here ++ [name]) rest
    | some _ => .error .notADirectory

/-- The directory that a path starts from. -/
def startOf (path : Path) : List String := if path.isAbsolute then root else []

/-- The place a path leads to, whether or not something is there. -/
def locate (host : Host) (path : Path) : Except Fault (List String) :=
  match path.textFault? with
  | some fault => .error fault
  | none => host.walk (startOf path) path.components

/-- Why no file can be made under a path with a slash at its end.  Such a path asks for a
directory, and that is refused once its last component has a directory to be in. -/
def slashFault (host : Host) (path : Path) : Fault :=
  match host.walk (startOf path) path.withoutEndSlashes.dropLast with
  | .error fault => fault
  | .ok here =>
    match host.node? here with
    | none => .notFound
    | some .directory => .isADirectory
    | some _ => .notADirectory

/-- The place a path leads to where a file can be made. -/
def locateFile (host : Host) (path : Path) : Except Fault (List String) :=
  match path.textFault? with
  | some fault => .error fault
  | none => if path.endsInSlash then .error (host.slashFault path) else host.locate path

/-- What a path names.  The components are followed one by one, so the path fails where the first of
them is missing or is no directory, and with the fault for that. -/
def find (host : Host) (path : Path) : Except Fault Node :=
  match host.locate path with
  | .error fault => .error fault
  | .ok names =>
    match host.node? names with
    | none => .error .notFound
    | some node => .ok node

/-- Whether a path names a regular file. -/
def isFile (host : Host) (path : Path) : Bool :=
  match host.find path with
  | .ok (.regular _) => true
  | _ => false

/-! ## Reading and writing through a node -/

/-- The bytes of a regular file. -/
def content (host : Host) (index : Nat) : Content := (host.files.getD index {}).content

/-- Why the host refuses an access to what a node refers to, if it does for reasons of its own.
Only regular files have such reasons. -/
def refusal? (host : Host) (node : Node) (access : FileAccess) : Option Fault :=
  match node with
  | .regular index => (host.files.getD index {}).refusal? access
  | _ => none

/-- Offsets and lengths are passed to the host as signed 64-bit numbers.  This is the greatest. -/
def offsetLimit : Nat := 0x7FFFFFFFFFFFFFFF

/-- The length of what a node refers to. -/
def length (host : Host) : Node → Nat
  | .directory => host.rules.directoryLength
  | .regular index => (host.content index).length
  | .full => 0

/-- Tells the length of what a node refers to. -/
def measure (host : Host) (node : Node) : Except Fault Nat :=
  match host.refusal? node .measure with
  | some fault => .error fault
  | none => .ok (host.length node)

/-- Why reading at an offset would be refused, if it would, wherever the file ends. -/
def readFault? (host : Host) (node : Node) (offset count : Nat) : Option Fault :=
  match node with
  | .directory => some .isADirectory
  | .full => none
  | .regular index =>
    if offsetLimit ≤ offset then some .invalidArgument
    else host.refusal? (.regular index) (.read offset count)

/-- Reads the byte at an offset. -/
def readByte (host : Host) (node : Node) (offset : Nat) : Except Fault UInt8 :=
  match host.readFault? node offset 1 with
  | some fault => .error fault
  | none =>
    match node with
    | .regular index =>
      match (host.content index).get? offset with
      | some value => .ok value
      | none => .error .shortRead
    | _ => .ok 0

/-- Reads consecutive bytes, all of them or none.  A regular file that ends too early gives none,
and the device gives as many zeros as are asked for. -/
def read (host : Host) (node : Node) (offset count : Nat) : Except Fault (List UInt8) :=
  match host.readFault? node offset count with
  | some fault => .error fault
  | none =>
    match node with
    | .regular index =>
      match (host.content index).slice? offset count with
      | some bytes => .ok bytes
      | none => .error .shortRead
    | _ => .ok (List.replicate count 0)

/-- Replaces the content of a regular file. -/
def setContent (host : Host) (index : Nat) (change : Content → Content) : Host :=
  match host with
  | ⟨entries, files, rules⟩ =>
    ⟨entries, files.modify index fun file =>
      match file with
      | ⟨content, refusal?⟩ => ⟨change content, refusal?⟩, rules⟩

/-- Why writing so many bytes at an offset would be refused, if it would.  Which bytes they are
makes no difference. -/
def writeFault? (host : Host) (node : Node) (offset count : Nat) : Option Fault :=
  match node with
  | .directory => some .isADirectory
  | .full => some .noSpace
  | .regular index =>
    if offsetLimit ≤ offset then some .invalidArgument
    else host.refusal? (.regular index) (.write offset count)

/-- The host after consecutive bytes were written into a regular file. -/
def writeInto (host : Host) (node : Node) (offset : Nat) (bytes : List UInt8) : Host :=
  match node with
  | .regular index => host.setContent index (·.splice offset bytes)
  | _ => host

/-- Writes consecutive bytes at an offset.  A file that is shorter is made longer, with zeros in the
gap.  A refused write has changed nothing. -/
def write (host : Host) (node : Node) (offset : Nat) (bytes : List UInt8) : Except Fault Host :=
  match host.writeFault? node offset bytes.length with
  | some fault => .error fault
  | none => .ok (host.writeInto node offset bytes)

/-- Cuts or grows a file to a length.  A length that is no signed number is refused before the node
is looked at. -/
def setLength (host : Host) (node : Node) (length : Nat) : Except Fault Host :=
  if offsetLimit < length then .error .lengthOutOfRange
  else
    match node with
    | .directory => .error .invalidArgument
    | .full => .error .invalidArgument
    | .regular index =>
      match host.refusal? (.regular index) (.setLength length) with
      | some fault => .error fault
      | none => .ok (host.setContent index (·.resize length))

/-! ## Opening, making and removing files -/

/-- Opens what a node refers to, unless the host refuses that. -/
def grant (host : Host) (node : Node) (access : FileAccess) : Except Fault Node :=
  match host.refusal? node access with
  | some fault => .error fault
  | none => .ok node

/-- Opens what is there for reading. -/
def openForReading (host : Host) (path : Path) : Except Fault Node :=
  match host.find path with
  | .error fault => .error fault
  | .ok node => host.grant node .openForReading

/-- Opens what is there for reading and writing. -/
def openForWriting (host : Host) (path : Path) : Except Fault Node :=
  match host.find path with
  | .error fault => .error fault
  | .ok .directory => .error .isADirectory
  | .ok node => host.grant node .openForWriting

/-- Opens a regular file, reads all of it and closes it. -/
def readAll (host : Host) (index : Nat) : Except Fault Content :=
  match host.grant (.regular index) .openForReading with
  | .error fault => .error fault
  | .ok node =>
    match host.readFault? node 0 (host.content index).length with
    | some fault => .error fault
    | none => .ok (host.content index)

/-- Makes an empty regular file at a place. -/
def addFile (host : Host) (names : List String) : Node × Host :=
  (.regular host.files.size,
    { entries := (names, .regular host.files.size) :: host.entries,
      files := host.files.push { refusal? := host.rules.newRefusal? },
      rules := host.rules })

/-- Opens a file for reading and writing and makes an empty one if there is none.  That its
directory is there has been checked when the path was followed.  A file that is made is open,
whatever will be refused of it later. -/
def openOrCreate (host : Host) (path : Path) : Except Fault (Node × Host) :=
  match host.locateFile path with
  | .error fault => .error fault
  | .ok names =>
    match host.node? names with
    | some .directory => .error .isADirectory
    | some node =>
      match host.grant node .openForWriting with
      | .error fault => .error fault
      | .ok node => .ok (node, host)
    | none =>
      match host.rules.makingRefusal? names with
      | some fault => .error fault
      | none => .ok (host.addFile names)

/-- Drops the content of a regular file.  A device has none to lose. -/
def clear (host : Host) : Node → Host
  | .regular index => host.setContent index fun _ => .empty
  | _ => host

/-- Opens a file for writing from its start, so that one that is there loses its content. -/
def create (host : Host) (path : Path) : Except Fault (Node × Host) :=
  match host.openOrCreate path with
  | .error fault => .error fault
  | .ok (node, host) => .ok (node, host.clear node)

end Host

end Backplane
