import Backplane.Host.Tree

/-!
# Changes to the host from outside

The machine is not alone on its host: somebody makes the image files, replaces them while they
are mounted, cuts them short or removes them.  These are the changes that others make, so none of
the machine's own operations uses them.

Making a file over one that is there replaces the content of that same file, which whoever has it
open sees; removing a file takes only its path away.

Nothing is promised about these changes in what is proved about machines: there a change from
outside is any other host.  They are here to make hosts, and to say what somebody did between two
operations.
-/

namespace Backplane

namespace Host

/-- Follows components from a directory on, and makes the directories that are missing. -/
def makeDirectories : Host → (here : List String) → List String → Host × List String
  | host, here, [] => (host, here)
  | host, here, name :: rest =>
    if name = "" ∨ name = "." then makeDirectories host here rest
    else if name = ".." then makeDirectories host (above here) rest
    else if (host.node? (here ++ [name])).isSome then makeDirectories host (here ++ [name]) rest
    else
      makeDirectories { host with entries := (here ++ [name], .directory) :: host.entries }
        (here ++ [name]) rest

/-- Makes the directory a path names. -/
def makeDirectory (host : Host) (path : Path) : Host :=
  (host.makeDirectories (startOf path) path.components).1

/-- Makes the directory that the file of a path is in. -/
def makeDirectoryOf (host : Host) (path : Path) : Host × List String :=
  host.makeDirectories (startOf path) path.withoutEndSlashes.dropLast

/-- Makes a device that is always full, in a directory that is made if it is missing. -/
def makeFullDevice (host : Host) (path : Path) : Host :=
  match host.makeDirectoryOf path with
  | (host, here) =>
    { host with entries := (here ++ path.withoutEndSlashes.getLast?.toList, .full) :: host.entries }

/-- Makes a regular file with the given bytes, in a directory that is made if it is missing. -/
def makeFile (host : Host) (path : Path) (bytes : Bytes) : Except Fault Host :=
  match (host.makeDirectoryOf path).1.create path with
  | .error fault => .error fault
  | .ok (.regular index, host) => .ok (host.setContent index fun _ => .ofBytes bytes)
  | .ok (_, _) => .error .noSpace

/-- Whether something lies below a directory. -/
def hasEntryBelow (host : Host) (names : List String) : Bool :=
  host.entries.any fun entry => names.length < entry.1.length && names.isPrefixOf entry.1

/-- Takes away the path of a file or of an empty directory, or nothing if neither is there.  A
directory has to be named: a dot for the directory itself does not name it. -/
def remove? (host : Host) (path : Path) : Option Host :=
  match host.locate path with
  | .error _ => none
  | .ok names =>
    if path.withoutEndSlashes.getLast? == some "." || host.hasEntryBelow names ||
      (host.entries.lookup names).isNone then none
    else some { host with entries := host.entries.filter (·.1 != names) }

/-- Cuts or grows an existing file. -/
def truncate (host : Host) (path : Path) (length : Nat) : Except Fault Host :=
  match host.openForWriting path with
  | .error fault => .error fault
  | .ok node => host.setLength node length

/-- The content of the regular file a path names. -/
def contents? (host : Host) (path : Path) : Option Content :=
  match host.find path with
  | .ok (.regular index) => some (host.content index)
  | _ => none

end Host

end Backplane
