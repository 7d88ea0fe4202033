/-!
# Host faults

Every way in which the host can refuse an access to a file or to a storage device.  Faults that
the operating system reports carry its wording and number; the others are worded here.  A fault
is a cause and not a text, so that callers can tell causes apart; `Fault.message` words them.
-/

namespace Backplane

/-- Why the host refused an access. -/
inductive Fault where
  /-- A component of the path does not exist. -/
  | notFound
  /-- The file or the directory is closed to the program. -/
  | permissionDenied
  /-- The path holds the character that ends texts on the host. -/
  | nulInPath
  /-- The path, or a component of it, is longer than the host allows. -/
  | nameTooLong
  /-- A component above the last one is no directory. -/
  | notADirectory
  /-- A directory cannot be read as a file or opened for writing. -/
  | isADirectory
  /-- The length or the offset means nothing to the device. -/
  | invalidArgument
  /-- The length is no signed 64-bit number. -/
  | lengthOutOfRange
  /-- The length is more than the file system allows. -/
  | fileTooLarge
  /-- The device takes no more bytes. -/
  | noSpace
  /-- The file ends before the last byte asked for. -/
  | shortRead
  /-- The storage device has gone away. -/
  | unplugged
  /-- A position past the end of a disk image was asked for. -/
  | beyondImage (offset length : Nat)
  /-- A failure in the device's own words. -/
  | reported (reason : String)
deriving DecidableEq, Repr

/-- The wording of each fault. -/
def Fault.message : Fault → String
  | .notFound => "No such file or directory (os error 2)"
  | .permissionDenied => "Permission denied (os error 13)"
  | .nulInPath => "file name contained an unexpected NUL byte"
  | .nameTooLong => "File name too long (os error 36)"
  | .notADirectory => "Not a directory (os error 20)"
  | .isADirectory => "Is a directory (os error 21)"
  | .invalidArgument => "Invalid argument (os error 22)"
  | .lengthOutOfRange => "number too large to fit in target type"
  | .fileTooLarge => "File too large (os error 27)"
  | .noSpace => "No space left on device (os error 28)"
  | .shortRead => "failed to fill whole buffer"
  | .unplugged => "device unplugged"
  | .beyondImage offset length =>
    s!"offset {offset} is beyond the end of a {length} byte image"
  | .reported reason => reason

end Backplane
