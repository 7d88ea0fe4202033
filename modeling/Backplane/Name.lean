import Backplane.Host.Path

/-!
# Bare file names

Whoever asks for a disk or a program gives a bare name.  The directory and the extension are the
machine's, so a name must not be able to leave the directory or to bring an extension of its own:
it has one to eight characters, and none of them is a dot or a separator of either kind.
-/

namespace Backplane

namespace Name

/-- The longest bare name, in characters. -/
def maxLength : Nat := 8

/-- The characters that would give a name a directory or an extension. -/
def isReserved (c : Char) : Bool := c == '.' || c == '/' || c == '\\'

/-- Whether a text can be the bare name of a disk or a program. -/
def isValid (name : String) : Bool :=
  !name.toList.isEmpty && name.toList.length ≤ maxLength && !name.toList.any isReserved

/-- The file a bare name stands for in a directory, if the name is valid. -/
def resolve? (directory : Path) (name extension : String) : Option Path :=
  if isValid name then some (directory.child (name ++ "." ++ extension)) else none

/-- The extension of disk images. -/
def diskExtension : String := "DSK"

/-- The extension of program images. -/
def programExtension : String := "BIN"

end Name

end Backplane
