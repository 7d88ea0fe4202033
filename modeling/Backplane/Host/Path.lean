import Backplane.Host.Fault

/-!
# Paths

A path is the text a file is named by, relative to the directory the machine works in, with a
slash between its components.  It is kept as it was given, because it is shown as it was given:
in the log, in error texts, and in the menu, where a drive is labelled with the *stem* of its
image's file name, which is the name without the extension.

Taking a path apart never changes its text, so `components` keeps the empty component of a
trailing slash; what such a component demands of the files is decided where a path is looked up.
Some texts are no paths, whatever files there are; `textFault?` tells them.
-/

namespace Backplane

/-- The name of a file, relative to the working directory. -/
structure Path where
  text : String
deriving DecidableEq, Repr, Inhabited

namespace Path

/-- Cuts a text at every slash; a text with `n` slashes has `n + 1` pieces. -/
def cutAtSlashes (text : List Char) : List (List Char) :=
  text.foldr
    (fun c pieces =>
      if c = '/' then [] :: pieces else (c :: pieces.headD []) :: pieces.drop 1)
    [[]]

/-- The components of a path, from the working directory down. -/
def components (path : Path) : List String :=
  (cutAtSlashes path.text.toList).map String.ofList

/-- Whether the path starts at the root of the host instead of the working directory. -/
def isAbsolute (path : Path) : Bool := path.text.toList.head? == some '/'

/-- The host takes only paths with fewer bytes than this. -/
def lengthLimit : Nat := 4096

/-- The most bytes that a component can have. -/
def maxComponentLength : Nat := 255

/-- Why a text cannot be a path at all. -/
def textFault? (path : Path) : Option Fault :=
  if path.text.toList.contains '\x00' then some .nulInPath
  else if path.text = "" then some .notFound
  else if lengthLimit ≤ path.text.utf8ByteSize then some .nameTooLong
  else none

/-- Whether the path ends in a slash, so that only a directory can be meant. -/
def endsInSlash (path : Path) : Bool := path.text.toList.getLast? == some '/'

/-- The components up to the slashes at the end. -/
def withoutEndSlashes (path : Path) : List String :=
  (path.components.reverse.dropWhile (· == "")).reverse

/-- The file of the given name in a directory.  The empty path is the working directory itself,
and a directory given with its slash needs no other. -/
def child (directory : Path) (name : String) : Path :=
  if directory.text.toList.getLast?.all (· == '/') then ⟨directory.text ++ name⟩
  else ⟨directory.text ++ "/" ++ name⟩

/-- The last component that names something: trailing slashes and dots for the directory itself
do not count, and two dots name the directory above and not a file. -/
def fileName? (path : Path) : Option String :=
  (path.components.filter fun name => name != "" && name != ".").getLast?.filter (· != "..")

/-- A file name up to its last dot.  A dot in front belongs to the name and starts no
extension. -/
def stemOf (name : List Char) : List Char :=
  let before := ((name.reverse.dropWhile (· != '.')).drop 1).reverse
  if before.isEmpty then name else before

/-- The file name without its extension. -/
def stem? (path : Path) : Option String :=
  path.fileName?.map fun name => String.ofList (stemOf name.toList)

end Path

end Backplane
