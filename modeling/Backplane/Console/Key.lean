/-!
# Keys of a terminal

When a terminal stands in for the serial line, a key press becomes the byte that a serial
terminal would have sent.  Control turns a letter into its control code and leaves every other
character alone; keys without such a byte, and characters outside ASCII, send nothing.
-/

namespace Backplane.Console

/-- A key of a terminal. -/
inductive Key where
  | enter
  | backspace
  | tab
  | escape
  | delete
  | char (c : Char)
  /-- Arrows, function keys and all others that stand for no character. -/
  | other
deriving DecidableEq, Repr

namespace Key

/-- The byte of an ASCII character under the control key: letters keep their low five bits. -/
def controlCode (c : Char) : UInt8 :=
  let code := UInt8.ofNat c.toNat
  if c.isAlpha then code &&& 0x1F else code

/-- The byte a key sends, if it sends one. -/
def toByte? (key : Key) (control : Bool) : Option UInt8 :=
  match key with
  | .enter => some 0x0D
  | .backspace => some 0x08
  | .tab => some 0x09
  | .escape => some 0x1B
  | .delete => some 0x7F
  | .char c =>
    if 128 ≤ c.toNat then none
    else if control then some (controlCode c) else some (UInt8.ofNat c.toNat)
  | .other => none

end Key

end Backplane.Console
