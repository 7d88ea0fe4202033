/-!
# The line editor

The dialog reads short lines from a terminal that shows what it is sent and nothing else, so the
editor echoes every change: a printable character is shown as itself, and erasing one goes back,
overwrites it with a blank and goes back again.  What cannot be part of a line is dropped without
an echo.

A line has a limit.  It is complete at a carriage return or as soon as it is full, whichever
comes first; no further byte is taken to complete a full line.
-/

namespace Backplane.Dialog

/-- Moves the cursor back without erasing. -/
def backspace : UInt8 := 0x08

/-- Completes a line. -/
def carriageReturn : UInt8 := 0x0D

/-- Moves to the next line. -/
def lineFeed : UInt8 := 0x0A

/-- Erases like a backspace. -/
def delete : UInt8 := 0x7F

/-- The blank. -/
def blank : UInt8 := 0x20

/-- Whether a byte is a printable character or the blank. -/
def isPrintable (value : UInt8) : Bool := 0x20 ≤ value && value ≤ 0x7E

/-- What a key does to a line. -/
structure Keystroke where
  /-- The line afterwards. -/
  text : List UInt8
  /-- What is sent to the terminal. -/
  echo : List UInt8
  /-- Whether the line is complete now. -/
  isComplete : Bool
deriving DecidableEq, Repr

/-- Applies a key to a line with room for `limit` characters. -/
def press (limit : Nat) (text : List UInt8) (value : UInt8) : Keystroke :=
  if value = carriageReturn then { text, echo := [], isComplete := true }
  else if value = backspace ∨ value = delete then
    if text.isEmpty then { text, echo := [], isComplete := false }
    else { text := text.dropLast, echo := [backspace, blank, backspace], isComplete := false }
  else if isPrintable value then
    { text := text ++ [value], echo := [value], isComplete := decide (limit ≤ text.length + 1) }
  else { text, echo := [], isComplete := false }

/-- A line as text.  All its bytes are printable ASCII characters. -/
def lineText (text : List UInt8) : String :=
  String.ofList (text.map fun value => Char.ofNat value.toNat)

end Backplane.Dialog
