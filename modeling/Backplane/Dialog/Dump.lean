import Backplane.Dialog.Editor
import Backplane.Memory

/-!
# The memory dump

The dialog shows 256 bytes of memory as sixteen rows of sixteen: the address of the row, its
bytes in hexadecimal, and its bytes as characters, with a dot for each that is not printable.
Bytes are read on the bus, so a failing device shows as a floating bus, and addresses wrap at the
top of the address space, also within a row.
-/

namespace Backplane.Dialog

/-- Bytes in a row. -/
def rowLength : Nat := 16

/-- Rows in a dump. -/
def rowCount : Nat := 16

/-- Reads consecutive addresses on the bus, wrapping at the top. -/
def readBlock (memory : Memory) (host : Host) (address : UInt16) :
    (count : Nat) → Logged (List UInt8)
  | 0 => pure []
  | count + 1 => do
    let value ← memory.read host address
    let rest ← readBlock memory host (address + 1) count
    pure (value :: rest)

/-- The character that shows a byte. -/
def dumpChar (value : UInt8) : Char :=
  if isPrintable value then Char.ofNat value.toNat else '.'

/-- One row, given what was read in it. -/
def dumpRow (address : UInt16) (bytes : List UInt8) : List Char :=
  Hex.fixed 4 address.toNat ++ [':'] ++
    bytes.flatMap (fun value => ' ' :: Hex.fixed 2 value.toNat) ++
    [' ', ' '] ++ bytes.map dumpChar ++ ['\r', '\n']

/-- The given number of rows from an address on. -/
def dumpRows (memory : Memory) (host : Host) (address : UInt16) :
    (rows : Nat) → Logged (List Char)
  | 0 => pure []
  | rows + 1 => do
    let bytes ← readBlock memory host address rowLength
    let rest ← dumpRows memory host (address + UInt16.ofNat rowLength) rows
    pure (dumpRow address bytes ++ rest)

/-- The dump from an address on. -/
def dump (memory : Memory) (host : Host) (start : UInt16) : Logged String := do
  pure (String.ofList (← dumpRows memory host start rowCount))

end Backplane.Dialog
