/-!
# Hexadecimal text

Addresses, register values and sizes are shown in upper-case hexadecimal: in the menu, in the
memory dump, in the log and in error texts.  Addresses and bytes have a fixed width, because
their type bounds them; sizes are padded to four digits and grow beyond that, because nothing
bounds them.

Everything is built on `fixed`, which writes the low digits of a number in a given width, so a
reader of hexadecimal text only has to invert one function.
-/

namespace Backplane

namespace Hex

/-- The upper-case digit of a number below sixteen. -/
def digit (n : Nat) : Char :=
  if n < 10 then Char.ofNat ('0'.toNat + n) else Char.ofNat ('A'.toNat + (n - 10))

/-- The low `width` digits of a number, most significant first. -/
def fixed : (width : Nat) → (n : Nat) → List Char
  | 0, _ => []
  | width + 1, n => fixed width (n / 16) ++ [digit (n % 16)]

@[simp]
theorem length_fixed (width n : Nat) : (fixed width n).length = width := by
  induction width generalizing n with
  | zero => rfl
  | succ width ih => simp [fixed, ih]

/-- How many digits a number needs.  Zero needs one. -/
def width (n : Nat) : Nat := n.log2 / 4 + 1

/-- All digits of a number, with leading zeros up to the given width. -/
def padded (least n : Nat) : List Char := fixed (max least (width n)) n

/-- The two digits of a byte. -/
def byte (value : UInt8) : String := String.ofList (fixed 2 value.toNat)

/-- The four digits of an address. -/
def word (address : UInt16) : String := String.ofList (fixed 4 address.toNat)

/-- An address with its radix mark, as the log writes it. -/
def address (a : UInt16) : String := "0x" ++ word a

/-- A register value or a port number with its radix mark. -/
def register (value : UInt8) : String := "0x" ++ byte value

/-- A size with its radix mark: at least four digits, and as many as it needs. -/
def size (n : Nat) : String := "0x" ++ String.ofList (padded 4 n)

end Hex

end Backplane
