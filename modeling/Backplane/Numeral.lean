/-!
# Numerals

Numbers are typed in two places: as option values on the command line and as answers in the
configuration dialog.  A numeral is an optional plus sign and one or more digits of the radix,
letters of either case.  It is read from the left, and reading stops at the first character that
is no digit or that takes the value past the wanted width, so a text with both faults is refused
for the one that comes first.

The width is given as the first number that does not fit, which lets one reader serve bytes,
addresses and sizes.
-/

namespace Backplane

/-- Why a text is not a numeral of the wanted width. -/
inductive NumeralError where
  /-- There is no character at all. -/
  | empty
  /-- A character is no digit of the radix, or the sign stands alone. -/
  | invalidDigit
  /-- The value does not fit. -/
  | tooLarge
deriving DecidableEq, Repr

/-- The wording of each cause. -/
def NumeralError.message : NumeralError → String
  | .empty => "cannot parse integer from empty string"
  | .invalidDigit => "invalid digit found in string"
  | .tooLarge => "number too large to fit in target type"

namespace Numeral

/-- The value of a figure or a letter, letters of both cases continuing after nine. -/
def figure? (c : Char) : Option Nat :=
  if '0' ≤ c ∧ c ≤ '9' then some (c.toNat - '0'.toNat)
  else if 'a' ≤ c ∧ c ≤ 'z' then some (c.toNat - 'a'.toNat + 10)
  else if 'A' ≤ c ∧ c ≤ 'Z' then some (c.toNat - 'A'.toNat + 10)
  else none

/-- The value of a digit of the radix. -/
def digit? (radix : Nat) (c : Char) : Option Nat :=
  (figure? c).filter (· < radix)

/-- Reads digits onto a value, which has to stay below `bound` after every digit. -/
def digits (radix bound : Nat) : (value : Nat) → List Char → Except NumeralError Nat
  | value, [] => .ok value
  | value, c :: rest =>
    match digit? radix c with
    | none => .error .invalidDigit
    | some d =>
      if value * radix + d < bound then digits radix bound (value * radix + d) rest
      else .error .tooLarge

/-- Reads a whole text as a numeral with a value below `bound`. -/
def parse (radix bound : Nat) : List Char → Except NumeralError Nat
  | [] => .error .empty
  | ['+'] => .error .invalidDigit
  | '+' :: rest => digits radix bound 0 rest
  | text => digits radix bound 0 text

/-- Reads a byte in hexadecimal. -/
def byte? (text : String) : Except NumeralError UInt8 :=
  (parse 16 0x100 text.toList).map UInt8.ofNat

/-- Reads an address in hexadecimal. -/
def word? (text : String) : Except NumeralError UInt16 :=
  (parse 16 0x10000 text.toList).map UInt16.ofNat

/-- Reads a size: hexadecimal after a radix mark of either case, decimal without one. -/
def size? (text : String) : Except NumeralError Nat :=
  match text.toList with
  | '0' :: 'x' :: rest => parse 16 0x10000000000000000 rest
  | '0' :: 'X' :: rest => parse 16 0x10000000000000000 rest
  | other => parse 10 0x10000000000000000 other

end Numeral

end Backplane
