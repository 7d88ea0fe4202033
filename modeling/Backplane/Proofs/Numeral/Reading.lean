import Backplane.Hex
import Backplane.Numeral
import Mathlib.Tactic.Ring
import Mathlib.Tactic.IntervalCases

/-!
# Reading what was written

Numbers are written in hexadecimal with a fixed number of digits, and typed in numerals of any
length.  The two go together: the reader of numerals gives back the number that was written, or what
is left of it if it did not fit in so many digits (`digits_fixed`).
-/

namespace Backplane

namespace Numeral

/-- A digit is read back. -/
theorem digit?_digit {n : Nat} (h : n < 16) : digit? 16 (Hex.digit n) = some n := by
  interval_cases n <;> rfl

theorem exists_digit_of_mem_fixed {width n : Nat} {c : Char} (h : c ∈ Hex.fixed width n) :
    ∃ d < 16, c = Hex.digit d := by
  induction width generalizing n with
  | zero => simp [Hex.fixed] at h
  | succ width ih =>
    rcases List.mem_append.1 h with hearlier | hlast
    · exact ih hearlier
    · exact ⟨n % 16, Nat.mod_lt _ (by decide), List.mem_singleton.1 hlast⟩

/-- The digits that were written are read onto the value so far. -/
theorem digits_fixed {width n value bound : Nat}
    (h : value * 16 ^ width + n % 16 ^ width < bound) (rest : List Char) :
    digits 16 bound value (Hex.fixed width n ++ rest) =
      digits 16 bound (value * 16 ^ width + n % 16 ^ width) rest := by
  induction width generalizing n rest with
  | zero => simp [Hex.fixed, Nat.mod_one]
  | succ width ih =>
    have hsplit : value * 16 ^ (width + 1) + n % 16 ^ (width + 1) =
        (value * 16 ^ width + n / 16 % 16 ^ width) * 16 + n % 16 := by
      rw [Nat.pow_succ', Nat.mod_mul]
      ring
    rw [hsplit] at h ⊢
    rw [Hex.fixed, List.append_assoc, ih (by omega), List.singleton_append, digits,
      digit?_digit (Nat.mod_lt _ (by decide))]
    exact if_pos h

/-- A number that fits is read back. -/
theorem digits_fixed_of_lt {width n bound : Nat} (h : n < bound) (hwidth : bound ≤ 16 ^ width) :
    digits 16 bound 0 (Hex.fixed width n) = .ok n := by
  have hmod : 0 * 16 ^ width + n % 16 ^ width = n := by
    rw [Nat.zero_mul, Nat.zero_add, Nat.mod_eq_of_lt (Nat.lt_of_lt_of_le h hwidth)]
  have hread := digits_fixed (hmod.symm ▸ h) []
  rwa [List.append_nil, hmod] at hread

end Numeral

end Backplane
