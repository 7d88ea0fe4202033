/-!
# Byte arrays that grow

What has been written of a store or of a file is kept in an array of bytes.  The one rule beyond
reading and replacing is what happens past the end: a byte written there first fills the gap with
zeros.  `getElem?_put` states that rule once, and everything that is proved about storage goes
through it.
-/

namespace Backplane

/-- An array of bytes. -/
abbrev Bytes := Array UInt8

namespace Bytes

/-- The bytes, grown with zeros to the given length if there are fewer. -/
def grow (bytes : Bytes) (length : Nat) : Bytes :=
  if bytes.size < length then bytes ++ Array.replicate (length - bytes.size) 0 else bytes

/-- Replaces the byte at an offset; past the end the gap is filled with zeros first. -/
def put (bytes : Bytes) (offset : Nat) (value : UInt8) : Bytes :=
  if h : offset < bytes.size then bytes.set offset value
  else (grow bytes offset).push value

/-! ## Lengths -/

@[simp]
theorem size_grow (bytes : Bytes) (length : Nat) :
    (grow bytes length).size = max bytes.size length := by
  unfold grow
  split
  · simp; omega
  · omega

@[simp]
theorem size_put (bytes : Bytes) (offset : Nat) (value : UInt8) :
    (put bytes offset value).size = max bytes.size (offset + 1) := by
  unfold put
  split <;> simp <;> omega

/-! ## What a byte reads as afterwards -/

theorem getElem?_grow (bytes : Bytes) (length i : Nat) :
    (grow bytes length)[i]? =
      if i < bytes.size then bytes[i]? else if i < length then some 0 else none := by
  unfold grow
  split
  · rw [Array.getElem?_append]
    split
    · rfl
    · rw [Array.getElem?_replicate]
      by_cases h : i < length
      · rw [if_pos (by omega), if_pos h]
      · rw [if_neg (by omega), if_neg h]
  · split
    · rfl
    · rw [if_neg (by omega), Array.getElem?_eq_none (by omega)]

/-- Writing a byte changes that byte, fills a gap before it with zeros, and nothing else. -/
theorem getElem?_put (bytes : Bytes) (offset : Nat) (value : UInt8) (i : Nat) :
    (put bytes offset value)[i]? =
      if i = offset then some value
      else if i < bytes.size then bytes[i]?
      else if i < offset then some 0 else none := by
  unfold put
  split
  · rename_i h
    rw [Array.getElem?_set]
    by_cases hi : i = offset
    · rw [if_pos hi.symm, if_pos hi]
    · rw [if_neg (Ne.symm hi), if_neg hi]
      split
      · rfl
      · rw [if_neg (by omega), Array.getElem?_eq_none (by omega)]
  · rename_i h
    rw [Array.getElem?_push, size_grow, getElem?_grow]
    by_cases hi : i = offset
    · rw [if_pos (by omega), if_pos hi]
    · rw [if_neg (by omega), if_neg hi]

end Bytes

end Backplane
