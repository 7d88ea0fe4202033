import Backplane.Content
import Mathlib.Tactic.Common

/-!
# Ranges of a content

The machine moves single bytes, but a disk image is written and read a sector at a time.  This
file says what `Content.splice` and `Content.slice?` do to the view `Content.get?`, and from that
what a range reads as after another range was written.

The case that carries the disk is a range that starts *within* the content or at its end: then no
gap is filled, so a range that does not meet the written one reads as before
(`slice?_splice_of_disjoint`), also when it was only partly there and could not be read at all.
For a range that starts past the end this fails, since the gap would become readable as zeros.

Reading a range gives all of its bytes or nothing, as a disk transfer needs it.  Lengths are
therefore kept along with the bytes: `slice?_eq_some_iff` says that a range can be read if the
content reaches to its end, and which bytes it has then.
-/

namespace Backplane

namespace Content

variable (content : Content)

/-- What is kept of a content is what it shows, and zeros past its end. -/
theorem byte_eq_getD_get? (i : Nat) : content.byte i = (content.get? i).getD 0 := by
  unfold get?
  by_cases hin : i < content.length
  · rw [if_pos hin]
    rfl
  · rw [if_neg hin, byte_eq_zero _ (Nat.le_of_not_lt hin)]
    rfl

/-- Growing a content keeps all its bytes. -/
theorem byte_resize_of_le {length : Nat} (h : content.length ≤ length) (i : Nat) :
    (content.resize length).byte i = content.byte i := by
  rw [byte_eq_getD_get?, byte_eq_getD_get?, get?_resize]
  by_cases hin : i < length
  · rw [if_pos hin]
    rfl
  · rw [if_neg hin, get?, if_neg (by omega)]

/-! ## Writing a range -/

@[simp]
theorem length_splice_of_le {offset : Nat} {bytes : List UInt8}
    (h : offset ≤ content.length) :
    (content.splice offset bytes).length = max content.length (offset + bytes.length) := by
  induction bytes generalizing content offset with
  | nil =>
    rw [splice, List.length_nil]
    omega
  | cons value rest ih =>
    have hnext : offset + 1 ≤ (content.put offset value).length := by
      rw [length_put]
      omega
    rw [splice, ih _ hnext, length_put, List.length_cons]
    omega

/-- A range that starts within the content or at its end is replaced, and nothing else is. -/
theorem get?_splice_of_le {offset : Nat} {bytes : List UInt8} (h : offset ≤ content.length)
    (i : Nat) :
    (content.splice offset bytes).get? i =
      if offset ≤ i ∧ i < offset + bytes.length then bytes[i - offset]? else content.get? i := by
  induction bytes generalizing content offset with
  | nil => rw [splice, if_neg (by simp)]
  | cons value rest ih =>
    -- The first byte is put in place without a gap, so only its own offset changes.
    have hput : (content.put offset value).get? i =
        if i = offset then some value else content.get? i := by
      rw [get?_put]
      by_cases hi : i = offset
      · rw [if_pos hi, if_pos hi]
      · rw [if_neg hi, if_neg hi]
        by_cases hin : i < content.length
        · rw [if_pos hin]
        · rw [if_neg hin, if_neg (by omega), get?, if_neg hin]
    have hnext : offset + 1 ≤ (content.put offset value).length := by
      rw [length_put]
      omega
    rw [splice, ih _ hnext, hput, List.length_cons]
    rcases Nat.lt_trichotomy i offset with hi | hi | hi
    · -- Before the range.
      rw [if_neg (by omega), if_neg (by omega), if_neg (by omega)]
    · -- At its first byte.
      rw [if_neg (by omega), if_pos hi, if_pos (by omega), hi, Nat.sub_self]
      rfl
    · -- Behind its first byte, where the rest of the range is.
      by_cases hin : i < offset + (rest.length + 1)
      · rw [if_pos (by omega), if_pos (by omega),
          show i - offset = (i - (offset + 1)) + 1 by omega, List.getElem?_cons_succ]
      · rw [if_neg (by omega), if_neg (by omega), if_neg (by omega)]

/-! ## Reading a range -/

@[simp]
theorem length_extract (offset count : Nat) :
    (content.extract offset count).length = min count (content.length - offset) := by
  rw [extract, List.length_map, List.length_range]

@[simp]
theorem length_toList : content.toList.length = content.length := by
  rw [toList, length_extract]
  omega

theorem getElem?_extract {offset count k : Nat} (h : k < count) :
    (content.extract offset count)[k]? = content.get? (offset + k) := by
  rw [extract, List.getElem?_map, get?]
  by_cases hin : offset + k < content.length
  · rw [if_pos hin, List.getElem?_range (by omega)]
    rfl
  · rw [if_neg hin, List.getElem?_eq_none (by rw [List.length_range]; omega)]
    rfl

/-- A range can be read if it ends within the content, and then it reads as its bytes. -/
theorem slice?_eq_some_iff {offset count : Nat} {bytes : List UInt8} :
    content.slice? offset count = some bytes ↔
      offset + count ≤ content.length ∧ bytes.length = count ∧
        ∀ k < count, bytes[k]? = content.get? (offset + k) := by
  unfold slice?
  constructor
  · intro h
    split at h
    · rename_i hin
      obtain rfl := Option.some.inj h
      have hlength : (content.extract offset count).length = count := by
        rw [length_extract]
        omega
      refine ⟨hin, hlength, ?_⟩
      intro k hk
      rw [getElem?_extract _ hk]
    · exact absurd h (by simp)
  · rintro ⟨hin, hlength, hbytes⟩
    rw [if_pos hin]
    congr 1
    apply List.ext_getElem?
    intro k
    by_cases hk : k < count
    · rw [getElem?_extract _ hk, hbytes k hk]
    · have hout : (content.extract offset count).length ≤ k := by
        rw [length_extract]
        omega
      rw [List.getElem?_eq_none hout, List.getElem?_eq_none (by omega)]

theorem slice?_eq_none_iff {offset count : Nat} :
    content.slice? offset count = none ↔ content.length < offset + count := by
  unfold slice?
  split <;> simp <;> omega

variable {content}

/-- Two contents that end alike for a range, and hold the same bytes in it, read alike there. -/
theorem slice?_congr {other : Content} {offset count : Nat}
    (hend : offset + count ≤ content.length ↔ offset + count ≤ other.length)
    (hget : ∀ k < count, content.get? (offset + k) = other.get? (offset + k)) :
    content.slice? offset count = other.slice? offset count := by
  cases hslice : other.slice? offset count with
  | none =>
    rw [slice?_eq_none_iff] at hslice ⊢
    omega
  | some bytes =>
    rw [slice?_eq_some_iff] at hslice ⊢
    obtain ⟨hin, hlength, hbytes⟩ := hslice
    refine ⟨hend.2 hin, hlength, ?_⟩
    intro k hk
    rw [hbytes k hk, hget k hk]

/-! ## Reading after writing -/

/-- The range that was written reads as what was written. -/
theorem slice?_splice_self {offset : Nat} {bytes : List UInt8} (h : offset ≤ content.length) :
    (content.splice offset bytes).slice? offset bytes.length = some bytes := by
  have hend : offset + bytes.length ≤ (content.splice offset bytes).length := by
    rw [length_splice_of_le _ h]
    omega
  rw [slice?_eq_some_iff]
  refine ⟨hend, rfl, ?_⟩
  intro k hk
  rw [get?_splice_of_le _ h, if_pos (by omega), Nat.add_sub_cancel_left]

/-- A range that does not meet the one that was written reads as before, also if it could not be
read before. -/
theorem slice?_splice_of_disjoint {offset : Nat} {bytes : List UInt8} {other count : Nat}
    (h : offset ≤ content.length) (hcount : 0 < count)
    (hdisjoint : other + count ≤ offset ∨ offset + bytes.length ≤ other) :
    (content.splice offset bytes).slice? other count = content.slice? other count := by
  apply slice?_congr
  · rw [length_splice_of_le _ h]
    omega
  · intro k hk
    rw [get?_splice_of_le _ h, if_neg (by omega)]

end Content

end Backplane
