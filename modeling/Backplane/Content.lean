import Backplane.Bytes

/-!
# Contents of stores and files

A content has a length, and a byte at every offset below it.  Most of a long one may never have
been written, and what was never written reads as zero, so a content keeps only what was written:
the bytes near its start in an array, and those far from it one by one.  A content of any length
can therefore be made, cut and grown at no cost.

Where a byte is kept cannot be seen from outside.  The view of a content is `get?`, and
`get?_put`, `get?_set` and `get?_resize` say what each change does to the view:

* putting a byte past the end makes the content longer and leaves zeros in the gap;
* setting a byte past the end does nothing;
* resizing keeps what lies below the new length, and what it adds is zero.

The last point is why the two bounds are part of the type: nothing is kept past the end, so a
content that was cut and grown again shows zeros there.
-/

namespace Backplane

namespace Content

/-- Bytes at offsets below this are kept in the array. -/
def nearLimit : Nat := 0x400000

end Content

/-- What a store or a file holds. -/
structure Content where
  length : Nat
  /-- The bytes from the start on. -/
  near : Bytes
  /-- Offsets and bytes behind the array, the last one written first. -/
  far : List (Nat × UInt8)
  near_le : near.size ≤ length
  far_bounds : ∀ entry ∈ far, Content.nearLimit ≤ entry.1 ∧ entry.1 < length

namespace Content

/-! ## Making contents -/

/-- So many zeros. -/
def zeros (length : Nat) : Content := ⟨length, #[], [], by simp, by simp⟩

/-- No bytes. -/
def empty : Content := zeros 0

/-- The given bytes. -/
def ofBytes (bytes : Bytes) : Content := ⟨bytes.size, bytes, [], Nat.le_refl _, by simp⟩

/-! ## Reading -/

/-- The byte at an offset, as far as one is kept; all others are zero. -/
def byte (content : Content) (offset : Nat) : UInt8 :=
  (content.near[offset]?).getD ((content.far.lookup offset).getD 0)

/-- The byte at an offset, or nothing past the end. -/
def get? (content : Content) (offset : Nat) : Option UInt8 :=
  if offset < content.length then some (content.byte offset) else none

/-- At most the given number of bytes from an offset on, as far as the content goes. -/
def extract (content : Content) (offset count : Nat) : List UInt8 :=
  (List.range (min count (content.length - offset))).map fun k => content.byte (offset + k)

/-- The given number of bytes from an offset on, or nothing if the content ends before them. -/
def slice? (content : Content) (offset count : Nat) : Option (List UInt8) :=
  if offset + count ≤ content.length then some (content.extract offset count) else none

/-- All bytes. -/
def toList (content : Content) : List UInt8 := content.extract 0 content.length

/-! ## Changing -/

/-- Puts a byte at an offset, and makes the content longer if the offset lies past its end. -/
def put (content : Content) (offset : Nat) (value : UInt8) : Content :=
  match content with
  | ⟨length, near, far, near_le, far_bounds⟩ =>
    if isNear : offset < nearLimit ∨ offset < near.size then
      ⟨max length (offset + 1), near.put offset value, far,
        by rw [Bytes.size_put]; omega,
        fun entry member => by have := far_bounds entry member; omega⟩
    else
      ⟨max length (offset + 1), near, (offset, value) :: far,
        by omega,
        fun entry member => by
          rcases List.mem_cons.1 member with rfl | member
          · exact ⟨by omega, by omega⟩
          · have := far_bounds entry member; omega⟩

/-- Puts consecutive bytes from an offset on. -/
def splice (content : Content) (offset : Nat) : List UInt8 → Content
  | [] => content
  | value :: rest => splice (content.put offset value) (offset + 1) rest

/-- Replaces the byte at an offset.  Past the end nothing is changed. -/
def set (content : Content) (offset : Nat) (value : UInt8) : Content :=
  if offset < content.length then content.put offset value else content

/-- Cuts a content, or grows it with zeros, to exactly the given length. -/
def resize (content : Content) (length : Nat) : Content where
  length := length
  near := content.near.extract 0 length
  far := content.far.filter fun entry => entry.1 < length
  near_le := by rw [Array.size_extract]; omega
  far_bounds := fun entry member => by
    rcases List.mem_filter.1 member with ⟨member, below⟩
    exact ⟨(content.far_bounds entry member).1, of_decide_eq_true below⟩

/-! ## Lengths -/

@[simp]
theorem length_zeros (length : Nat) : (zeros length).length = length := rfl

@[simp]
theorem length_ofBytes (bytes : Bytes) : (ofBytes bytes).length = bytes.size := rfl

@[simp]
theorem length_put (content : Content) (offset : Nat) (value : UInt8) :
    (content.put offset value).length = max content.length (offset + 1) := by
  rcases content with ⟨length, near, far, near_le, far_bounds⟩
  simp only [put]
  split <;> rfl

@[simp]
theorem length_set (content : Content) (offset : Nat) (value : UInt8) :
    (content.set offset value).length = content.length := by
  unfold set
  split
  · rw [length_put]; omega
  · rfl

@[simp]
theorem length_resize (content : Content) (length : Nat) :
    (content.resize length).length = length := rfl

/-! ## What a byte reads as afterwards -/

theorem get?_zeros (length i : Nat) :
    (zeros length).get? i = if i < length then some 0 else none := by
  simp [get?, byte, zeros]

theorem get?_ofBytes (bytes : Bytes) (i : Nat) : (ofBytes bytes).get? i = bytes[i]? := by
  by_cases h : i < bytes.size <;> simp [get?, byte, ofBytes, h]

theorem lookup_far_eq_none (content : Content) {i : Nat}
    (h : i < nearLimit ∨ content.length ≤ i) : content.far.lookup i = none := by
  rw [List.lookup_eq_none_iff]
  intro entry member
  have := content.far_bounds entry member
  simpa using (by omega : i ≠ entry.1)

/-- Nothing is kept past the end. -/
theorem byte_eq_zero (content : Content) {i : Nat} (h : content.length ≤ i) :
    content.byte i = 0 := by
  have hnear := content.near_le
  rw [byte, Array.getElem?_eq_none (by omega), content.lookup_far_eq_none (.inr h)]
  rfl

/-- What is kept after a byte was put: that byte, and everything else as before. -/
theorem byte_put (content : Content) (offset : Nat) (value : UInt8) (i : Nat) :
    (content.put offset value).byte i = if i = offset then value else content.byte i := by
  have hfar := content.lookup_far_eq_none (i := i)
  rcases content with ⟨length, near, far, near_le, far_bounds⟩
  by_cases hnear : offset < nearLimit ∨ offset < near.size
  · simp only [put, dif_pos hnear, byte]
    rw [Bytes.getElem?_put]
    by_cases hi : i = offset
    · rw [if_pos hi, if_pos hi]
      rfl
    · rw [if_neg hi, if_neg hi]
      by_cases hin : i < near.size
      · rw [if_pos hin]
      · rw [if_neg hin, Array.getElem?_eq_none (Nat.le_of_not_lt hin)]
        split
        · -- The gap lies below `nearLimit`, where nothing is kept one by one.
          rw [hfar (.inl (by omega))]
          rfl
        · rfl
  · simp only [put, dif_neg hnear, byte]
    by_cases hi : i = offset
    · rw [if_pos hi, hi, List.lookup_cons_self, Array.getElem?_eq_none (by omega)]
      rfl
    · rw [if_neg hi, List.lookup_cons, beq_false_of_ne hi]

/-- Putting a byte changes that byte, leaves zeros in a gap before it, and nothing else. -/
theorem get?_put (content : Content) (offset : Nat) (value : UInt8) (i : Nat) :
    (content.put offset value).get? i =
      if i = offset then some value
      else if i < content.length then content.get? i
      else if i < offset then some 0 else none := by
  unfold get?
  rw [length_put, byte_put]
  by_cases hi : i = offset
  · rw [if_pos (by omega), if_pos hi, if_pos hi]
  · rw [if_neg hi, if_neg hi]
    by_cases hin : i < content.length
    · rw [if_pos (by omega), if_pos hin, if_pos hin]
    · rw [if_neg hin]
      by_cases hgap : i < offset
      · rw [if_pos (by omega), if_pos hgap, byte_eq_zero content (by omega)]
      · rw [if_neg (by omega), if_neg hgap]

/-- Setting a byte changes that byte, if there is one, and nothing else. -/
theorem get?_set (content : Content) (offset : Nat) (value : UInt8) (i : Nat) :
    (content.set offset value).get? i =
      if i = offset ∧ i < content.length then some value else content.get? i := by
  unfold set
  by_cases h : offset < content.length
  · rw [if_pos h, get?_put]
    by_cases hi : i = offset
    · rw [if_pos hi, if_pos ⟨hi, hi ▸ h⟩]
    · have hno : ¬(i = offset ∧ i < content.length) := fun both => hi both.1
      rw [if_neg hi, if_neg hno]
      by_cases hin : i < content.length
      · rw [if_pos hin]
      · rw [if_neg hin, if_neg (by omega), get?, if_neg hin]
  · rw [if_neg h, if_neg (by omega)]

theorem lookup_filter_of_lt (far : List (Nat × UInt8)) {length i : Nat} (h : i < length) :
    (far.filter fun entry => entry.1 < length).lookup i = far.lookup i := by
  induction far with
  | nil => rfl
  | cons entry far ih =>
    rcases entry with ⟨offset, value⟩
    by_cases hi : i = offset
    · subst hi
      rw [List.filter_cons_of_pos (by simpa using h), List.lookup_cons_self,
        List.lookup_cons_self]
    · rw [List.lookup_cons, beq_false_of_ne hi, List.filter_cons]
      split
      · rw [List.lookup_cons, beq_false_of_ne hi]
        exact ih
      · exact ih

/-- Resizing keeps what lies below the new length, and what it adds is zero. -/
theorem get?_resize (content : Content) (length i : Nat) :
    (content.resize length).get? i =
      if i < length then some ((content.get? i).getD 0) else none := by
  unfold get?
  rw [length_resize]
  by_cases h : i < length
  · rw [if_pos h, if_pos h]
    have hbyte : (content.resize length).byte i = content.byte i := by
      simp only [byte, resize]
      rw [lookup_filter_of_lt _ h, Array.getElem?_extract]
      by_cases hin : i < content.near.size
      · rw [if_pos (by omega), Nat.zero_add]
      · rw [if_neg (by omega), Array.getElem?_eq_none (Nat.le_of_not_lt hin)]
    rw [hbyte]
    by_cases hin : i < content.length
    · rw [if_pos hin]
      rfl
    · rw [if_neg hin, byte_eq_zero content (by omega)]
      rfl
  · rw [if_neg h, if_neg h]

end Content

end Backplane
