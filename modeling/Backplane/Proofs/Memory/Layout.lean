import Backplane.Proofs.Memory.AddressMap

/-!
# The layout of storage

Two stores fit in the address space if their sizes add up to no more than its limit.  The layout
compares with the limit the address where storage ends, and that is a sum of two 64-bit words,
which need not be a 64-bit word itself.  If it is one, then the stores are accepted exactly if they
fit, and refused with a reason if they do not.  If it is none, then there is no sum to compare: the
addition panics, before anything is refused.  `laysOutExactly_iff` says that these are the only
stores for which the layout is not exact.

`Divided` is the map of every layout there is.  Program storage, working storage, the unmapped
addresses and the reserved page follow each other without a gap and without an overlap, and no
access moves a border.  It is stated with the sizes that the stores have, and the memory tells the
same sizes: it computes them from the two borders it keeps.

## Panics

Two stores with sizes that add up to 2^64 or more cannot be in the memory of one program, if they
are arrays.  Devices that have gone away keep no bytes, though, and their size is any number, so the
case can be reached (`not_laysOutExactly_of_overflow`).  The layout then gives neither a memory nor
a reason.
-/

namespace Backplane

namespace Memory

variable {memory after : Memory} {program working : Store} {programSize workingSize : Nat}
  {reservedPage : Bool}

/-- The stores have these sizes, and the addresses are divided among the regions by them: program
storage from the bottom, working storage directly above it, the reserved page at the top if there
is one, and unmapped addresses in between. -/
structure Divided (memory : Memory) (programSize workingSize : Nat) (reservedPage : Bool) :
    Prop where
  programSize_eq : memory.programSize = programSize
  workingSize_eq : memory.workingSize = workingSize
  program : ∀ address, memory.region address = .program ↔ address.toNat < programSize
  working : ∀ address, memory.region address = .working ↔
    programSize ≤ address.toNat ∧ address.toNat < programSize + workingSize
  unmapped : ∀ address, memory.region address = .unmapped ↔
    programSize + workingSize ≤ address.toNat ∧ address.toNat < storageLimit reservedPage
  reserved : ∀ address, memory.region address = .reserved ↔
    reservedPage = true ∧ reservedPageStart ≤ address.toNat

/-- No access moves a border. -/
theorem Divided.of_sameDevices (h : memory.Divided programSize workingSize reservedPage)
    (hsame : SameDevices memory after) : after.Divided programSize workingSize reservedPage := by
  have hregion (address : UInt16) : after.region address = memory.region address :=
    congrArg Route.region (hsame.route address)
  refine ⟨hsame.programSize.trans h.programSize_eq, hsame.workingSize.trans h.workingSize_eq,
    ?_, ?_, ?_, ?_⟩
  · intro address
    rw [hregion, h.program]
  · intro address
    rw [hregion, h.working]
  · intro address
    rw [hregion, h.unmapped]
  · intro address
    rw [hregion, h.reserved]

/-! ## The map of a layout -/

/-- The region of an address below the end of storage, at it or above it. -/
theorem region_eq (memory : Memory) (address : UInt16) :
    memory.region address =
      if address.toNat < memory.programSize then .program
      else if address.toNat < memory.programSize + memory.workingSize then .working
      else if memory.reservedPage ∧ reservedPageStart ≤ address.toNat then .reserved
      else .unmapped := by
  rw [region, route, workingEnd_eq_add, workingStart_eq_programSize]
  rw [apply_ite Route.region, apply_ite Route.region, apply_ite Route.region]
  rfl

/-- Every memory divides the addresses by the sizes of its stores. -/
theorem divided (memory : Memory) :
    memory.Divided memory.program.size memory.working.size memory.reservedPage := by
  have hfits := memory.size_le
  refine ⟨memory.programSize_eq, memory.workingSize_eq, ?_, ?_, ?_, ?_⟩
  all_goals
    intro address
    have haddress : address.toNat < addressSpace := address.toNat_lt
    rw [region_eq, programSize_eq, workingSize_eq]
    rw [programSize_eq, workingSize_eq] at hfits
    grind [storageLimit, reservedPageStart, addressSpace]

/-! ## When the layout is exact -/

/-- Two stores are laid out if they fit and refused if they do not, and whatever is done to the
memory afterwards, it stays divided by their sizes.  A refusal has a reason, which names the sum of
the sizes and the limit. -/
structure LaysOutExactly (program working : Store) (reservedPage : Bool) : Prop where
  accepts : program.size + working.size ≤ storageLimit reservedPage →
    ∃ memory, layOut program working reservedPage = .ok memory
  refuses : storageLimit reservedPage < program.size + working.size →
    ∃ reason, layOut program working reservedPage = .error (.refused (.invalidLayout reason))
  divides : ∀ memory, layOut program working reservedPage = .ok memory → ∀ host accesses,
    (memory.run host accesses).1.Divided program.size working.size reservedPage

/-- Sizes that add up to no 64-bit word make the addition panic. -/
theorem layOut_of_overflow (h : wordLimit ≤ program.size + working.size) :
    layOut program working reservedPage = .error (.panicked .sumOverflow) := by
  simp only [layOut, programStart, Nat.zero_add, if_pos h]

/-- Sizes that add up to a 64-bit word above the limit are refused. -/
theorem layOut_of_gt (hword : program.size + working.size < wordLimit)
    (hexceeds : storageLimit reservedPage < program.size + working.size) :
    layOut program working reservedPage = .error (.refused (.invalidLayout
      (overflowReason (program.size + working.size) (storageLimit reservedPage)))) := by
  simp only [layOut, programStart, Nat.zero_add, if_neg (Nat.not_le.2 hword),
    dif_neg (Nat.not_le.2 hexceeds)]

/-- The layout is exact for all stores but those whose sizes add up to 2^64 or more.  For these it
panics, although they fit even less: the sum is taken before it is compared. -/
theorem laysOutExactly_iff (program working : Store) (reservedPage : Bool) :
    (LaysOutExactly program working reservedPage ↔ program.size + working.size < wordLimit) ∧
      (wordLimit ≤ program.size + working.size →
        layOut program working reservedPage = .error (.panicked .sumOverflow)) := by
  refine ⟨⟨?_, ?_⟩, layOut_of_overflow⟩
  · -- An exact layout refuses what does not fit, and a panic is no refusal.
    intro hexact
    by_contra hwrapped
    have hword := Nat.le_of_not_lt hwrapped
    have hlimit : storageLimit reservedPage < wordLimit :=
      Nat.lt_of_le_of_lt (storageLimit_le reservedPage) (by decide)
    obtain ⟨reason, hrefused⟩ := hexact.refuses (by omega)
    rw [layOut_of_overflow hword] at hrefused
    exact absurd hrefused (by simp)
  · intro hword
    refine ⟨fun hfits => ⟨_, layOut_of_le hfits⟩, fun hexceeds => ⟨_, layOut_of_gt hword hexceeds⟩,
      ?_⟩
    intro memory hlaid host accesses
    obtain ⟨rfl, rfl, rfl⟩ := stores_of_layOut hlaid
    exact memory.divided.of_sameDevices (sameDevices_run accesses memory host)

/-- Two devices that have gone away, whose sizes add up to 2^64: they are not refused. -/
theorem not_laysOutExactly_of_overflow :
    (Store.unplugged (2 ^ 64 - 1)).size < 2 ^ 64 ∧ (Store.unplugged 1).size < 2 ^ 64 ∧
      ¬ LaysOutExactly (.unplugged (2 ^ 64 - 1)) (.unplugged 1) true := by
  refine ⟨by decide, by decide, ?_⟩
  intro hexact
  obtain ⟨reason, hrefused⟩ := hexact.refuses (by decide)
  have hpanicked : layOut (.unplugged (2 ^ 64 - 1)) (.unplugged 1) true =
      .error (.panicked .sumOverflow) := by rfl
  rw [hpanicked] at hrefused
  exact absurd hrefused (by simp)

end Memory

end Backplane
