import Backplane.Memory
import Backplane.Proofs.Store.Cells

/-!
# Accesses to the address space

Every access that is not a program load comes down to `Memory.fetch` and `Memory.put` at single
addresses.  This file says what a put does to what is fetched afterwards, for an access on the bus
and for a block of a disk transfer, and what no such access can change.

`WorkingOnly before after` collects the second part: program storage is the same, and working
storage is the same device with perhaps other bytes.  It is reflexive and transitive, and `put`,
`write`, `store` and `storeBlock` all keep to it; that bus and transfers never change program
storage is its first field.  Program loads keep to the weaker `SameDevices`, which is enough for
each address to lead where it led and to refuse what it refused.

Blocks are handled at the addresses `address + i`, which may wrap.  Two of them are the same only
if their distances are (`add_ofNat_injective`), as long as a block is not longer than the address
space.

## Values and events

What is said here is about the values of computations, and the log is left out of it
(`Logged.value_bind`).  The bus and a disk transfer differ only in what they do with a refusal: the
bus reports it and goes on, and a transfer hands it back.  So `value_read` and `value_write` are
stated by cases of `fetch` and `storeFault?`, like `value_load` and `value_store`, and everything
behind them needs `fetch` and `put` alone.

## Layouts

A memory carries the proofs that its borders are those of its stores, and that storage ends within
the limit.  `layOut_eq_ok_iff` says when there is such a memory for two stores and which one it is,
and nothing else needs to open the layout.
-/

namespace Backplane

namespace Memory

variable {memory after : Memory} {host : Host} {address : UInt16} {value : UInt8}

/-! ## Values of accesses -/

theorem value_load (memory : Memory) (host : Host) (address : UInt16) :
    (memory.load host address).value = memory.fetch host address := rfl

theorem value_store (memory : Memory) (host : Host) (address : UInt16) (value : UInt8) :
    (memory.store host address value).value =
      match memory.storeFault? host address with
      | some fault => (.error fault, memory, host)
      | none => (.ok (), memory.put host address value) := by
  unfold store
  cases memory.storeFault? host address <;> rfl

theorem value_read (memory : Memory) (host : Host) (address : UInt16) :
    (memory.read host address).value =
      match memory.fetch host address with
      | .ok value => value
      | .error _ => floatingBus := by
  rw [read, Logged.value_bind, value_load]
  cases memory.fetch host address <;> rfl

theorem value_write (memory : Memory) (host : Host) (address : UInt16) (value : UInt8) :
    (memory.write host address value).value =
      match memory.storeFault? host address with
      | some _ => (memory, host)
      | none => memory.put host address value := by
  rw [write, Logged.value_bind, value_store]
  cases memory.storeFault? host address <;> rfl

theorem value_loadBlock_succ (memory : Memory) (host : Host) (address : UInt16)
    (count : Nat) :
    (memory.loadBlock host address (count + 1)).value =
      match memory.fetch host address with
      | .error fault => .error (address, fault)
      | .ok value =>
        match (memory.loadBlock host (address + 1) count).value with
        | .error failure => .error failure
        | .ok rest => .ok (value :: rest) := by
  rw [loadBlock, Logged.value_bind, value_load]
  cases memory.fetch host address with
  | error fault => rfl
  | ok value =>
    simp only [Logged.value_bind]
    cases (memory.loadBlock host (address + 1) count).value <;> rfl

theorem value_storeBlock_cons (memory : Memory) (host : Host) (address : UInt16)
    (value : UInt8) (rest : List UInt8) :
    (memory.storeBlock host address (value :: rest)).value =
      match memory.storeFault? host address with
      | some fault => (.error (address, fault), memory, host)
      | none =>
        ((memory.put host address value).1.storeBlock (memory.put host address value).2
          (address + 1) rest).value := by
  rw [storeBlock, Logged.value_bind, value_store]
  cases memory.storeFault? host address <;> rfl

/-! ## Layout -/

/-- Storage that was laid out fits. -/
theorem size_le (memory : Memory) :
    memory.programSize + memory.workingSize ≤ storageLimit memory.reservedPage := by
  have hend := memory.workingEnd_le
  rw [memory.workingEnd_eq, memory.workingStart_eq, programStart] at hend
  simpa only [programSize_eq, workingSize_eq, Nat.zero_add] using hend

theorem storageLimit_le (reserved : Bool) : storageLimit reserved ≤ addressSpace := by
  unfold storageLimit
  split <;> decide

theorem size_le_addressSpace (memory : Memory) :
    memory.programSize + memory.workingSize ≤ addressSpace :=
  Nat.le_trans memory.size_le (storageLimit_le _)

theorem workingStart_eq_programSize (memory : Memory) :
    memory.workingStart = memory.programSize := by
  rw [programSize_eq, memory.workingStart_eq, programStart, Nat.zero_add]

theorem workingEnd_eq_add (memory : Memory) :
    memory.workingEnd = memory.programSize + memory.workingSize := by
  rw [memory.workingEnd_eq, workingStart_eq_programSize, workingSize_eq]

/-- Where the stores end follows from their sizes, so a layout is determined by its stores. -/
theorem eq_of_stores : ∀ {first second : Memory}, first.program = second.program →
    first.working = second.working → first.reservedPage = second.reservedPage →
      first = second := by
  rintro ⟨program, working, _, _, reservedPage, rfl, rfl, _⟩
    ⟨program', working', _, _, reservedPage', rfl, rfl, _⟩ hprogram hworking hreserved
  obtain rfl : program = program' := hprogram
  obtain rfl : working = working' := hworking
  obtain rfl : reservedPage = reservedPage' := hreserved
  rfl

theorem layOut_eq_ok_iff {program working : Store} {reserved : Bool} :
    layOut program working reserved = .ok memory ↔
      ∃ fits : program.size + working.size ≤ storageLimit reserved,
        ofStores program working reserved fits = memory := by
  have hwords : addressSpace < wordLimit := by decide
  have hlimit := storageLimit_le reserved
  simp only [layOut, programStart, Nat.zero_add]
  by_cases hwrapped : wordLimit ≤ program.size + working.size
  · -- A sum that is no word is far beyond the limit.
    rw [if_pos hwrapped]
    simp only [reduceCtorEq, false_iff, not_exists]
    omega
  · -- A sum that is one is compared with the limit.
    rw [if_neg hwrapped]
    by_cases hfits : program.size + working.size ≤ storageLimit reserved
    · rw [dif_pos hfits]
      simp only [Except.ok.injEq, hfits, exists_true_left]
      constructor
      · rintro rfl
        exact eq_of_stores rfl rfl rfl
      · rintro rfl
        exact eq_of_stores rfl rfl rfl
    · rw [dif_neg hfits]
      simp [hfits]

/-- What is laid out is made of the stores it was asked for. -/
theorem stores_of_layOut {program working : Store} {reserved : Bool}
    (h : layOut program working reserved = .ok memory) :
    memory.program = program ∧ memory.working = working ∧ memory.reservedPage = reserved := by
  obtain ⟨_, rfl⟩ := layOut_eq_ok_iff.1 h
  exact ⟨rfl, rfl, rfl⟩

/-- Stores that fit are laid out. -/
theorem layOut_of_le {program working : Store} {reserved : Bool}
    (h : program.size + working.size ≤ storageLimit reserved) :
    layOut program working reserved = .ok (ofStores program working reserved h) :=
  layOut_eq_ok_iff.2 ⟨h, rfl⟩

/-- Stores are refused only if they do not fit, and the reason names the sum of their sizes. -/
theorem exceeds_of_layOut {program working : Store} {reserved : Bool} {refusal : MachineError}
    (h : layOut program working reserved = .error (.refused refusal)) :
    storageLimit reserved < program.size + working.size ∧
      refusal = .invalidLayout
        (overflowReason (program.size + working.size) (storageLimit reserved)) := by
  simp only [layOut, programStart, Nat.zero_add] at h
  split at h
  · exact absurd h (by simp)
  · split at h
    · exact absurd h (by simp)
    · rename_i hexceeds
      exact ⟨Nat.lt_of_not_le hexceeds, (BuildFailure.refused.inj (Except.error.inj h)).symm⟩

/-! ## Where an address leads -/

theorem route_eq_program_iff {offset : Nat} :
    memory.route address = .program offset ↔
      address.toNat < memory.programSize ∧ offset = address.toNat := by
  unfold route
  rw [workingStart_eq_programSize, programStart, Nat.sub_zero]
  split
  · rename_i h
    rw [Route.program.injEq]
    omega
  · split
    · rename_i h h'
      simp only [reduceCtorEq, false_iff, not_and]
      omega
    · rename_i h h'
      split <;> simp only [reduceCtorEq, false_iff, not_and] <;> omega

theorem route_eq_working_iff {offset : Nat} :
    memory.route address = .working offset ↔
      memory.programSize ≤ address.toNat ∧
        address.toNat < memory.programSize + memory.workingSize ∧
        offset = address.toNat - memory.programSize := by
  unfold route
  rw [workingEnd_eq_add, workingStart_eq_programSize]
  split
  · rename_i h
    simp only [reduceCtorEq, false_iff, not_and]
    omega
  · split
    · rename_i h h'
      rw [Route.working.injEq]
      omega
    · rename_i h h'
      split <;> simp only [reduceCtorEq, false_iff, not_and] <;> omega

/-- An address of program storage leads to an offset within it. -/
theorem lt_of_route_program {offset : Nat} (h : memory.route address = .program offset) :
    offset < memory.program.size := by
  obtain ⟨hlt, rfl⟩ := route_eq_program_iff.1 h
  rwa [programSize_eq] at hlt

/-- An address of working storage leads to an offset within it. -/
theorem lt_of_route_working {offset : Nat} (h : memory.route address = .working offset) :
    offset < memory.working.size := by
  obtain ⟨hle, hlt, rfl⟩ := route_eq_working_iff.1 h
  rw [workingSize_eq] at hlt
  omega

theorem address_eq_of_route_working {other : UInt16} {offset : Nat}
    (h : memory.route address = .working offset) (h' : memory.route other = .working offset) :
    other = address := by
  obtain ⟨hle, -, hoffset⟩ := route_eq_working_iff.1 h
  obtain ⟨hle', -, hoffset'⟩ := route_eq_working_iff.1 h'
  apply UInt16.toNat_inj.1
  omega

/-- Every offset of working storage has its address. -/
theorem route_ofNat (memory : Memory) {offset : Nat} (hoffset : offset < memory.workingSize) :
    memory.route (UInt16.ofNat (memory.programSize + offset)) = .working offset := by
  have hfits := memory.size_le_addressSpace
  have haddresses : addressSpace = 2 ^ 16 := rfl
  have haddress : (UInt16.ofNat (memory.programSize + offset)).toNat =
      memory.programSize + offset := by
    rw [UInt16.toNat_ofNat']
    exact Nat.mod_eq_of_lt (by omega)
  apply route_eq_working_iff.2
  rw [haddress]
  omega

theorem region_eq_working_iff :
    memory.region address = .working ↔ ∃ offset, memory.route address = .working offset := by
  unfold region
  cases memory.route address <;> simp [Route.region]

/-- Above all storage there is nothing. -/
theorem region_of_above (hend : memory.programSize + memory.workingSize ≤ address.toNat) :
    memory.region address = .reserved ∨ memory.region address = .unmapped := by
  unfold region route
  rw [workingEnd_eq_add, workingStart_eq_programSize, if_neg (by omega), if_neg (by omega)]
  split
  · exact .inl rfl
  · exact .inr rfl

theorem fetch_of_nowhere
    (h : memory.region address = .reserved ∨ memory.region address = .unmapped) :
    memory.fetch host address = .ok floatingBus := by
  unfold fetch
  unfold region at h
  cases hroute : memory.route address with
  | program i => simp [hroute, Route.region] at h
  | working i => simp [hroute, Route.region] at h
  | reserved => rfl
  | unmapped => rfl

/-- A byte of working storage that can be loaded is read at its address. -/
theorem read_of_working (memory : Memory) {offset : Nat} (hoffset : offset < memory.workingSize)
    (hload : memory.working.load host offset = .ok value) :
    (memory.read host (UInt16.ofNat (memory.programSize + offset))).value = value := by
  rw [value_read, fetch, route_ofNat memory hoffset]
  simp only [hload]

/-! ## What an access cannot change -/

/-- Both stores are the same devices with perhaps other bytes.  This is what every access keeps,
program loads included. -/
structure SameDevices (before after : Memory) : Prop where
  program : Store.SameDevice before.program after.program
  working : Store.SameDevice before.working after.working
  reservedPage : after.reservedPage = before.reservedPage

namespace SameDevices

variable {first second third : Memory}

@[refl]
theorem refl (memory : Memory) : SameDevices memory memory :=
  ⟨Store.SameDevice.refl _, Store.SameDevice.refl _, rfl⟩

theorem trans (h : SameDevices first second) (h' : SameDevices second third) :
    SameDevices first third :=
  ⟨h.program.trans h'.program, h.working.trans h'.working, h'.reservedPage.trans h.reservedPage⟩

theorem route (h : SameDevices first second) (address : UInt16) :
    second.route address = first.route address := by
  have hstart : second.workingStart = first.workingStart := by
    rw [second.workingStart_eq, first.workingStart_eq, h.program.size]
  have hend : second.workingEnd = first.workingEnd := by
    rw [second.workingEnd_eq, first.workingEnd_eq, hstart, h.working.size]
  unfold Memory.route
  rw [hstart, hend, h.reservedPage]

theorem programSize (h : SameDevices first second) : second.programSize = first.programSize := by
  rw [programSize_eq, programSize_eq, h.program.size]

theorem workingSize (h : SameDevices first second) : second.workingSize = first.workingSize := by
  rw [workingSize_eq, workingSize_eq, h.working.size]

theorem storeFault? (h : SameDevices first second) {other : Host}
    (hrefusal : ∀ node access, other.refusal? node access = host.refusal? node access)
    (address : UInt16) : second.storeFault? other address = first.storeFault? host address := by
  unfold Memory.storeFault?
  rw [h.route]
  split
  · rw [h.working.storeFault?, Store.storeFault?_of_refusal? hrefusal]
  · rfl

end SameDevices

/-- Program storage is the same, and working storage is the same device with perhaps other bytes.
This is what every access on the bus and every transfer keeps, and it composes, so a run of them
keeps it. -/
structure WorkingOnly (before after : Memory) : Prop where
  program : after.program = before.program
  working : Store.SameDevice before.working after.working
  reservedPage : after.reservedPage = before.reservedPage

namespace WorkingOnly

variable {first second third : Memory}

@[refl]
theorem refl (memory : Memory) : WorkingOnly memory memory :=
  ⟨rfl, Store.SameDevice.refl _, rfl⟩

theorem trans (h : WorkingOnly first second) (h' : WorkingOnly second third) :
    WorkingOnly first third :=
  ⟨h'.program.trans h.program, h.working.trans h'.working, h'.reservedPage.trans h.reservedPage⟩

theorem sameDevices (h : WorkingOnly first second) : SameDevices first second :=
  ⟨h.program ▸ Store.SameDevice.refl _, h.working, h.reservedPage⟩

theorem route (h : WorkingOnly first second) (address : UInt16) :
    second.route address = first.route address :=
  h.sameDevices.route address

/-- Outside working storage every address holds what it held. -/
theorem fetch_of_region (h : WorkingOnly first second) (hregion : first.region address ≠ .working) :
    second.fetch host address = first.fetch host address := by
  unfold fetch
  rw [h.route, h.program]
  cases hroute : first.route address with
  | working offset => exact absurd (region_eq_working_iff.2 ⟨offset, hroute⟩) hregion
  | _ => rfl

end WorkingOnly

/-! ## Putting one byte -/

theorem put_of_working {offset : Nat} (h : memory.route address = .working offset) :
    memory.put host address value =
      (memory.withWorking (memory.working.put host offset value).1 (Store.size_put ..),
        (memory.working.put host offset value).2) := by
  unfold put
  rw [h]
  rfl

theorem put_of_not_working (h : ∀ offset, memory.route address ≠ .working offset) :
    memory.put host address value = (memory, host) := by
  unfold put
  split
  · exact absurd ‹_› (h _)
  · rfl

theorem storeFault?_of_working {offset : Nat} (h : memory.route address = .working offset) :
    memory.storeFault? host address = memory.working.storeFault? host offset := by
  unfold storeFault?
  rw [h]

theorem workingOnly_put (memory : Memory) (host : Host) (address : UInt16) (value : UInt8) :
    WorkingOnly memory (memory.put host address value).1 := by
  by_cases h : ∃ offset, memory.route address = .working offset
  · obtain ⟨offset, h⟩ := h
    rw [put_of_working h]
    exact ⟨rfl, Store.sameDevice_put _ _ _ _, rfl⟩
  · rw [put_of_not_working fun offset hroute => h ⟨offset, hroute⟩]

theorem agree_put (memory : Memory) (host : Host) (address : UInt16) (value : UInt8) :
    Host.Agree (fun index => memory.working.file? = some index) host
      (memory.put host address value).2 := by
  by_cases h : ∃ offset, memory.route address = .working offset
  · obtain ⟨offset, h⟩ := h
    rw [put_of_working h]
    exact Store.agree_put _ _ _ _
  · rw [put_of_not_working fun offset hroute => h ⟨offset, hroute⟩]

/-- What memory holds does not change with files that are not behind its stores. -/
theorem fetch_of_agree {touched : Nat → Prop} {before after : Host}
    (hagree : Host.Agree touched before after)
    (hout : ∀ file, memory.program.file? = some file ∨ memory.working.file? = some file →
      ¬touched file) (address : UInt16) :
    memory.fetch after address = memory.fetch before address := by
  unfold fetch
  split
  · exact Store.load_of_agree hagree (fun file hfile => hout file (.inl hfile)) _
  · exact Store.load_of_agree hagree (fun file hfile => hout file (.inr hfile)) _
  · rfl
  · rfl

/-- A byte that working storage takes is there afterwards, if it can be read. -/
theorem fetch_put_self (hplain : memory.working.IsPlain) (hanchored : memory.working.Anchored host)
    (hreadable : memory.working.Readable host) {offset : Nat}
    (hroute : memory.route address = .working offset)
    (hfault : memory.storeFault? host address = none) :
    (memory.put host address value).1.fetch (memory.put host address value).2 address =
      .ok value := by
  unfold fetch
  rw [(workingOnly_put memory host address value).route, hroute]
  rw [storeFault?_of_working hroute] at hfault
  rw [put_of_working hroute]
  exact Store.load_put_self hplain hanchored hreadable (lt_of_route_working hroute) hfault

/-- A byte of working storage that could be fetched stays when one is put elsewhere. -/
theorem fetch_put_of_ne (hplain : memory.working.IsPlain)
    (hanchored : memory.working.Anchored host) {other : UInt16} {offset : Nat}
    (hother : memory.route other = .working offset) (hne : other ≠ address)
    (hfault : memory.storeFault? host address = none) {old : UInt8}
    (hfetch : memory.fetch host other = .ok old) :
    (memory.put host address value).1.fetch (memory.put host address value).2 other = .ok old := by
  by_cases h : ∃ offset, memory.route address = .working offset
  · obtain ⟨offset', hroute⟩ := h
    have hoffset : offset ≠ offset' := by
      rintro rfl
      exact hne (address_eq_of_route_working hroute hother)
    rw [storeFault?_of_working hroute] at hfault
    unfold fetch at hfetch ⊢
    rw [(workingOnly_put memory host address value).route, hother]
    rw [hother] at hfetch
    rw [put_of_working hroute]
    exact Store.load_put_of_ne hplain hanchored (lt_of_route_working hroute) hfault hoffset hfetch
  · rw [put_of_not_working fun offset hroute => h ⟨offset, hroute⟩]
    exact hfetch

/-! ## Blocks -/

theorem add_one_add_ofNat (address : UInt16) (i : Nat) :
    address + 1 + UInt16.ofNat i = address + UInt16.ofNat (i + 1) := by
  rw [UInt16.ofNat_add, UInt16.add_assoc, UInt16.add_comm 1]
  rfl

theorem add_ofNat_injective (address : UInt16) {i j : Nat} (hi : i < 2 ^ 16) (hj : j < 2 ^ 16)
    (h : address + UInt16.ofNat i = address + UInt16.ofNat j) : i = j := by
  have h' := congrArg UInt16.toNat ((UInt16.add_right_inj address).1 h)
  rw [UInt16.toNat_ofNat', UInt16.toNat_ofNat', Nat.mod_eq_of_lt hi, Nat.mod_eq_of_lt hj] at h'
  exact h'

/-- A block that is loaded has a byte for each address, which is what the address holds. -/
theorem loadBlock_eq_ok {count : Nat} {bytes : List UInt8}
    (h : (memory.loadBlock host address count).value = .ok bytes) :
    bytes.length = count ∧
      ∀ i (hi : i < bytes.length), memory.fetch host (address + UInt16.ofNat i) = .ok bytes[i] := by
  induction count generalizing address bytes with
  | zero =>
    obtain rfl := Except.ok.inj h
    exact ⟨rfl, fun i hi => absurd hi (by simp)⟩
  | succ count ih =>
    rw [value_loadBlock_succ] at h
    cases hfetch : memory.fetch host address with
    | error fault => simp [hfetch] at h
    | ok value =>
      cases hrest : (memory.loadBlock host (address + 1) count).value with
      | error failure => simp [hfetch, hrest] at h
      | ok rest =>
        simp only [hfetch, hrest, Except.ok.injEq] at h
        obtain ⟨hlength, hbytes⟩ := ih hrest
        subst h
        refine ⟨by rw [List.length_cons, hlength], ?_⟩
        intro i hi
        cases i with
        | zero => simpa using hfetch
        | succ i =>
          rw [List.length_cons] at hi
          rw [← add_one_add_ofNat]
          exact hbytes i (by omega)

theorem workingOnly_storeBlock (memory : Memory) (host : Host) (address : UInt16)
    (bytes : List UInt8) :
    WorkingOnly memory (memory.storeBlock host address bytes).value.2.1 := by
  induction bytes generalizing memory host address with
  | nil => exact WorkingOnly.refl _
  | cons value rest ih =>
    rw [value_storeBlock_cons]
    split
    · exact WorkingOnly.refl _
    · exact (workingOnly_put memory host address value).trans (ih _ _ _)

theorem agree_storeBlock (memory : Memory) (host : Host) (address : UInt16)
    (bytes : List UInt8) :
    Host.Agree (fun index => memory.working.file? = some index) host
      (memory.storeBlock host address bytes).value.2.2 := by
  induction bytes generalizing memory host address with
  | nil => exact Host.Agree.refl _ _
  | cons value rest ih =>
    rw [value_storeBlock_cons]
    split
    · exact Host.Agree.refl _ _
    · have hrest := ih (memory.put host address value).1 (memory.put host address value).2
        (address + 1)
      rw [(workingOnly_put memory host address value).working.file?] at hrest
      exact (agree_put memory host address value).trans hrest

theorem workingOnly_write (memory : Memory) (host : Host) (address : UInt16) (value : UInt8) :
    WorkingOnly memory (memory.write host address value).value.1 := by
  rw [value_write]
  split
  · exact WorkingOnly.refl _
  · exact workingOnly_put _ _ _ _

theorem agree_write (memory : Memory) (host : Host) (address : UInt16) (value : UInt8) :
    Host.Agree (fun index => memory.working.file? = some index) host
      (memory.write host address value).value.2 := by
  rw [value_write]
  split
  · exact Host.Agree.refl _ _
  · exact agree_put _ _ _ _

theorem readable_put (hreadable : memory.working.Readable host) (address : UInt16)
    (value : UInt8) :
    (memory.put host address value).1.working.Readable (memory.put host address value).2 := by
  intro index hfile
  rw [(workingOnly_put memory host address value).working.file?] at hfile
  simpa only [(agree_put memory host address value).refusal?] using hreadable index hfile

theorem anchored_put (hanchored : memory.working.Anchored host) (address : UInt16)
    (value : UInt8) :
    (memory.put host address value).1.working.Anchored (memory.put host address value).2 := by
  intro index hfile
  rw [(workingOnly_put memory host address value).working.file?] at hfile
  rw [(agree_put memory host address value).size]
  exact hanchored index hfile

/-- A block leaves alone what can be fetched from working storage outside it. -/
theorem fetch_storeBlock_of_outside (hplain : memory.working.IsPlain)
    (hanchored : memory.working.Anchored host) {bytes : List UInt8} {other : UInt16}
    {offset : Nat} (hother : memory.route other = .working offset)
    (houtside : ∀ i < bytes.length, other ≠ address + UInt16.ofNat i) {old : UInt8}
    (hfetch : memory.fetch host other = .ok old) :
    (memory.storeBlock host address bytes).value.2.1.fetch
      (memory.storeBlock host address bytes).value.2.2 other = .ok old := by
  induction bytes generalizing memory host address with
  | nil => exact hfetch
  | cons value rest ih =>
    rw [value_storeBlock_cons]
    cases hfault : memory.storeFault? host address with
    | none =>
      -- The first byte goes elsewhere, and so does the rest.
      have hput := workingOnly_put memory host address value
      have hne : other ≠ address := by simpa using houtside 0 (by simp)
      have hrest : ∀ i < rest.length, other ≠ address + 1 + UInt16.ofNat i := by
        intro i hi
        rw [add_one_add_ofNat]
        exact houtside (i + 1) (by rw [List.length_cons]; omega)
      exact ih (hput.working.plain hplain) (anchored_put hanchored _ _)
        ((hput.route _).trans hother) hrest
        (fetch_put_of_ne hplain hanchored hother hne hfault hfetch)
    | some fault => exact hfetch

/-- After a block was stored to its end, its addresses in working storage hold its bytes, if they
can be read. -/
theorem fetch_storeBlock (hplain : memory.working.IsPlain)
    (hanchored : memory.working.Anchored host) (hreadable : memory.working.Readable host)
    {bytes : List UInt8} (hlength : bytes.length ≤ 2 ^ 16)
    (hok : (memory.storeBlock host address bytes).value.1 = .ok ()) {i : Nat}
    (hi : i < bytes.length) {offset : Nat}
    (hroute : memory.route (address + UInt16.ofNat i) = .working offset) :
    (memory.storeBlock host address bytes).value.2.1.fetch
      (memory.storeBlock host address bytes).value.2.2 (address + UInt16.ofNat i) =
        .ok bytes[i] := by
  induction bytes generalizing memory host address i with
  | nil => exact absurd hi (by simp)
  | cons value rest ih =>
    rw [List.length_cons] at hi hlength
    rw [value_storeBlock_cons] at hok ⊢
    cases hfault : memory.storeFault? host address with
    | none =>
      rw [hfault] at hok
      have hput := workingOnly_put memory host address value
      have hplain' := hput.working.plain hplain
      have hanchored' := anchored_put hanchored address value
      cases i with
      | zero =>
        simp only [show address + UInt16.ofNat 0 = address by simp] at hroute ⊢
        -- The rest of the block cannot come back to this address without wrapping around.
        have houtside : ∀ j < rest.length, address ≠ address + 1 + UInt16.ofNat j := by
          intro j hj heq
          rw [add_one_add_ofNat] at heq
          have hzero : address + UInt16.ofNat 0 = address + UInt16.ofNat (j + 1) := by
            simpa using heq
          have hj' := add_ofNat_injective address (by omega) (by omega) hzero
          omega
        exact fetch_storeBlock_of_outside hplain' hanchored' ((hput.route _).trans hroute)
          houtside (fetch_put_self hplain hanchored hreadable hroute hfault)
      | succ i =>
        simp only [← add_one_add_ofNat] at hroute ⊢
        have hreadable' := readable_put hreadable address value
        exact ih hplain' hanchored' hreadable' (by omega) hok (by omega)
          ((hput.route _).trans hroute)
    | some fault => simp [hfault] at hok

/-! ## Storage that takes every byte -/

/-- The device behind no address refuses a byte. -/
def TakesAll (memory : Memory) (host : Host) : Prop :=
  ∀ address, memory.storeFault? host address = none

theorem takesAll_of_working
    (h : ∀ offset < addressSpace, memory.working.storeFault? host offset = none) :
    memory.TakesAll host := by
  intro address
  unfold storeFault?
  split
  · rename_i offset hroute
    obtain ⟨-, -, rfl⟩ := route_eq_working_iff.1 hroute
    have hlt := address.toNat_lt
    exact h _ (Nat.lt_of_le_of_lt (Nat.sub_le _ _) hlt)
  · rfl

/-- A file takes bytes at every offset that has an address, unless the host refuses them. -/
theorem takesAll_of_file {file : Nat} (h : memory.working.file? = some file)
    (hwritable : ∀ offset, host.refusal? (.regular file) (.write offset 1) = none) :
    memory.TakesAll host := by
  obtain ⟨path, size, hworking⟩ := Store.exists_of_file? h
  apply takesAll_of_working
  intro offset hoffset
  have hmax : addressSpace ≤ Host.offsetLimit := by decide
  rw [hworking, Store.storeFault?, Host.writeFault?, if_neg (by omega), hwritable]

theorem TakesAll.of_sameDevices (h : memory.TakesAll host) (hdevices : SameDevices memory after)
    {other : Host}
    (hrefusal : ∀ node access, other.refusal? node access = host.refusal? node access) :
    after.TakesAll other := by
  intro address
  rw [hdevices.storeFault? hrefusal]
  exact h address

/-- The bytes of a block, each with its address. -/
def placed (address : UInt16) : List UInt8 → List (UInt16 × UInt8)
  | [] => []
  | value :: rest => (address, value) :: placed (address + 1) rest

/-- Puts bytes at their addresses, one after the other. -/
def putAll (memory : Memory) (host : Host) : List (UInt16 × UInt8) → Memory × Host
  | [] => (memory, host)
  | (address, value) :: rest =>
    (memory.put host address value).1.putAll (memory.put host address value).2 rest

/-- Where nothing is refused, a block is stored to its end. -/
theorem TakesAll.value_storeBlock (h : memory.TakesAll host) (address : UInt16)
    (bytes : List UInt8) :
    (memory.storeBlock host address bytes).value =
      (.ok (), memory.putAll host (placed address bytes)) := by
  induction bytes generalizing memory host address with
  | nil => rfl
  | cons value rest ih =>
    rw [value_storeBlock_cons, h address]
    exact ih (h.of_sameDevices (workingOnly_put memory host address value).sameDevices
      (agree_put memory host address value).refusal?) _

/-! ## Program images -/

theorem value_loadProgram_of_fits {image : List UInt8} (h : image.length ≤ memory.programSize) :
    (memory.loadProgram host image).2 =
      (memory.withProgram (memory.program.storeAll host 0 image).2.1 (Store.size_storeAll ..),
        (memory.program.storeAll host 0 image).2.2) := by
  rw [loadProgram, sizeRefusal?, if_neg (Nat.not_lt.2 h)]
  rfl

theorem loadProgram_of_too_large {image : List UInt8} (h : memory.programSize < image.length) :
    memory.loadProgram host image =
      (.error (.programTooLarge image.length memory.programSize), memory, host) := by
  unfold loadProgram
  rw [sizeRefusal?, if_pos h]

theorem sameDevices_loadProgram (memory : Memory) (host : Host) (image : List UInt8) :
    SameDevices memory (memory.loadProgram host image).2.1 := by
  rcases Nat.lt_or_ge memory.programSize image.length with h | h
  · rw [loadProgram_of_too_large h]
  · rw [value_loadProgram_of_fits h]
    exact ⟨Store.sameDevice_storeAll _ _ _ _, Store.SameDevice.refl _, rfl⟩

/-- Loading a program touches the file behind program storage. -/
theorem agree_loadProgram (memory : Memory) (host : Host) (image : List UInt8) :
    Host.Agree (fun index => memory.program.file? = some index) host
      (memory.loadProgram host image).2.2 := by
  rcases Nat.lt_or_ge memory.programSize image.length with h | h
  · rw [loadProgram_of_too_large h]
  · rw [value_loadProgram_of_fits h]
    exact memory.program.agree_storeAll host 0 image

/-- An array takes every image that fits. -/
theorem exists_loadProgram_of_array {data : Content} (hprogram : memory.program = .array data)
    (host : Host) {image : List UInt8} (h : image.length ≤ data.length) :
    ∃ (filled : Content) (size_eq : (Store.array filled).size = memory.program.size),
      memory.loadProgram host image =
        (.ok (), memory.withProgram (.array filled) size_eq, host) ∧
      ∀ i < data.length, filled.byte i =
        if i < image.length then image.getD i 0 else data.byte i := by
  obtain ⟨filled, hfilled, hlength, hbyte⟩ := Store.exists_storeAll_array data host 0 image
    (by rw [Nat.zero_add]; exact h)
  have hsize : (Store.array filled).size = memory.program.size := by
    rw [hprogram]
    exact hlength
  have hfits : memory.sizeRefusal? image.length = none := by
    rw [sizeRefusal?, programSize_eq, hprogram]
    exact if_neg (Nat.not_lt.2 h)
  refine ⟨filled, hsize, ?_, ?_⟩
  · rw [loadProgram, hfits]
    refine Prod.ext ?_ (Prod.ext (eq_of_stores ?_ rfl rfl) ?_)
    all_goals simp [hprogram, hfilled, withProgram, Except.mapError]
  · intro i hi
    rw [hbyte i hi, Nat.zero_add, Nat.sub_zero]
    simp only [Nat.zero_le, true_and]

end Memory

end Backplane
