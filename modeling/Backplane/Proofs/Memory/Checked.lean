import Backplane.Proofs.Memory.Access

/-!
# Checked accesses

A store does not look at the offset that it is given, and an offset is a difference that nobody
looks at either.  Both rely on something that was looked at elsewhere: an address is classified
before it becomes an offset, and an image is measured before its first byte is stored.

*Checked* computations look at everything where it happens.  They stop with a `Breach` at a store
that is called with an offset not below its size, at a difference below zero, at a store that is no
longer as long as the layout has it, and at an address past the top that was not meant to wrap.  For
each access there is one that takes the same steps, from the region of the address and the sizes of
the stores alone, and it comes to the value that the access has, in every memory: no check ever
stops it.

## Sizes

The layout fixes two borders when the memory is made, and offsets are differences from them.  A
store that had become shorter since would be called with offsets past its end.  None does, since
storing a byte keeps the size of a store (`Store.size_put`).  The checked accesses look at that too:
each time a store is put back into the memory, its size is compared with the one before.
-/

namespace Backplane

/-- What must never happen.  Each breach carries the numbers that were found, so that a check says
what it has looked at. -/
inductive Breach where
  /-- A store is called with an offset that is not below its size. -/
  | outside (offset size : Nat)
  /-- A difference goes below zero. -/
  | belowZero (value taken : Nat)
  /-- A store has changed its size after it was laid out. -/
  | resized (before after : Nat)
  /-- An address runs past the top of the address space. -/
  | beyondTop (address : UInt16) (distance : Nat)
deriving DecidableEq, Repr

/-- A computation that stops where something happens that must not. -/
abbrev Checked (α : Type) := Except Breach α

namespace Checked

/-- A difference that must not go below zero. -/
def minus (value taken : Nat) : Checked Nat :=
  if taken ≤ value then .ok (value - taken) else .error (.belowZero value taken)

/-- A store that must be as long as before. -/
def resized (before after : Store) : Checked (PLift (after.size = before.size)) :=
  if h : after.size = before.size then .ok ⟨h⟩ else .error (.resized before.size after.size)

/-- An address that must not run past the top. -/
def plus (address : UInt16) (distance : Nat) : Checked UInt16 :=
  if address.toNat + distance < addressSpace then .ok (address + UInt16.ofNat distance)
  else .error (.beyondTop address distance)

@[simp]
theorem ok_bind {α β : Type} (value : α) (next : α → Checked β) :
    ((.ok value : Checked α) >>= next) = next value := rfl

theorem minus_of_le {value taken : Nat} (h : taken ≤ value) :
    minus value taken = .ok (value - taken) :=
  if_pos h

theorem resized_of_eq {before after : Store} (h : after.size = before.size) :
    resized before after = .ok ⟨h⟩ :=
  dif_pos h

theorem plus_of_lt {address : UInt16} {distance : Nat}
    (h : address.toNat + distance < addressSpace) :
    plus address distance = .ok (address + UInt16.ofNat distance) :=
  if_pos h

end Checked

/-! ## Stores -/

namespace Store

variable {store : Store} {offset : Nat}

/-- Loads a byte at an offset that must be below the size. -/
def checkedLoad (store : Store) (host : Host) (offset : Nat) : Checked (Except Fault UInt8) :=
  if offset < store.size then .ok (store.load host offset)
  else .error (.outside offset store.size)

/-- Stores a byte at an offset that must be below the size. -/
def checkedStore (store : Store) (host : Host) (offset : Nat) (value : UInt8) :
    Checked (Except Fault Unit × Store × Host) :=
  if offset < store.size then .ok (store.store host offset value)
  else .error (.outside offset store.size)

/-- Stores consecutive bytes, each at an offset that must be below the size, and stops at the first
that is refused. -/
def checkedStoreAll (store : Store) (host : Host) (offset : Nat) :
    List UInt8 → Checked (Except Fault Unit × Store × Host)
  | [] => .ok (.ok (), store, host)
  | value :: rest => do
    match ← store.checkedStore host offset value with
    | (.error fault, store, host) => .ok (.error fault, store, host)
    | (.ok (), store, host) => store.checkedStoreAll host (offset + 1) rest

theorem checkedLoad_of_lt (h : offset < store.size) (host : Host) :
    store.checkedLoad host offset = .ok (store.load host offset) :=
  if_pos h

/-- An offset at the size is the first that is stopped. -/
example : (zeroed 2).checkedLoad {} 2 = .error (.outside 2 2) := rfl

theorem checkedStore_of_lt (h : offset < store.size) (host : Host) (value : UInt8) :
    store.checkedStore host offset value = .ok (store.store host offset value) :=
  if_pos h

/-- Bytes that fit behind an offset are all stored within the store. -/
theorem checkedStoreAll_of_le {bytes : List UInt8} (h : offset + bytes.length ≤ store.size)
    (host : Host) :
    store.checkedStoreAll host offset bytes = .ok (store.storeAll host offset bytes) := by
  induction bytes generalizing store host offset with
  | nil => rfl
  | cons value rest ih =>
    rw [List.length_cons] at h
    have hrest : offset + 1 + rest.length ≤ (store.put host offset value).1.size := by
      rw [size_put]
      omega
    rw [checkedStoreAll, checkedStore_of_lt (by omega), Checked.ok_bind, Store.store, storeAll]
    cases store.storeFault? host offset with
    | some fault => rfl
    | none => exact ih hrest _

end Store

/-! ## Single accesses -/

namespace Memory

/-- Loads a byte for a disk transfer, by the region of its address. -/
def checkedLoad (memory : Memory) (host : Host) (address : UInt16) :
    Checked (Except Fault UInt8) :=
  match memory.region address with
  | .program => do
    let offset ← Checked.minus address.toNat programStart
    memory.program.checkedLoad host offset
  | .working => do
    let offset ← Checked.minus address.toNat memory.workingStart
    memory.working.checkedLoad host offset
  | .reserved | .unmapped => .ok (.ok floatingBus)

/-- Stores a byte for a disk transfer, by the region of its address. -/
def checkedStore (memory : Memory) (host : Host) (address : UInt16) (value : UInt8) :
    Checked (Except Fault Unit × Memory × Host) :=
  match memory.region address with
  | .working => do
    let offset ← Checked.minus address.toNat memory.workingStart
    let (result, working, host) ← memory.working.checkedStore host offset value
    let ⟨size_eq⟩ ← Checked.resized memory.working working
    .ok (result, memory.withWorking working size_eq, host)
  | .program | .reserved | .unmapped => .ok (.ok (), memory, host)

/-- A read cycle on the bus. -/
def checkedRead (memory : Memory) (host : Host) (address : UInt16) : Checked UInt8 := do
  match ← memory.checkedLoad host address with
  | .ok value => .ok value
  | .error _ => .ok floatingBus

/-- A write cycle on the bus. -/
def checkedWrite (memory : Memory) (host : Host) (address : UInt16) (value : UInt8) :
    Checked (Memory × Host) := do
  let (_, memory, host) ← memory.checkedStore host address value
  .ok (memory, host)

variable (memory : Memory) (host : Host) (address : UInt16) (value : UInt8)

/-- Every address of a store leads to an offset within it, and none lies before its store. -/
@[simp]
theorem checkedLoad_eq_ok :
    memory.checkedLoad host address = .ok (memory.load host address).value := by
  rw [value_load, fetch, checkedLoad, region]
  cases hroute : memory.route address with
  | program offset =>
    have hlt := lt_of_route_program hroute
    obtain ⟨-, rfl⟩ := route_eq_program_iff.1 hroute
    simp only [Route.region, Checked.minus_of_le (Nat.zero_le _), programStart, Nat.sub_zero,
      Checked.ok_bind]
    exact Store.checkedLoad_of_lt hlt host
  | working offset =>
    have hlt := lt_of_route_working hroute
    obtain ⟨hle, -, rfl⟩ := route_eq_working_iff.1 hroute
    simp only [Route.region, workingStart_eq_programSize, Checked.minus_of_le hle, Checked.ok_bind]
    exact Store.checkedLoad_of_lt hlt host
  | reserved => rfl
  | unmapped => rfl

@[simp]
theorem checkedStore_eq_ok :
    memory.checkedStore host address value = .ok (memory.store host address value).value := by
  rw [value_store, storeFault?, put, checkedStore, region]
  cases hroute : memory.route address with
  | working offset =>
    have hlt := lt_of_route_working hroute
    obtain ⟨hle, -, rfl⟩ := route_eq_working_iff.1 hroute
    simp only [Route.region, workingStart_eq_programSize, Checked.minus_of_le hle, Checked.ok_bind,
      Store.checkedStore_of_lt hlt, Store.store]
    cases memory.working.storeFault? host (address.toNat - memory.programSize) with
    | some fault =>
      dsimp only
      rw [Checked.resized_of_eq rfl]
      rfl
    | none =>
      dsimp only
      rw [Checked.resized_of_eq (Store.size_put ..)]
      rfl
  | _ => rfl

@[simp]
theorem checkedRead_eq_ok :
    memory.checkedRead host address = .ok (memory.read host address).value := by
  rw [checkedRead, checkedLoad_eq_ok, value_load, value_read, Checked.ok_bind]
  cases memory.fetch host address <;> rfl

@[simp]
theorem checkedWrite_eq_ok :
    memory.checkedWrite host address value = .ok (memory.write host address value).value := by
  rw [checkedWrite, checkedStore_eq_ok, value_store, value_write, Checked.ok_bind]
  cases memory.storeFault? host address <;> rfl

/-! ## Several bytes at once -/

/-- Loads bytes for a disk transfer at the addresses of the given positions. -/
def checkedLoadBlock (memory : Memory) (host : Host) (addressOf : Nat → Checked UInt16)
    (position : Nat) : (count : Nat) → Checked (Except (UInt16 × Fault) (List UInt8))
  | 0 => .ok (.ok [])
  | count + 1 => do
    let address ← addressOf position
    match ← memory.checkedLoad host address with
    | .error fault => .ok (.error (address, fault))
    | .ok value =>
      match ← memory.checkedLoadBlock host addressOf (position + 1) count with
      | .error failure => .ok (.error failure)
      | .ok rest => .ok (.ok (value :: rest))

/-- Stores bytes for a disk transfer at the addresses of the given positions. -/
def checkedStoreBlock (memory : Memory) (host : Host) (addressOf : Nat → Checked UInt16)
    (position : Nat) : List UInt8 → Checked (Except (UInt16 × Fault) Unit × Memory × Host)
  | [] => .ok (.ok (), memory, host)
  | value :: rest => do
    let address ← addressOf position
    match ← memory.checkedStore host address value with
    | (.error fault, memory, host) => .ok (.error (address, fault), memory, host)
    | (.ok (), memory, host) => memory.checkedStoreBlock host addressOf (position + 1) rest

/-- Fills program storage from its start with an image that is not too long. -/
def checkedLoadProgram (memory : Memory) (host : Host) (image : List UInt8) :
    Checked (Except MachineError Unit × Memory × Host) :=
  match memory.sizeRefusal? image.length with
  | some refusal => .ok (.error refusal, memory, host)
  | none => do
    let (result, program, host) ← memory.program.checkedStoreAll host 0 image
    let ⟨size_eq⟩ ← Checked.resized memory.program program
    .ok (result.mapError .io, memory.withProgram program size_eq, host)

/-- The addresses of so many positions can be taken, and they are consecutive from `start` on.
Those of a descriptor may wrap and can always be taken; those of a window can if it does not run
past the top. -/
def Consecutive (addressOf : Nat → Checked UInt16) (position : Nat) (start : UInt16)
    (count : Nat) : Prop :=
  ∀ i < count, addressOf (position + i) = .ok (start + UInt16.ofNat i)

variable {addressOf : Nat → Checked UInt16} {position count : Nat} {start : UInt16}

theorem Consecutive.head (h : Consecutive addressOf position start (count + 1)) :
    addressOf position = .ok start := by
  have hfirst := h 0 (Nat.succ_pos count)
  have hstart : start + UInt16.ofNat 0 = start := UInt16.add_zero start
  rwa [Nat.add_zero, hstart] at hfirst

theorem Consecutive.tail (h : Consecutive addressOf position start (count + 1)) :
    Consecutive addressOf (position + 1) (start + 1) count := by
  intro i hi
  rw [add_one_add_ofNat, Nat.add_assoc, Nat.add_comm 1]
  exact h (i + 1) (Nat.succ_lt_succ hi)

/-- A block is loaded if the address of each of its positions can be taken. -/
theorem checkedLoadBlock_eq_ok (h : Consecutive addressOf position start count) :
    memory.checkedLoadBlock host addressOf position count =
      .ok (memory.loadBlock host start count).value := by
  induction count generalizing position start with
  | zero => rfl
  | succ count ih =>
    rw [checkedLoadBlock, h.head, Checked.ok_bind, checkedLoad_eq_ok, value_load,
      Checked.ok_bind, value_loadBlock_succ]
    cases memory.fetch host start with
    | error fault => rfl
    | ok value =>
      simp only [ih h.tail, Checked.ok_bind]
      cases (memory.loadBlock host (start + 1) count).value <;> rfl

theorem checkedStoreBlock_eq_ok {bytes : List UInt8}
    (h : Consecutive addressOf position start bytes.length) :
    memory.checkedStoreBlock host addressOf position bytes =
      .ok (memory.storeBlock host start bytes).value := by
  induction bytes generalizing memory host position start with
  | nil => rfl
  | cons value rest ih =>
    rw [List.length_cons] at h
    rw [checkedStoreBlock, h.head, Checked.ok_bind, checkedStore_eq_ok, value_store,
      Checked.ok_bind, value_storeBlock_cons]
    cases memory.storeFault? host start with
    | some fault => rfl
    | none => exact ih _ _ h.tail

/-- An image is measured before its first byte is stored. -/
@[simp]
theorem checkedLoadProgram_eq_ok (image : List UInt8) :
    memory.checkedLoadProgram host image = .ok (memory.loadProgram host image) := by
  rw [checkedLoadProgram, loadProgram]
  cases hrefusal : memory.sizeRefusal? image.length with
  | some refusal => rfl
  | none =>
    have hfits : image.length ≤ memory.programSize := by
      rw [sizeRefusal?] at hrefusal
      split at hrefusal
      · exact absurd hrefusal (by simp)
      · omega
    have hbytes : 0 + image.length ≤ memory.program.size := by
      rwa [Nat.zero_add, ← programSize_eq]
    rw [Store.checkedStoreAll_of_le hbytes, Checked.ok_bind]
    dsimp only
    rw [Checked.resized_of_eq (Store.size_storeAll ..)]
    rfl

end Memory

end Backplane
