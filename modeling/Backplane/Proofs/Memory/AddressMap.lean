import Backplane.Proofs.Memory.Access

/-!
# One map of addresses

Whatever is done to a memory, it reads as one map from addresses to bytes: each address holds the
byte that was last put there, or else the byte that was there at first.  `fetch_run` says so for
any sequence of accesses, and the rest of the file is the one-step lemma it is an induction over.

What an access puts at an address is `Access.leaves?`.  It is computed from the layout and from the
cells that refuse bytes.  Both stay what they were, since the stores are the same devices
throughout (`SameDevices`) and no access changes what the host refuses (`refusal?_perform`).  So it
can be computed once, from the memory at the start: a history of accesses determines the map
without running it.

* On the bus, and byte by byte for a disk transfer, an address of working storage takes a byte
  unless its cell refuses it.  A transfer stops at the first refusal.
* A program image fills program storage from its start and also stops at the first refusal.
* Everything else takes nothing.

A cell that cannot be loaded stays one that cannot be loaded, and on the bus it floats.

## Hypotheses

`Ready` collects what the stores are promised to be: both are as opening leaves them, and they do
not keep their bytes in the same file.  Nothing checks the latter, and `write_shows_elsewhere`
shows that without it a byte written at one address can show at another.

## One step and many

`fetch_perform` says for one access what it does to what is fetched at any address, and
`ready_perform` that the memory is as well prepared afterwards as before.  The run is an induction
over the accesses with these two, and `IsMap` is read off the result: each of its fields is about
the memory that the run has reached, on which one more access is made.
-/

namespace Backplane

namespace Memory

variable {memory after : Memory} {host : Host} {address : UInt16} {value : UInt8}

/-! ## Accesses and their runs -/

/-- One access to a memory. -/
inductive Access where
  /-- A read cycle on the bus. -/
  | read (address : UInt16)
  /-- A write cycle on the bus. -/
  | write (address : UInt16) (value : UInt8)
  /-- A byte loaded for a disk transfer. -/
  | load (address : UInt16)
  /-- A byte stored for a disk transfer. -/
  | store (address : UInt16) (value : UInt8)
  /-- All bytes that a disk transfer stores, as far as it gets. -/
  | storeBlock (address : UInt16) (bytes : List UInt8)
  /-- A program image loaded into program storage. -/
  | loadProgram (image : List UInt8)

/-- The memory and the host after an access. -/
def Access.perform (memory : Memory) (host : Host) : Access → Memory × Host
  | .read _ | .load _ => (memory, host)
  | .write address value => (memory.write host address value).value
  | .store address value => (memory.store host address value).value.2
  | .storeBlock address bytes => (memory.storeBlock host address bytes).value.2
  | .loadProgram image => (memory.loadProgram host image).2

/-- The memory and the host after accesses in a row. -/
def run (memory : Memory) (host : Host) : List Access → Memory × Host
  | [] => (memory, host)
  | access :: rest => (access.perform memory host).1.run (access.perform memory host).2 rest

/-! ## What an access leaves behind -/

/-- The bytes that are stored from an address on before one is refused, with their addresses. -/
def accepted (memory : Memory) (host : Host) (address : UInt16) :
    List UInt8 → List (UInt16 × UInt8)
  | [] => []
  | value :: rest =>
    if (memory.storeFault? host address).isSome then []
    else (address, value) :: memory.accepted host (address + 1) rest

/-- The bytes that an access stores, in order, with their addresses. -/
def Access.stored (memory : Memory) (host : Host) : Access → List (UInt16 × UInt8)
  | .write address value | .store address value => memory.accepted host address [value]
  | .storeBlock address bytes => memory.accepted host address bytes
  | .read _ | .load _ | .loadProgram _ => []

/-- The byte that an access loads into an offset of program storage. -/
def Access.loaded? (memory : Memory) (host : Host) (offset : Nat) : Access → Option UInt8
  | .loadProgram image =>
    if image.length ≤ memory.programSize ∧ offset < memory.program.taken host 0 image.length
    then image[offset]? else none
  | _ => none

/-- The byte that an access leaves at an address, if it leaves one there.  A block can meet an
address twice only if it is longer than the address space, and then the last byte counts. -/
def Access.leaves? (memory : Memory) (host : Host) (address : UInt16) (access : Access) :
    Option UInt8 :=
  match memory.route address with
  | .program offset => access.loaded? memory host offset
  | .working _ => (access.stored memory host).reverse.lookup address
  | .reserved | .unmapped => none

/-- The byte that was left last at an address, if one was left there. -/
def last? (memory : Memory) (host : Host) (accesses : List Access) (address : UInt16) :
    Option UInt8 :=
  accesses.reverse.findSome? (Access.leaves? memory host address)

variable {other : Host}

theorem SameDevices.accepted (h : SameDevices memory after)
    (hrefusal : ∀ node access, other.refusal? node access = host.refusal? node access)
    (address : UInt16) (bytes : List UInt8) :
    after.accepted other address bytes = memory.accepted host address bytes := by
  induction bytes generalizing address with
  | nil => rfl
  | cons value rest ih => simp only [Memory.accepted, h.storeFault? hrefusal, ih]

/-- What an access leaves behind depends on the devices and not on their bytes. -/
theorem SameDevices.leaves? (h : SameDevices memory after)
    (hrefusal : ∀ node access, other.refusal? node access = host.refusal? node access)
    (address : UInt16) (access : Access) :
    access.leaves? after other address = access.leaves? memory host address := by
  have hstored : access.stored after other = access.stored memory host := by
    cases access <;> simp only [Access.stored, h.accepted hrefusal]
  have hloaded : ∀ offset, access.loaded? after other offset =
      access.loaded? memory host offset := by
    intro offset
    cases access with
    | loadProgram image =>
      rw [Access.loaded?, Access.loaded?, h.program.taken hrefusal, h.programSize]
    | _ => rfl
  simp only [Access.leaves?, h.route, hstored, hloaded]

/-! ## Stores that do not meet -/

/-- Both stores are as opening leaves them, and neither keeps its bytes in the other's file. -/
structure Ready (memory : Memory) (host : Host) : Prop where
  program : memory.program.Whole host
  working : memory.working.Whole host
  apart : ∀ index, memory.program.file? = some index → memory.working.file? ≠ some index

variable (value) in
/-- A put replaces the byte of its own address, if that is in working storage and can be loaded,
and no other. -/
theorem fetch_put (hready : memory.Ready host)
    (hfault : memory.storeFault? host address = none) (other : UInt16) :
    (memory.put host address value).1.fetch (memory.put host address value).2 other =
      (memory.fetch host other).map fun old =>
        if other = address ∧ memory.region other = .working then value else old := by
  by_cases h : ∃ offset, memory.route address = .working offset
  · -- The byte goes to a cell of working storage.
    obtain ⟨offset, hroute⟩ := h
    have hagree := memory.working.agree_put host offset value
    unfold fetch region
    rw [(workingOnly_put memory host address value).route, put_of_working hroute]
    cases hother : memory.route other with
    | program i =>
      -- Putting touches the file behind working storage, which program storage does not use.
      simp only [Route.region, reduceCtorEq, and_false, if_false, Store.map_keep]
      exact Store.load_of_agree hagree hready.apart i
    | working i =>
      -- Two addresses of working storage lead to one cell only if they are the same.
      rw [storeFault?_of_working hroute] at hfault
      have hput := Store.load_put value hready.working
        (lt_of_route_working hroute) hfault (lt_of_route_working hother)
      have hiff : i = offset ↔ other = address := by
        constructor
        · rintro rfl
          exact address_eq_of_route_working hroute hother
        · rintro rfl
          exact Route.working.inj (hother.symm.trans hroute)
      simpa only [Route.region, and_true, hiff, working_withWorking] using hput
    | reserved => simp only [Route.region, reduceCtorEq, and_false, if_false, Except.map]
    | unmapped => simp only [Route.region, reduceCtorEq, and_false, if_false, Except.map]
  · -- There is no cell for the byte.
    have hno : ¬ (other = address ∧ memory.region other = .working) := by
      rintro ⟨rfl, hworking⟩
      exact h (region_eq_working_iff.1 hworking)
    rw [put_of_not_working fun offset hroute => h ⟨offset, hroute⟩]
    simp only [hno, if_false, Store.map_keep]

theorem ready_put (hready : memory.Ready host) (address : UInt16) (value : UInt8) :
    (memory.put host address value).1.Ready (memory.put host address value).2 := by
  have hput := workingOnly_put memory host address value
  refine ⟨?_, ?_, ?_⟩
  · rw [hput.program]
    exact hready.program.of_agree (agree_put memory host address value) hready.apart
  · by_cases h : ∃ offset, memory.route address = .working offset
    · obtain ⟨offset, hroute⟩ := h
      rw [put_of_working hroute]
      exact Store.whole_put hready.working offset value
    · rw [put_of_not_working fun offset hroute => h ⟨offset, hroute⟩]
      exact hready.working
  · intro index hfile
    rw [hput.program] at hfile
    rw [hput.working.file?]
    exact hready.apart index hfile

/-! ## Blocks -/

theorem ready_storeBlock (hready : memory.Ready host) (address : UInt16) (bytes : List UInt8) :
    (memory.storeBlock host address bytes).value.2.1.Ready
      (memory.storeBlock host address bytes).value.2.2 := by
  induction bytes generalizing memory host address with
  | nil => exact hready
  | cons value rest ih =>
    rw [value_storeBlock_cons]
    split
    · exact hready
    · exact ih (ready_put hready address value) _

/-- After a block each address of working storage holds the last byte that was accepted for it. -/
theorem fetch_storeBlock_eq_map (hready : memory.Ready host) (address : UInt16)
    (bytes : List UInt8) (other : UInt16) :
    (memory.storeBlock host address bytes).value.2.1.fetch
        (memory.storeBlock host address bytes).value.2.2 other =
      (memory.fetch host other).map fun old =>
        if memory.region other = .working
        then ((memory.accepted host address bytes).reverse.lookup other).getD old else old := by
  induction bytes generalizing memory host address with
  | nil =>
    simp only [accepted, List.reverse_nil, List.lookup_nil, Option.getD_none, ite_self,
      Store.map_keep]
    rfl
  | cons value rest ih =>
    rw [value_storeBlock_cons, accepted]
    cases hfault : memory.storeFault? host address with
    | none =>
      -- The first byte is accepted, and counts as long as the rest has no later one for its
      -- address.
      have hput := workingOnly_put memory host address value
      have hrest := ih (ready_put hready address value) (address + 1)
      have hregion : (memory.put host address value).1.region other = memory.region other := by
        unfold region
        rw [hput.route]
      have hrefusal := (agree_put memory host address value).refusal?
      rw [fetch_put value hready hfault, hput.sameDevices.accepted hrefusal, hregion] at hrest
      simp only [hrest, Option.isSome_none, Bool.false_eq_true, if_false, List.reverse_cons,
        List.lookup_append]
      cases memory.fetch host other with
      | error failure => rfl
      | ok old =>
        simp only [Except.map]
        congr 1
        by_cases hworking : memory.region other = .working
        · simp only [hworking, and_true, if_true]
          cases (memory.accepted host (address + 1) rest).reverse.lookup other with
          | none =>
            by_cases heq : other = address
            · simp [heq]
            · simp [heq, List.lookup_cons, beq_false_of_ne heq]
          | some later => rfl
        · simp only [hworking, and_false, if_false]
    | some fault =>
      -- The first byte is refused, and none is accepted after it.
      simp only [Option.isSome_some, if_true, List.reverse_nil, List.lookup_nil,
        Option.getD_none, ite_self, Store.map_keep]

/-- A single access in working storage is a block of one byte. -/
theorem value_storeBlock_singleton (memory : Memory) (host : Host) (address : UInt16)
    (value : UInt8) :
    (memory.storeBlock host address [value]).value.2 = (memory.store host address value).value.2 ∧
      (memory.storeBlock host address [value]).value.2 =
        (memory.write host address value).value := by
  rw [value_storeBlock_cons, value_store, value_write]
  cases memory.storeFault? host address <;> exact ⟨rfl, rfl⟩

/-! ## Program images -/

theorem ready_loadProgram (hready : memory.Ready host) (image : List UInt8) :
    (memory.loadProgram host image).2.1.Ready (memory.loadProgram host image).2.2 := by
  rcases Nat.lt_or_ge memory.programSize image.length with h | h
  · rw [loadProgram_of_too_large h]
    exact hready
  · rw [value_loadProgram_of_fits h]
    have hagree := memory.program.agree_storeAll host 0 image
    refine ⟨Store.whole_storeAll hready.program 0 image, ?_, ?_⟩
    · apply hready.working.of_agree hagree
      intro index hfile hprogram
      exact hready.apart index hprogram hfile
    · intro index hfile
      have hdevice := memory.program.sameDevice_storeAll host 0 image
      exact hready.apart index (hdevice.file?.symm.trans hfile)

/-- A program image changes the cells of program storage that take its bytes, and nothing else. -/
theorem fetch_loadProgram (hready : memory.Ready host) (image : List UInt8)
    (address : UInt16) :
    (memory.loadProgram host image).2.1.fetch (memory.loadProgram host image).2.2 address =
      (memory.fetch host address).map
        ((Access.loadProgram image).leaves? memory host address).getD := by
  rcases Nat.lt_or_ge memory.programSize image.length with h | h
  · -- An image that is too long leaves nothing anywhere.
    have hnone : (Access.loadProgram image).leaves? memory host address = none := by
      unfold Access.leaves?
      split
      · exact if_neg fun hfits => absurd hfits.1 (by omega)
      all_goals rfl
    rw [loadProgram_of_too_large h, hnone]
    exact (Store.map_keep _).symm
  · -- An image that fits is stored cell by cell from the bottom.
    have hagree := memory.program.agree_storeAll host 0 image
    unfold fetch Access.leaves?
    rw [(sameDevices_loadProgram memory host image).route, value_loadProgram_of_fits h]
    cases hroute : memory.route address with
    | program i =>
      obtain ⟨hi, rfl⟩ := route_eq_program_iff.1 hroute
      rw [programSize_eq] at h hi
      have hfits : 0 + image.length ≤ memory.program.size := by
        rw [Nat.zero_add]
        exact h
      have hload := Store.load_storeAll hready.program hfits hi
      have htaken := memory.program.taken_le host 0 image.length
      simp only [program_withProgram, hload, Access.loaded?, programSize_eq, Nat.zero_le, true_and,
        Nat.zero_add, Nat.sub_zero, h]
      congr 1
      funext old
      by_cases hin : address.toNat < memory.program.taken host 0 image.length
      · rw [if_pos hin, if_pos hin, List.getD_eq_getElem?_getD,
          List.getElem?_eq_getElem (by omega), Option.getD_some, Option.getD_some]
      · rw [if_neg hin, if_neg hin]
        rfl
    | working i =>
      -- Loading touches the file behind program storage, which working storage does not use.
      have hout : ∀ index, memory.working.file? = some index →
          ¬ memory.program.file? = some index := fun index hfile hprogram =>
        hready.apart index hprogram hfile
      exact (Store.load_of_agree hagree hout i).trans (Store.map_keep _).symm
    | reserved => exact (Store.map_keep _).symm
    | unmapped => exact (Store.map_keep _).symm

/-! ## One access -/

theorem sameDevices_perform (access : Access) (memory : Memory) (host : Host) :
    SameDevices memory (access.perform memory host).1 := by
  cases access with
  | read address => exact SameDevices.refl _
  | load address => exact SameDevices.refl _
  | write address value => exact (workingOnly_write _ _ _ _).sameDevices
  | store address value =>
    rw [Access.perform, ← (value_storeBlock_singleton memory host address value).1]
    exact (workingOnly_storeBlock _ _ _ _).sameDevices
  | storeBlock address bytes => exact (workingOnly_storeBlock _ _ _ _).sameDevices
  | loadProgram image => exact sameDevices_loadProgram _ _ _

/-- No access changes what the host refuses. -/
theorem refusal?_perform (access : Access) (memory : Memory) (host : Host) (node : Node)
    (asked : FileAccess) :
    (access.perform memory host).2.refusal? node asked = host.refusal? node asked := by
  cases access with
  | read address => rfl
  | load address => rfl
  | write address value => exact (agree_write memory host address value).refusal? _ _
  | store address value =>
    rw [Access.perform, ← (value_storeBlock_singleton memory host address value).1]
    exact (agree_storeBlock memory host address [value]).refusal? _ _
  | storeBlock address bytes => exact (agree_storeBlock memory host address bytes).refusal? _ _
  | loadProgram image => exact (agree_loadProgram memory host image).refusal? _ _

theorem ready_perform (hready : memory.Ready host) (access : Access) :
    (access.perform memory host).1.Ready (access.perform memory host).2 := by
  cases access with
  | read address => exact hready
  | load address => exact hready
  | write address value =>
    rw [Access.perform, ← (value_storeBlock_singleton memory host address value).2]
    exact ready_storeBlock hready _ _
  | store address value =>
    rw [Access.perform, ← (value_storeBlock_singleton memory host address value).1]
    exact ready_storeBlock hready _ _
  | storeBlock address bytes => exact ready_storeBlock hready _ _
  | loadProgram image => exact ready_loadProgram hready _

/-- What is fetched after an access: what it left there, or else what was there. -/
theorem fetch_perform (hready : memory.Ready host) (access : Access) (address : UInt16) :
    (access.perform memory host).1.fetch (access.perform memory host).2 address =
      (memory.fetch host address).map (access.leaves? memory host address).getD := by
  -- A block leaves the last byte that was accepted for the address.
  have hblock : ∀ target bytes,
      (memory.storeBlock host target bytes).value.2.1.fetch
        (memory.storeBlock host target bytes).value.2.2 address =
      (memory.fetch host address).map
        ((Access.storeBlock target bytes).leaves? memory host address).getD := by
    intro target bytes
    rw [fetch_storeBlock_eq_map hready]
    congr 1
    funext old
    unfold region Access.leaves? Access.stored
    cases memory.route address <;> rfl
  cases access with
  | read target =>
    -- Loads and bus reads leave nothing.
    have hnone : (Access.read target).leaves? memory host address = none := by
      unfold Access.leaves?
      split <;> rfl
    rw [hnone]
    exact (Store.map_keep _).symm
  | load target =>
    have hnone : (Access.load target).leaves? memory host address = none := by
      unfold Access.leaves?
      split <;> rfl
    rw [hnone]
    exact (Store.map_keep _).symm
  | write target value =>
    -- A bus write is a block of one byte, and so is a byte that a transfer stores.
    rw [Access.perform, ← (value_storeBlock_singleton memory host target value).2]
    exact hblock target [value]
  | store target value =>
    rw [Access.perform, ← (value_storeBlock_singleton memory host target value).1]
    exact hblock target [value]
  | storeBlock target bytes => exact hblock target bytes
  | loadProgram image => exact fetch_loadProgram hready image address

/-! ## Accesses in a row -/

theorem sameDevices_run (accesses : List Access) (memory : Memory) (host : Host) :
    SameDevices memory (memory.run host accesses).1 := by
  induction accesses generalizing memory host with
  | nil => exact SameDevices.refl _
  | cons access rest ih => exact (sameDevices_perform access memory host).trans (ih _ _)

theorem refusal?_run (accesses : List Access) (memory : Memory) (host : Host) (node : Node)
    (asked : FileAccess) :
    (memory.run host accesses).2.refusal? node asked = host.refusal? node asked := by
  induction accesses generalizing memory host with
  | nil => rfl
  | cons access rest ih => exact (ih _ _).trans (refusal?_perform access memory host node asked)

theorem ready_run (hready : memory.Ready host) (accesses : List Access) :
    (memory.run host accesses).1.Ready (memory.run host accesses).2 := by
  induction accesses generalizing memory host with
  | nil => exact hready
  | cons access rest ih => exact ih (ready_perform hready access)

/-- What is left last by the first access and the rest of them. -/
theorem last?_cons (memory : Memory) (host : Host) (access : Access) (rest : List Access)
    (address : UInt16) :
    last? memory host (access :: rest) address =
      (last? memory host rest address).or (access.leaves? memory host address) := by
  rw [last?, List.reverse_cons, List.findSome?_append, last?]
  congr 1
  simp only [List.findSome?_cons, List.findSome?_nil]
  split <;> simp_all

theorem SameDevices.last? (h : SameDevices memory after)
    (hrefusal : ∀ node access, other.refusal? node access = host.refusal? node access)
    (accesses : List Access) (address : UInt16) :
    Memory.last? after other accesses address = Memory.last? memory host accesses address := by
  unfold Memory.last?
  congr 1
  funext access
  exact h.leaves? hrefusal address access

/-- Each address holds the byte that was left there last, or else the byte that was there at
first; one that could not be fetched at first never can be. -/
theorem fetch_run (hready : memory.Ready host) (accesses : List Access) (address : UInt16) :
    (memory.run host accesses).1.fetch (memory.run host accesses).2 address =
      (memory.fetch host address).map (last? memory host accesses address).getD := by
  induction accesses generalizing memory host with
  | nil => exact (Store.map_keep _).symm
  | cons access rest ih =>
    have hsame := sameDevices_perform access memory host
    have hrefusal := refusal?_perform access memory host
    rw [run, ih (ready_perform hready access), fetch_perform hready, hsame.last? hrefusal,
      last?_cons]
    cases memory.fetch host address with
    | error fault => rfl
    | ok initial => cases last? memory host rest address <;> rfl

/-! ## The map -/

/-- What the bus shows of a cell: the byte left there last, or else its first one, or nothing if
the cell cannot be loaded. -/
def shown (initial : Except Fault UInt8) (left : Option UInt8) : UInt8 :=
  match initial with
  | .ok value => left.getD value
  | .error _ => floatingBus

/-- The map from addresses to bytes after accesses in a row: program storage at the bottom,
working storage above it, and a floating bus everywhere else. -/
def mapped (memory : Memory) (host : Host) (accesses : List Access) (address : UInt16) : UInt8 :=
  if address.toNat < memory.programSize then
    shown (memory.program.load host address.toNat) (last? memory host accesses address)
  else if address.toNat < memory.programSize + memory.workingSize then
    shown (memory.working.load host (address.toNat - memory.programSize))
      (last? memory host accesses address)
  else floatingBus

/-- An address without storage is left nothing. -/
theorem last?_eq_none (h : memory.region address = .reserved ∨ memory.region address = .unmapped)
    (accesses : List Access) : last? memory host accesses address = none := by
  rw [last?, List.findSome?_eq_none_iff]
  intro access _
  unfold Access.leaves?
  unfold region at h
  cases hroute : memory.route address with
  | program i => simp [hroute, Route.region] at h
  | working i => simp [hroute, Route.region] at h
  | reserved => rfl
  | unmapped => rfl

/-- The map is what is fetched at first, with what was left since put over it. -/
theorem shown_fetch_eq_mapped (accesses : List Access) (address : UInt16) :
    shown (memory.fetch host address) (last? memory host accesses address) =
      mapped memory host accesses address := by
  unfold mapped
  by_cases hbelow : address.toNat < memory.programSize
  · rw [if_pos hbelow, fetch, route_eq_program_iff.2 ⟨hbelow, rfl⟩]
  · rw [if_neg hbelow]
    by_cases hin : address.toNat < memory.programSize + memory.workingSize
    · rw [if_pos hin, fetch, route_eq_working_iff.2 ⟨Nat.not_lt.1 hbelow, hin, rfl⟩]
    · have hnowhere := region_of_above (Nat.not_lt.1 hin)
      rw [if_neg hin, last?_eq_none hnowhere, fetch_of_nowhere hnowhere]
      rfl

/-- What holds of a memory that was laid out over two stores, after accesses in a row. -/
structure IsMap (memory : Memory) (host : Host) (accesses : List Access) (after : Memory)
    (hostAfter : Host) : Prop where
  /-- A read cycle shows the map. -/
  read : ∀ address, (after.read hostAfter address).value = mapped memory host accesses address
  /-- The reserved page floats. -/
  reserved : after.reservedPage = true → ∀ address : UInt16, reservedPageStart ≤ address.toNat →
    (after.read hostAfter address).value = floatingBus
  /-- A write cycle shows at no other address. -/
  write_elsewhere : ∀ address value other, other ≠ address →
    ((after.write hostAfter address value).value.1.read
      (after.write hostAfter address value).value.2 other).value =
        (after.read hostAfter other).value
  /-- Nor does a byte that a disk transfer stores. -/
  store_elsewhere : ∀ address value other, other ≠ address →
    ((after.store hostAfter address value).value.2.1.read
      (after.store hostAfter address value).value.2.2 other).value =
        (after.read hostAfter other).value
  /-- A refused byte changes nothing. -/
  refused : ∀ address value fault,
    (after.store hostAfter address value).value.1 = .error fault →
    (after.store hostAfter address value).value.2 = (after, hostAfter) ∧
      (after.write hostAfter address value).value = (after, hostAfter)
  /-- A transfer is told of exactly the failures that the bus absorbs on reading. -/
  load_error_iff : ∀ address fault,
    (after.load hostAfter address).value = .error fault ↔
      .readFailed address fault ∈ (after.read hostAfter address).events
  /-- And of exactly those that it absorbs on writing. -/
  store_error_iff : ∀ address value fault,
    (after.store hostAfter address value).value.1 = .error fault ↔
      .writeFailed address fault ∈ (after.write hostAfter address value).events

theorem mem_events_read_iff (memory : Memory) (host : Host) (address : UInt16) (fault : Fault) :
    (memory.load host address).value = .error fault ↔
      .readFailed address fault ∈ (memory.read host address).events := by
  have hload : .readFailed address fault ∉ memory.loadEvents address := by
    unfold loadEvents
    split <;> simp
  rw [read, Logged.events_bind, List.mem_append]
  simp only [load, hload, false_or]
  cases memory.fetch host address with
  | error failure => simp [eq_comm]
  | ok value => simp

theorem mem_events_write_iff (memory : Memory) (host : Host) (address : UInt16) (value : UInt8)
    (fault : Fault) :
    (memory.store host address value).value.1 = .error fault ↔
      .writeFailed address fault ∈ (memory.write host address value).events := by
  have hstore : .writeFailed address fault ∉ memory.storeEvents address := by
    unfold storeEvents
    split <;> simp
  rw [write, Logged.events_bind, List.mem_append, store]
  cases memory.storeFault? host address with
  | none => simp [hstore]
  | some failure => simp [hstore, eq_comm]

/-- A byte that is written shows at no other address. -/
theorem value_read_write_of_ne (hready : memory.Ready host) {other : UInt16}
    (hne : other ≠ address) (value : UInt8) :
    ((memory.write host address value).value.1.read
      (memory.write host address value).value.2 other).value = (memory.read host other).value := by
  rw [value_read, value_read, value_write]
  cases hfault : memory.storeFault? host address with
  | none =>
    have hput := fetch_put value hready hfault other
    simp only [hne, false_and, if_false] at hput
    simp only [hput]
    cases memory.fetch host other <;> rfl
  | some fault => rfl

/-- No storage reaches into the reserved page, so it floats. -/
theorem mapped_of_reserved (hreserved : memory.reservedPage = true)
    (haddress : reservedPageStart ≤ address.toNat) (accesses : List Access) :
    mapped memory host accesses address = floatingBus := by
  have hfits := memory.size_le
  rw [hreserved, storageLimit, if_pos rfl] at hfits
  unfold mapped
  rw [if_neg (by omega), if_neg (by omega)]

/-- A memory over two stores that do not share a file behaves as one map of addresses, after any
accesses in a row: an address holds the byte that was left there last, or else the one that was
there at first, the reserved page floats, and no byte shows at an address other than its own. -/
theorem isMap_run {program working : Store} {reserved : Bool}
    (hlayout : layOut program working reserved = .ok memory) (hprogram : program.Whole host)
    (hworking : working.Whole host)
    (happart : ∀ index, program.file? = some index → working.file? ≠ some index)
    (accesses : List Access) :
    IsMap memory host accesses (memory.run host accesses).1 (memory.run host accesses).2 := by
  obtain ⟨rfl, rfl, -⟩ := stores_of_layOut hlayout
  have hready : memory.Ready host := ⟨hprogram, hworking, happart⟩
  have hsame := sameDevices_run accesses memory host
  have hrun := ready_run hready accesses
  have hmapped (address : UInt16) :
      ((memory.run host accesses).1.read (memory.run host accesses).2 address).value =
        mapped memory host accesses address := by
    rw [value_read, fetch_run hready, ← shown_fetch_eq_mapped]
    cases memory.fetch host address <;> rfl
  generalize hreached : memory.run host accesses = reached at hsame hrun hmapped ⊢
  refine ⟨hmapped, ?_, ?_, ?_, ?_, mem_events_read_iff _ _, mem_events_write_iff _ _⟩
  · -- The reserved page: it is above both stores, whatever the accesses were.
    intro hreserved address haddress
    rw [hmapped]
    exact mapped_of_reserved (hsame.reservedPage ▸ hreserved) haddress accesses
  · -- A write cycle.
    intro address value other hne
    exact value_read_write_of_ne hrun hne value
  · -- A byte of a transfer ends up where a write cycle would put it.
    intro address value other hne
    obtain ⟨hstore, hwrite⟩ := value_storeBlock_singleton reached.1 reached.2 address value
    rw [← hstore, hwrite]
    exact value_read_write_of_ne hrun hne value
  · -- A refusal.
    intro address value fault hfault
    rw [value_store] at hfault ⊢
    rw [value_write]
    cases hrefuses : reached.1.storeFault? reached.2 address with
    | none => simp [hrefuses] at hfault
    | some failure => exact ⟨rfl, rfl⟩

/-- A working storage that cannot be loaded at one offset and refuses another. -/
def faultyMemory : Memory := .ofStores (.zeroed 4) (.faulty (.zeros 4) [(1, 2)] [(2, 3)]) true

theorem isMap_run_faulty :
    layOut (.zeroed 4) (.faulty (.zeros 4) [(1, 2)] [(2, 3)]) true = .ok faultyMemory ∧
      mapped faultyMemory {} [.loadProgram [9], .storeBlock 3 [5, 6, 7, 8]] 4 = 6 ∧
      IsMap faultyMemory {} [.loadProgram [9], .storeBlock 3 [5, 6, 7, 8]]
        (run faultyMemory {} [.loadProgram [9], .storeBlock 3 [5, 6, 7, 8]]).1
        (run faultyMemory {} [.loadProgram [9], .storeBlock 3 [5, 6, 7, 8]]).2 := by
  have hlayout : layOut (.zeroed 4) (.faulty (.zeros 4) [(1, 2)] [(2, 3)]) true =
      .ok faultyMemory := rfl
  have hprogram : (Store.zeroed 4).Whole {} := Store.whole_of_no_file rfl
  have hworking : (Store.faulty (.zeros 4) [(1, 2)] [(2, 3)]).Whole {} :=
    Store.whole_of_no_file rfl
  have happart : ∀ index, (Store.zeroed 4).file? = some index →
      (Store.faulty (.zeros 4) [(1, 2)] [(2, 3)]).file? ≠ some index := by
    intro index _
    simp [Store.file?]
  exact ⟨hlayout, by decide, isMap_run hlayout hprogram hworking happart _⟩

/-! ## Two stores in one file -/

/-- A host with one file of four zeros. -/
def oneFile : Host := { entries := [(["F"], .regular 0)], files := #[{ content := .zeros 4 }] }

/-- A store that keeps its bytes in that file. -/
def inOneFile : Store := .persistent (.regular 0) ⟨"F"⟩ 4

/-- Two stores in one file are laid out like any others, and then a byte that is written to working
storage shows in program storage.  The layout looks at nothing but the sizes of the stores. -/
theorem write_shows_elsewhere :
    layOut inOneFile inOneFile true = .ok (.ofStores inOneFile inOneFile true) ∧
      inOneFile.Whole oneFile ∧
      ¬ IsMap (.ofStores inOneFile inOneFile true) oneFile [] (.ofStores inOneFile inOneFile true)
        oneFile := by
  have hwhole : inOneFile.Whole oneFile := by
    constructor
    · intro index hfile
      obtain rfl := Option.some.inj hfile
      decide
    · intro index hfile
      obtain rfl := Option.some.inj hfile
      decide
  refine ⟨rfl, hwhole, ?_⟩
  intro hmap
  have hshows := hmap.write_elsewhere 4 7 0 (by decide)
  exact absurd hshows (by decide)

end Memory

end Backplane
