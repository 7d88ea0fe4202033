import Backplane.Store

/-!
# The address space

The processor sees 2^16 addresses.  From the bottom they hold program storage, which the bus can
only read, and working storage, which it can read and write.  The top page can be reserved for
tools outside the machine.  All other addresses, the reserved page among them, have nothing
behind them: they read as a floating bus, and what is written there is lost.

There are two ways in.  On the bus (`read`, `write`) nothing ever fails: a device that refuses an
access is logged and reads as a floating bus.  For a disk transfer (`load`, `store`) the same
access reports the refusal, because the disk controller has a status to put it in.  Both go
through `route`, which is the only place that decides where an address leads.

## Borders

The layout keeps two addresses, where working storage starts and where it ends, and every access
compares with them and subtracts them.  The sizes of the stores are not looked at again.  So a
memory carries the proofs that the borders are those of its stores and that storage ends within the
limit, and it can be made only from two stores that fit (`ofStores`) or by putting back a store of
the same size (`withWorking`, `withProgram`).

The sizes are 64-bit words.  `layOut` adds them before it compares, and sizes whose sum is no such
word are a panic and not a refusal.
-/

namespace Backplane

/-- What the bus carries when nothing drives it. -/
def floatingBus : UInt8 := 0xFF

/-- The number of addresses. -/
def addressSpace : Nat := 0x10000

/-- The first address of the page that can be reserved. -/
def reservedPageStart : Nat := 0xFF00

/-- The addresses that storage can take up. -/
def storageLimit (reservedPage : Bool) : Nat :=
  if reservedPage then reservedPageStart else addressSpace

/-- The access policy of an address. -/
inductive Region where
  /-- Read-only on the bus. -/
  | program
  /-- Read and written. -/
  | working
  /-- The page kept for outside tools. -/
  | reserved
  /-- Beyond the storage. -/
  | unmapped
deriving DecidableEq, Repr

/-- Where an address leads: to an offset in one of the stores, or nowhere. -/
inductive Route where
  | program (offset : Nat)
  | working (offset : Nat)
  | reserved
  | unmapped
deriving DecidableEq, Repr

/-- The policy that goes with a route. -/
def Route.region : Route → Region
  | .program _ => .program
  | .working _ => .working
  | .reserved => .reserved
  | .unmapped => .unmapped

/-- Where program storage starts. -/
def programStart : Nat := 0

/-- Storage laid out in the address space: program storage at the bottom, working storage directly
above it, and both below the limit.  The two addresses where a store ends are kept, and every access
is routed by them. -/
structure Memory where
  /-- The store at the bottom. -/
  program : Store
  /-- The store directly above it. -/
  working : Store
  /-- The first address of working storage. -/
  workingStart : Nat
  /-- The first address behind working storage. -/
  workingEnd : Nat
  /-- Whether the top page is reserved. -/
  reservedPage : Bool
  workingStart_eq : workingStart = programStart + program.size
  workingEnd_eq : workingEnd = workingStart + working.size
  workingEnd_le : workingEnd ≤ storageLimit reservedPage

namespace Memory

/-! ## Layout -/

/-- The number of 64-bit words, which is the least number that is none. -/
def wordLimit : Nat := 0x10000000000000000

/-- Two stores that fit, laid out.  The proof that they fit is found by computing where the stores
are given in full. -/
def ofStores (program working : Store) (reservedPage : Bool)
    (fits : program.size + working.size ≤ storageLimit reservedPage := by decide) : Memory where
  program
  working
  workingStart := programStart + program.size
  workingEnd := programStart + program.size + working.size
  reservedPage
  workingStart_eq := rfl
  workingEnd_eq := rfl
  workingEnd_le := by rwa [programStart, Nat.zero_add]

/-- The wording for storage that does not fit. -/
def overflowReason (storageEnd limit : Nat) : String :=
  s!"{Hex.size storageEnd} bytes of program and working storage exceed " ++
    s!"the {Hex.size limit} available"

/-- Lays out two stores, if they end within the limit.  Where they end is a sum of sizes, and sizes
that add up to no 64-bit word cannot be compared with the limit. -/
def layOut (program working : Store) (reservedPage : Bool) : Except BuildFailure Memory :=
  let workingStart := programStart + program.size
  let workingEnd := workingStart + working.size
  if wordLimit ≤ workingEnd then .error (.panicked .sumOverflow)
  else if fits : workingEnd ≤ storageLimit reservedPage then
    .ok ⟨program, working, workingStart, workingEnd, reservedPage, rfl, rfl, fits⟩
  else
    .error (.refused (.invalidLayout (overflowReason workingEnd (storageLimit reservedPage))))

/-- The bytes of program storage. -/
def programSize (memory : Memory) : Nat := memory.workingStart - programStart

/-- The bytes of working storage. -/
def workingSize (memory : Memory) : Nat := memory.workingEnd - memory.workingStart

/-- Where an address leads. -/
def route (memory : Memory) (address : UInt16) : Route :=
  if address.toNat < memory.workingStart then .program (address.toNat - programStart)
  else if address.toNat < memory.workingEnd then .working (address.toNat - memory.workingStart)
  else if memory.reservedPage ∧ reservedPageStart ≤ address.toNat then .reserved
  else .unmapped

/-- The policy of an address. -/
def region (memory : Memory) (address : UInt16) : Region := (memory.route address).region

/-- The same layout with another store of the same size for working storage. -/
def withWorking (memory : Memory) (working : Store)
    (size_eq : working.size = memory.working.size) : Memory :=
  { memory with working, workingEnd_eq := size_eq ▸ memory.workingEnd_eq }

/-- The same layout with another store of the same size for program storage. -/
def withProgram (memory : Memory) (program : Store)
    (size_eq : program.size = memory.program.size) : Memory :=
  { memory with program, workingStart_eq := size_eq ▸ memory.workingStart_eq }

section

variable (memory : Memory) (store : Store)

@[simp]
theorem program_withWorking (h : store.size = memory.working.size) :
    (memory.withWorking store h).program = memory.program := rfl

@[simp]
theorem working_withWorking (h : store.size = memory.working.size) :
    (memory.withWorking store h).working = store := rfl

@[simp]
theorem reservedPage_withWorking (h : store.size = memory.working.size) :
    (memory.withWorking store h).reservedPage = memory.reservedPage := rfl

@[simp]
theorem program_withProgram (h : store.size = memory.program.size) :
    (memory.withProgram store h).program = store := rfl

@[simp]
theorem working_withProgram (h : store.size = memory.program.size) :
    (memory.withProgram store h).working = memory.working := rfl

@[simp]
theorem reservedPage_withProgram (h : store.size = memory.program.size) :
    (memory.withProgram store h).reservedPage = memory.reservedPage := rfl

end

@[simp]
theorem programSize_eq (memory : Memory) : memory.programSize = memory.program.size := by
  rw [programSize, memory.workingStart_eq]
  exact Nat.add_sub_cancel_left _ _

@[simp]
theorem workingSize_eq (memory : Memory) : memory.workingSize = memory.working.size := by
  rw [workingSize, memory.workingEnd_eq]
  exact Nat.add_sub_cancel_left _ _

/-! ## Single accesses -/

/-- What an address holds, or why its device does not tell.  An address without a device holds what
the bus carries when nothing drives it. -/
def fetch (memory : Memory) (host : Host) (address : UInt16) : Except Fault UInt8 :=
  match memory.route address with
  | .program offset => memory.program.load host offset
  | .working offset => memory.working.load host offset
  | .reserved | .unmapped => .ok floatingBus

/-- Why the device behind an address refuses a byte, if it does.  Addresses without a device and
those of program storage refuse nothing: the byte is lost. -/
def storeFault? (memory : Memory) (host : Host) (address : UInt16) : Option Fault :=
  match memory.route address with
  | .working offset => memory.working.storeFault? host offset
  | _ => none

/-- Puts a byte at an address that does not refuse it. -/
def put (memory : Memory) (host : Host) (address : UInt16) (value : UInt8) : Memory × Host :=
  match memory.route address with
  | .working offset =>
    match memory with
    | ⟨program, working, workingStart, workingEnd, reservedPage, start, stop, fits⟩ =>
      let after := working.put host offset value
      (⟨program, after.1, workingStart, workingEnd, reservedPage, start,
        stop.trans (congrArg _ (working.size_put host offset value).symm), fits⟩, after.2)
  | _ => (memory, host)

/-- What loading from an address reports. -/
def loadEvents (memory : Memory) (address : UInt16) : List Event :=
  match memory.route address with
  | .reserved | .unmapped => [.unmappedRead address]
  | _ => []

/-- What storing at an address reports. -/
def storeEvents (memory : Memory) (address : UInt16) : List Event :=
  match memory.route address with
  | .working _ => []
  | .program _ => [.programWriteIgnored address]
  | .reserved | .unmapped => [.unmappedWriteIgnored address]

/-- Loads a byte for a disk transfer. -/
def load (memory : Memory) (host : Host) (address : UInt16) : Logged (Except Fault UInt8) :=
  ⟨memory.fetch host address, memory.loadEvents address⟩

/-- Stores a byte for a disk transfer. -/
def store (memory : Memory) (host : Host) (address : UInt16) (value : UInt8) :
    Logged (Except Fault Unit × Memory × Host) :=
  let events := memory.storeEvents address
  match memory.storeFault? host address with
  | some fault => ⟨(.error fault, memory, host), events⟩
  | none => ⟨(.ok (), memory.put host address value), events⟩

/-- A read cycle on the bus.  It cannot fail: what a device refuses is reported, and the bus
floats. -/
def read (memory : Memory) (host : Host) (address : UInt16) : Logged UInt8 := do
  match ← memory.load host address with
  | .ok value => pure value
  | .error fault =>
    Logged.report (.readFailed address fault)
    pure floatingBus

/-- A write cycle on the bus.  It cannot fail either: a byte that a device refuses is lost, and that
is reported. -/
def write (memory : Memory) (host : Host) (address : UInt16) (value : UInt8) :
    Logged (Memory × Host) := do
  match ← memory.store host address value with
  | (.ok (), memory, host) => pure (memory, host)
  | (.error fault, memory, host) =>
    Logged.report (.writeFailed address fault)
    pure (memory, host)

/-! ## Several bytes at once -/

/-- Loads consecutive bytes for a disk transfer, wrapping at the top of the address space, and
stops at the first address that fails. -/
def loadBlock (memory : Memory) (host : Host) (address : UInt16) :
    (count : Nat) → Logged (Except (UInt16 × Fault) (List UInt8))
  | 0 => pure (.ok [])
  | count + 1 => do
    match ← memory.load host address with
    | .error fault => pure (.error (address, fault))
    | .ok value =>
      match ← memory.loadBlock host (address + 1) count with
      | .error failure => pure (.error failure)
      | .ok rest => pure (.ok (value :: rest))

/-- Stores consecutive bytes for a disk transfer and stops at the first address that fails.  What
was stored before it stays. -/
def storeBlock (memory : Memory) (host : Host) (address : UInt16) :
    List UInt8 → Logged (Except (UInt16 × Fault) Unit × Memory × Host)
  | [] => pure (.ok (), memory, host)
  | value :: rest => do
    match ← memory.store host address value with
    | (.error fault, memory, host) => pure (.error (address, fault), memory, host)
    | (.ok (), memory, host) => memory.storeBlock host (address + 1) rest

/-- Why a program image of a length is refused, if it is. -/
def sizeRefusal? (memory : Memory) (length : Nat) : Option MachineError :=
  if memory.programSize < length then some (.programTooLarge length memory.programSize) else none

/-- Fills program storage from its start with an image, past the write protection.  What lies
behind a short image stays, and an image that is too long changes nothing. -/
def loadProgram (memory : Memory) (host : Host) (image : List UInt8) :
    Except MachineError Unit × Memory × Host :=
  match memory.sizeRefusal? image.length with
  | some refusal => (.error refusal, memory, host)
  | none =>
    match memory with
    | ⟨program, working, workingStart, workingEnd, reservedPage, start, stop, fits⟩ =>
      let after := program.storeAll host 0 image
      (after.1.mapError .io,
        ⟨after.2.1, working, workingStart, workingEnd, reservedPage,
          start.trans (congrArg _ (program.size_storeAll host 0 image).symm), stop, fits⟩,
        after.2.2)

end Memory

end Backplane
