import Backplane.Dialog.Dump
import Backplane.Proofs.Disk.Checked

/-!
# Checked runs

All that uses a machine's stores is memory and the disk controller, on a host: a `Rig`.  A rig can
be asked for every access there is, on the bus and past it, for a byte to be written to the
controller, for a dump, and for disks to be put into the drives and taken out, and between any two
of these the host may change in any way.

`Rig.checkedRun` carries out the same run by checked accesses.  That no check ever stops it
(`checkedRun_eq_ok`) is the reason why neither the stores nor the arithmetic of a transfer need
checks of their own.  Nothing is assumed of the rig: its memory may have been laid out from stores
of any sizes, and the controller may be in any state, with any latched address.

## What a rig leaves out

The ports and the console are not part of a rig, because they compute with nothing but bytes.
Mounting and unmounting are, since they decide which image a transfer opens, but they have no
arithmetic and are carried out as they are.  A change of the host may do anything, also to the file
behind a store: cells may then refuse their bytes, but they are still asked for at the same offsets.
-/

namespace Backplane

/-! ## Dumps -/

namespace Dialog

/-- Reads consecutive addresses on the bus, wrapping at the top. -/
def checkedReadBlock (memory : Memory) (host : Host) (address : UInt16) :
    (count : Nat) → Checked (List UInt8)
  | 0 => .ok []
  | count + 1 => do
    let value ← memory.checkedRead host address
    let rest ← checkedReadBlock memory host (address + 1) count
    .ok (value :: rest)

/-- The given number of rows from an address on. -/
def checkedDumpRows (memory : Memory) (host : Host) (address : UInt16) :
    (rows : Nat) → Checked (List Char)
  | 0 => .ok []
  | rows + 1 => do
    let bytes ← checkedReadBlock memory host address rowLength
    let rest ← checkedDumpRows memory host (address + UInt16.ofNat rowLength) rows
    .ok (dumpRow address bytes ++ rest)

/-- The dump from an address on. -/
def checkedDump (memory : Memory) (host : Host) (start : UInt16) : Checked String := do
  let rows ← checkedDumpRows memory host start rowCount
  .ok (String.ofList rows)

variable (memory : Memory) (host : Host) (address : UInt16)

@[simp]
theorem checkedReadBlock_eq_ok (count : Nat) :
    checkedReadBlock memory host address count =
      .ok (readBlock memory host address count).value := by
  induction count generalizing address with
  | zero => rfl
  | succ count ih => simp [checkedReadBlock, readBlock, ih]

@[simp]
theorem checkedDumpRows_eq_ok (rows : Nat) :
    checkedDumpRows memory host address rows =
      .ok (dumpRows memory host address rows).value := by
  induction rows generalizing address with
  | zero => rfl
  | succ rows ih => simp [checkedDumpRows, dumpRows, ih]

@[simp]
theorem checkedDump_eq_ok :
    checkedDump memory host address = .ok (dump memory host address).value := by
  simp [checkedDump, dump]

end Dialog

/-! ## Rigs -/

/-- Memory and a disk controller on a host.  This is all of a machine that calls a store, and any
three of them make a rig, whether a machine could come to have them or not. -/
structure Rig where
  memory : Memory
  controller : Disk.Controller
  host : Host

namespace Rig

/-- What a rig can be asked for. -/
inductive Demand where
  /-- A read cycle on the bus. -/
  | read (address : UInt16)
  /-- A write cycle on the bus. -/
  | write (address : UInt16) (value : UInt8)
  /-- A byte is loaded past the bus, with its fault. -/
  | load (address : UInt16)
  /-- A byte is stored past the bus, with its fault. -/
  | store (address : UInt16) (value : UInt8)
  /-- Program storage is filled from an image. -/
  | loadProgram (image : List UInt8)
  /-- A byte is written to the controller. -/
  | deliver (value : UInt8)
  /-- A disk is put into a drive. -/
  | mount (number : Nat) (name : String)
  /-- A drive is emptied. -/
  | unmount (number : Nat)
  /-- Memory is dumped. -/
  | dump (start : UInt16)
  /-- Others change the host. -/
  | outside (host : Host)

/-- What a rig answers. -/
inductive Reply where
  | nothing
  | byte (value : UInt8)
  | fetched (result : Except Fault UInt8)
  | stored (result : Except Fault Unit)
  | loaded (result : Except MachineError Unit)
  | mounted (result : Except MountError Unit)
  | text (shown : String)

/-- Does what is asked for. -/
def perform (rig : Rig) : Demand → Reply × Rig
  | .read address => (.byte (rig.memory.read rig.host address).value, rig)
  | .write address value =>
    match (rig.memory.write rig.host address value).value with
    | (memory, host) => (.nothing, { rig with memory, host })
  | .load address => (.fetched (rig.memory.load rig.host address).value, rig)
  | .store address value =>
    match (rig.memory.store rig.host address value).value with
    | (result, memory, host) => (.stored result, { rig with memory, host })
  | .loadProgram image =>
    match rig.memory.loadProgram rig.host image with
    | (result, memory, host) => (.loaded result, { rig with memory, host })
  | .deliver value =>
    match (rig.controller.output rig.memory rig.host value).value with
    | (controller, memory, host) => (.nothing, { memory, controller, host })
  | .mount number name =>
    match (rig.controller.mount rig.host number name).value with
    | (result, controller) => (.mounted result, { rig with controller })
  | .unmount number =>
    match (rig.controller.unmount number).value with
    | (result, controller) => (.mounted result, { rig with controller })
  | .dump start => (.text (Dialog.dump rig.memory rig.host start).value, rig)
  | .outside host => (.nothing, { rig with host })

/-- The replies to demands in a row, and the rig after them. -/
def run (rig : Rig) : List Demand → List Reply × Rig
  | [] => ([], rig)
  | demand :: rest =>
    match (rig.perform demand).2.run rest with
    | (replies, reached) => ((rig.perform demand).1 :: replies, reached)

/-- Does what is asked for by checked accesses.  Drives are changed without any. -/
def checkedPerform (rig : Rig) : Demand → Checked (Reply × Rig)
  | .read address => do
    let value ← rig.memory.checkedRead rig.host address
    .ok (.byte value, rig)
  | .write address value => do
    let (memory, host) ← rig.memory.checkedWrite rig.host address value
    .ok (.nothing, { rig with memory, host })
  | .load address => do
    let result ← rig.memory.checkedLoad rig.host address
    .ok (.fetched result, rig)
  | .store address value => do
    let (result, memory, host) ← rig.memory.checkedStore rig.host address value
    .ok (.stored result, { rig with memory, host })
  | .loadProgram image => do
    let (result, memory, host) ← rig.memory.checkedLoadProgram rig.host image
    .ok (.loaded result, { rig with memory, host })
  | .deliver value => do
    let (controller, memory, host) ← rig.controller.checkedOutput rig.memory rig.host value
    .ok (.nothing, { memory, controller, host })
  | .dump start => do
    let shown ← Dialog.checkedDump rig.memory rig.host start
    .ok (.text shown, rig)
  | .mount number name => .ok (rig.perform (.mount number name))
  | .unmount number => .ok (rig.perform (.unmount number))
  | .outside host => .ok (rig.perform (.outside host))

/-- The run by checked accesses, which stops at the first breach. -/
def checkedRun (rig : Rig) : List Demand → Checked (List Reply × Rig)
  | [] => .ok ([], rig)
  | demand :: rest => do
    let (reply, next) ← rig.checkedPerform demand
    let (replies, reached) ← next.checkedRun rest
    .ok (reply :: replies, reached)

@[simp]
theorem checkedPerform_eq_ok (rig : Rig) (demand : Demand) :
    rig.checkedPerform demand = .ok (rig.perform demand) := by
  cases demand with
  | mount number name => rfl
  | unmount number => rfl
  | outside host => rfl
  | _ => simp [checkedPerform, perform]

/-- In every run of every rig each store is called with offsets below its size, no difference goes
below zero, and no address runs past the top: the run by checked accesses comes to the end, with
the replies and the rig that the run itself comes to. -/
theorem checkedRun_eq_ok (rig : Rig) (demands : List Demand) :
    rig.checkedRun demands = .ok (rig.run demands) := by
  induction demands generalizing rig with
  | nil => rfl
  | cons demand rest ih => simp [checkedRun, run, ih]

end Rig

end Backplane
