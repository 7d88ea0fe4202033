import Backplane.Logged

/-!
# Backing stores

A backing store holds the bytes behind a part of the address space.  It has a fixed size, and
every access moves a single byte; nothing is cached in front of it.  An array lives and dies with
the machine.  A persistent store is an image file on the host that stands for a byte-addressable
memory chip: it is opened, made if it is missing and grown to its size, and its bytes outlast the
machine.  The other two are devices that fail, which the machine has to survive.

The machine only ever uses offsets below a store's size, so stores do not check them.  Whether a
store refuses a byte depends on the offset alone and never on the byte, so the refusal is asked
for first (`storeFault?`) and the byte is put in place after it (`put`): a refused byte has
changed nothing by construction.

## Faults

An array never refuses.  A persistent store refuses what the host refuses of its file, and it holds
the node that was opened and not the path, so it goes on with the same file when the path has been
taken away.  A faulty device has ranges of offsets that it does not load and ranges that it does not
store.  A device that has gone away does neither.

How much memory the host has is not modelled.  An array can be made if it is no longer than the
longest block of memory there can be (`blockLimit`), and making a longer one is a panic.
-/

namespace Backplane

/-- A fixed-size, byte-addressed storage device.  The machine has two of them and does not know
which kind they are. -/
inductive Store where
  /-- Memory of the machine itself. -/
  | array (data : Content)
  /-- An image file on the host, of which the first `size` bytes are used. -/
  | persistent (node : Node) (path : Path) (size : Nat)
  /-- An array with offsets at which loading or storing fails, each range without its end. -/
  | faulty (data : Content) (badLoads badStores : List (Nat × Nat))
  /-- A device that has gone away. -/
  | unplugged (size : Nat)

namespace Store

/-- A zero-filled array. -/
def zeroed (size : Nat) : Store := .array (.zeros size)

/-- The most bytes that a block of memory can have. -/
def blockLimit : Nat := 0x7FFFFFFFFFFFFFFF

/-- Makes a zero-filled array, which has to be one block of memory.  That the host has so much
memory is taken for granted. -/
def allocate (size : Nat) : Except Panic Store :=
  if blockLimit < size then .error .capacityOverflow else .ok (.zeroed size)

theorem allocate_eq_ok_iff {size : Nat} {store : Store} :
    allocate size = .ok store ↔ size ≤ blockLimit ∧ .zeroed size = store := by
  unfold allocate
  by_cases h : blockLimit < size
  · simp only [if_pos h, reduceCtorEq, false_iff, not_and]
    omega
  · simp [h, Nat.le_of_not_lt h]

theorem allocate_of_le {size : Nat} (h : size ≤ blockLimit) : allocate size = .ok (.zeroed size) :=
  allocate_eq_ok_iff.2 ⟨h, rfl⟩

/-- Opens the image file of a persistent store, making it if it is missing and growing it with zeros
if it is shorter than the store.  What is in it stays.  A file that was made stays too if the store
is then refused, because the host does not tell its length or does not let it grow. -/
def openPersistent (host : Host) (path : Path) (size : Nat) :
    Logged (Except Fault Store × Host) :=
  match host.openOrCreate path with
  | .error fault => pure (.error fault, host)
  | .ok (node, host) =>
    match host.measure node with
    | .error fault => pure (.error fault, host)
    | .ok length =>
      if length < size then
        match host.setLength node size with
        | .error fault => pure (.error fault, host)
        | .ok host => opened node host
      else opened node host
where
  /-- The store, once its file is long enough. -/
  opened (node : Node) (host : Host) : Logged (Except Fault Store × Host) :=
    ⟨(.ok (.persistent node path size), host), [.persistentOpened path size]⟩

/-- The number of bytes a store holds. -/
def size : Store → Nat
  | .array data => data.length
  | .persistent _ _ size => size
  | .faulty data _ _ => data.length
  | .unplugged size => size

/-- The file a store keeps its bytes in, if it has one. -/
def path? : Store → Option Path
  | .persistent _ path _ => some path
  | _ => none

/-- Whether an offset lies in one of the ranges. -/
def inRanges (ranges : List (Nat × Nat)) (offset : Nat) : Bool :=
  ranges.any fun range => range.1 ≤ offset && offset < range.2

/-- Loads the byte at an offset. -/
def load (store : Store) (host : Host) (offset : Nat) : Except Fault UInt8 :=
  match store with
  | .array data => .ok (data.byte offset)
  | .persistent node _ _ => host.readByte node offset
  | .faulty data badLoads _ =>
    if inRanges badLoads offset then .error .unplugged else .ok (data.byte offset)
  | .unplugged _ => .error .unplugged

/-- Why a store refuses a byte at an offset, if it does. -/
def storeFault? (store : Store) (host : Host) (offset : Nat) : Option Fault :=
  match store with
  | .array _ => none
  | .persistent node _ _ => host.writeFault? node offset 1
  | .faulty _ _ badStores => if inRanges badStores offset then some .unplugged else none
  | .unplugged _ => some .unplugged

/-- Puts a byte in place that the store does not refuse. -/
def put (store : Store) (host : Host) (offset : Nat) (value : UInt8) : Store × Host :=
  match store with
  | .array data => (.array (data.set offset value), host)
  | .persistent node path size =>
    (.persistent node path size, host.writeInto node offset [value])
  | .faulty data badLoads badStores =>
    (.faulty (data.set offset value) badLoads badStores, host)
  | .unplugged size => (.unplugged size, host)

/-- Stores a byte at an offset.  A refusal leaves the store and the host as they were. -/
def store (store : Store) (host : Host) (offset : Nat) (value : UInt8) :
    Except Fault Unit × Store × Host :=
  match store.storeFault? host offset with
  | some fault => (.error fault, store, host)
  | none => (.ok (), store.put host offset value)

/-- Stores consecutive bytes from an offset on and stops at the first that is refused. -/
def storeAll (store : Store) (host : Host) (offset : Nat) :
    List UInt8 → Except Fault Unit × Store × Host
  | [] => (.ok (), store, host)
  | value :: rest =>
    match store.storeFault? host offset with
    | some fault => (.error fault, store, host)
    | none =>
      match store.put host offset value with
      | (store, host) => store.storeAll host (offset + 1) rest

@[simp]
theorem size_put (store : Store) (host : Host) (offset : Nat) (value : UInt8) :
    (store.put host offset value).1.size = store.size := by
  cases store <;> simp [put, size]

@[simp]
theorem size_storeAll (store : Store) (host : Host) (offset : Nat) (bytes : List UInt8) :
    (store.storeAll host offset bytes).2.1.size = store.size := by
  induction bytes generalizing store host offset with
  | nil => rfl
  | cons value rest ih =>
    rw [storeAll]
    split
    · rfl
    · dsimp only
      rw [ih, size_put]

@[simp]
theorem size_zeroed (size : Nat) : (zeroed size).size = size := rfl

end Store

end Backplane
