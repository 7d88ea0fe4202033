import Backplane.Proofs.Memory.AddressMap
import Mathlib.Data.Nat.Find

/-!
# Blocks and bus cycles

A disk transfer moves a block of bytes, and the bus moves one byte at a time.  This file compares
the two.

Whether the device behind an address gives or takes a byte is a property of that address
(`RefusesLoad`, `RefusesStore`), and storing elsewhere does not change it.  So how far a block gets
is settled before it starts.  If no address of it refuses, loading gives what the bus would read
(`value_loadBlock_of_given`), and storing does what write cycles of the bus would do
(`value_storeBlock_of_taken`).  If one refuses, loading gives nothing, and storing does what the
write cycles before the first refusal would do (`exists_storeBlock_of_firstRefusal`).

The induction is in `value_storeBlock_append`: bytes that are taken can be split off the front of a
block and be written by the bus instead.

## Hypotheses

Stores are as opening leaves them where bytes are stored (`Ready`), so that a byte that was taken
does not change which others are.  Reading needs nothing: what the bus reads at an address is what a
transfer loads there, and a floating bus stands only where a transfer is refused.
-/

namespace Backplane

namespace Memory

variable {memory after : Memory} {host : Host} {address : UInt16} {count : Nat}
  {bytes : List UInt8}

/-! ## Refusals -/

/-- The device behind an address does not give its byte. -/
def RefusesLoad (memory : Memory) (host : Host) (address : UInt16) : Prop :=
  ∃ fault, (memory.load host address).value = .error fault

/-- The device behind an address does not take a byte, whichever it is. -/
def RefusesStore (memory : Memory) (host : Host) (address : UInt16) : Prop :=
  ∃ fault, ∀ value, (memory.store host address value).value.1 = .error fault

/-- The first address of a block that refuses a byte, by its place in the block. -/
structure FirstRefusal (memory : Memory) (host : Host) (address : UInt16) (place : Nat) :
    Prop where
  refuses : memory.RefusesStore host (address + UInt16.ofNat place)
  before : ∀ i < place, ¬memory.RefusesStore host (address + UInt16.ofNat i)

theorem refusesStore_iff :
    memory.RefusesStore host address ↔ ∃ fault, memory.storeFault? host address = some fault := by
  unfold RefusesStore
  simp only [value_store]
  cases memory.storeFault? host address with
  | none => simp
  | some fault => simp

theorem not_refusesStore_iff :
    ¬memory.RefusesStore host address ↔ memory.storeFault? host address = none := by
  rw [refusesStore_iff, Option.eq_none_iff_forall_ne_some]
  exact not_exists

theorem SameDevices.refusesStore (h : SameDevices memory after) {other : Host}
    (hrefusal : ∀ node access, other.refusal? node access = host.refusal? node access)
    (address : UInt16) :
    after.RefusesStore other address ↔ memory.RefusesStore host address := by
  rw [refusesStore_iff, refusesStore_iff, h.storeFault? hrefusal]

/-- Some address of a block is the first to refuse, if any does. -/
theorem exists_firstRefusal
    (h : ∃ i < count, memory.RefusesStore host (address + UInt16.ofNat i)) :
    ∃ place < count, memory.FirstRefusal host address place := by
  classical
  obtain ⟨hlt, hrefuses⟩ := Nat.find_spec h
  refine ⟨Nat.find h, hlt, hrefuses, ?_⟩
  intro i hi hearlier
  exact Nat.find_min h hi ⟨Nat.lt_trans hi hlt, hearlier⟩

/-! ## Loading -/

/-- What the bus reads at consecutive addresses. -/
def busBytes (memory : Memory) (host : Host) (address : UInt16) (count : Nat) : List UInt8 :=
  (List.range count).map fun i => (memory.read host (address + UInt16.ofNat i)).value

@[simp]
theorem length_busBytes (memory : Memory) (host : Host) (address : UInt16) (count : Nat) :
    (memory.busBytes host address count).length = count := by
  rw [Memory.busBytes, List.length_map, List.length_range]

theorem getElem?_busBytes {i : Nat} (h : i < count) (memory : Memory) (host : Host)
    (address : UInt16) :
    (memory.busBytes host address count)[i]? =
      some (memory.read host (address + UInt16.ofNat i)).value := by
  rw [Memory.busBytes, List.getElem?_map, List.getElem?_range h, Option.map_some]

/-- A block that is loaded is what the bus reads. -/
theorem eq_busBytes_of_loadBlock (h : (memory.loadBlock host address count).value = .ok bytes) :
    bytes = memory.busBytes host address count := by
  obtain ⟨hlength, hbytes⟩ := loadBlock_eq_ok h
  apply List.ext_getElem
  · rw [busBytes, List.length_map, List.length_range, hlength]
  · intro i hi hi'
    simp only [busBytes, List.getElem_map, List.getElem_range, value_read, hbytes i hi]

/-- A block of which no address refuses is loaded. -/
theorem value_loadBlock_of_given
    (h : ∀ i < count, ¬memory.RefusesLoad host (address + UInt16.ofNat i)) :
    (memory.loadBlock host address count).value = .ok (memory.busBytes host address count) := by
  -- What is loaded is what the bus shows, so only that it can be loaded is left.
  suffices hloads : ∃ bytes, (memory.loadBlock host address count).value = .ok bytes by
    obtain ⟨bytes, hbytes⟩ := hloads
    rw [hbytes, eq_busBytes_of_loadBlock hbytes]
  induction count generalizing address with
  | zero => exact ⟨[], rfl⟩
  | succ count ih =>
    cases hfetch : memory.fetch host address with
    | error fault =>
      have hrefuses : memory.RefusesLoad host (address + UInt16.ofNat 0) :=
        ⟨fault, by simpa [value_load] using hfetch⟩
      exact absurd hrefuses (h 0 (by omega))
    | ok value =>
      have hlater : ∀ i < count, ¬memory.RefusesLoad host (address + 1 + UInt16.ofNat i) := by
        intro i hi
        rw [add_one_add_ofNat]
        exact h (i + 1) (by omega)
      obtain ⟨rest, hrest⟩ := ih hlater
      refine ⟨value :: rest, ?_⟩
      rw [value_loadBlock_succ, hfetch, hrest]

/-- A block is not loaded if some address of it refuses. -/
theorem exists_loadBlock_of_refused
    (h : ∃ i < count, memory.RefusesLoad host (address + UInt16.ofNat i)) :
    ∃ failure, (memory.loadBlock host address count).value = .error failure := by
  obtain ⟨i, hi, fault, hfault⟩ := h
  cases hload : (memory.loadBlock host address count).value with
  | error failure => exact ⟨failure, rfl⟩
  | ok bytes =>
    obtain ⟨hlength, hbytes⟩ := loadBlock_eq_ok hload
    exact absurd (hfault.symm.trans (hbytes i (hlength ▸ hi))) (by simp)

/-! ## Storing -/

/-- The write cycles that put bytes at consecutive addresses. -/
def writeCycles (address : UInt16) (bytes : List UInt8) : List Access :=
  (placed address bytes).map fun cell => .write cell.1 cell.2

/-- Bytes at the front of a block that are taken are stored as the bus writes them. -/
theorem value_storeBlock_append {before : List UInt8}
    (h : ∀ i < before.length, ¬memory.RefusesStore host (address + UInt16.ofNat i))
    (rest : List UInt8) :
    (memory.storeBlock host address (before ++ rest)).value =
      ((memory.run host (writeCycles address before)).1.storeBlock
        (memory.run host (writeCycles address before)).2
        (address + UInt16.ofNat before.length) rest).value := by
  induction before generalizing memory host address with
  | nil => simp [writeCycles, placed, run]
  | cons value before ih =>
    have htakes : memory.storeFault? host address = none := by
      simpa using not_refusesStore_iff.1 (h 0 (by simp))
    have hwrite : (memory.write host address value).value = memory.put host address value := by
      rw [value_write, htakes]
    have hdevices := (workingOnly_put memory host address value).sameDevices
    have hlater : ∀ i < before.length, ¬(memory.put host address value).1.RefusesStore
        (memory.put host address value).2 (address + 1 + UInt16.ofNat i) := by
      intro i hi
      rw [hdevices.refusesStore (agree_put memory host address value).refusal?, add_one_add_ofNat]
      exact h (i + 1) (by rw [List.length_cons]; omega)
    have hrest := ih hlater
    rw [add_one_add_ofNat] at hrest
    rw [List.cons_append, value_storeBlock_cons, htakes]
    simp only [writeCycles, placed, List.map_cons, run, Access.perform, hwrite] at hrest ⊢
    exact hrest

/-- A block that is taken to its end is stored as the bus writes it. -/
theorem value_storeBlock_of_taken
    (h : ∀ i < bytes.length, ¬memory.RefusesStore host (address + UInt16.ofNat i)) :
    (memory.storeBlock host address bytes).value =
      (.ok (), memory.run host (writeCycles address bytes)) := by
  have hsplit := value_storeBlock_append h []
  rw [List.append_nil] at hsplit
  exact hsplit

/-- A block that is refused somewhere is stored up to there, as the bus writes it. -/
theorem exists_storeBlock_of_firstRefusal {place : Nat} (hplace : place < bytes.length)
    (h : memory.FirstRefusal host address place) :
    ∃ fault, (memory.storeBlock host address bytes).value =
      (.error (address + UInt16.ofNat place, fault),
        memory.run host (writeCycles address (bytes.take place))) := by
  have hlength : (bytes.take place).length = place := List.length_take_of_le (Nat.le_of_lt hplace)
  have hbefore : ∀ i < (bytes.take place).length,
      ¬memory.RefusesStore host (address + UInt16.ofNat i) := by
    rw [hlength]
    exact h.before
  have hdevices := sameDevices_run (writeCycles address (bytes.take place)) memory host
  have hrefusal := refusal?_run (writeCycles address (bytes.take place)) memory host
  obtain ⟨fault, hfault⟩ := refusesStore_iff.1 ((hdevices.refusesStore hrefusal _).2 h.refuses)
  have hsplit := value_storeBlock_append hbefore (bytes.drop place)
  rw [List.take_append_drop, hlength, List.drop_eq_getElem_cons hplace, value_storeBlock_cons,
    hfault] at hsplit
  exact ⟨fault, hsplit⟩

end Memory

end Backplane
