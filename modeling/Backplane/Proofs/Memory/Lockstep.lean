import Backplane.Proofs.Memory.Access

/-!
# Memories in lockstep

Two memories, each on a host of its own, can hold the same bytes in different devices.  `Lockstep`
says what it takes of a relation between them that no access can look behind: related memories hold
the same at every address and refuse the same, and a byte that is put into both leaves them related.
That is enough for every access on the bus and for every block of a disk transfer.

Faults are compared as well as bytes.  A transfer reports them, and its status depends on them, so
memories that refuse the same address for different reasons could be told apart.
-/

namespace Backplane

namespace Memory

/-- A relation between memories, each on a host of its own, that no access can look behind. -/
structure Lockstep (related : Memory → Host → Memory → Host → Prop) : Prop where
  fetch : ∀ {memory host other otherHost}, related memory host other otherHost → ∀ address,
    other.fetch otherHost address = memory.fetch host address
  storeFault? : ∀ {memory host other otherHost}, related memory host other otherHost → ∀ address,
    other.storeFault? otherHost address = memory.storeFault? host address
  put : ∀ {memory host other otherHost}, related memory host other otherHost →
    ∀ address value,
      related (memory.put host address value).1 (memory.put host address value).2
        (other.put otherHost address value).1 (other.put otherHost address value).2

namespace Lockstep

variable {related : Memory → Host → Memory → Host → Prop} {memory other : Memory}
  {host otherHost : Host}

theorem read (h : Lockstep related) (hrelated : related memory host other otherHost)
    (address : UInt16) :
    (other.read otherHost address).value = (memory.read host address).value := by
  rw [value_read, value_read, h.fetch hrelated]

theorem write (h : Lockstep related) (hrelated : related memory host other otherHost)
    (address : UInt16) (value : UInt8) :
    related (memory.write host address value).value.1 (memory.write host address value).value.2
      (other.write otherHost address value).value.1
      (other.write otherHost address value).value.2 := by
  rw [value_write, value_write, h.storeFault? hrelated]
  cases memory.storeFault? host address with
  | some fault => exact hrelated
  | none => exact h.put hrelated address value

theorem loadBlock (h : Lockstep related) (hrelated : related memory host other otherHost)
    (address : UInt16) (count : Nat) :
    (other.loadBlock otherHost address count).value =
      (memory.loadBlock host address count).value := by
  induction count generalizing address with
  | zero => rfl
  | succ count ih => rw [value_loadBlock_succ, value_loadBlock_succ, h.fetch hrelated, ih]

/-- A block is stored as far on both sides, and what was stored is related. -/
theorem storeBlock (h : Lockstep related) (hrelated : related memory host other otherHost)
    (address : UInt16) (bytes : List UInt8) :
    (other.storeBlock otherHost address bytes).value.1 =
        (memory.storeBlock host address bytes).value.1 ∧
      related (memory.storeBlock host address bytes).value.2.1
        (memory.storeBlock host address bytes).value.2.2
        (other.storeBlock otherHost address bytes).value.2.1
        (other.storeBlock otherHost address bytes).value.2.2 := by
  induction bytes generalizing memory host other otherHost address with
  | nil => exact ⟨rfl, hrelated⟩
  | cons value rest ih =>
    rw [value_storeBlock_cons, value_storeBlock_cons, h.storeFault? hrelated]
    cases memory.storeFault? host address with
    | some fault => exact ⟨rfl, hrelated⟩
    | none => exact ih (h.put hrelated address value) (address + 1)

end Lockstep

/-! ## Program images -/

/-- Filling an array gives the same array on any host. -/
theorem exists_storeAll_array_of_host (bytes : Content) (offset : Nat) (image : List UInt8) :
    ∃ filled : Content, ∀ host, (Store.array bytes).storeAll host offset image =
      (.ok (), .array filled, host) := by
  induction image generalizing bytes offset with
  | nil => exact ⟨bytes, fun _ => rfl⟩
  | cons value rest ih =>
    obtain ⟨filled, hfilled⟩ := ih (bytes.set offset value) (offset + 1)
    exact ⟨filled, hfilled⟩

/-- A program is loaded into an array the same way on any host, whatever working storage is. -/
theorem exists_loadProgram_of_host (bytes : Content) (image : List UInt8) :
    ∃ result, ∃ filled : Content, ∀ {memory : Memory}, memory.program = .array bytes →
      ∃ size_eq : (Store.array filled).size = memory.program.size, ∀ host,
        memory.loadProgram host image =
          (result, memory.withProgram (.array filled) size_eq, host) := by
  by_cases hfits : bytes.length < image.length
  · -- The image is too long on every host.
    refine ⟨.error (.programTooLarge image.length bytes.length), bytes, ?_⟩
    intro memory hprogram
    have hsize : memory.programSize = bytes.length := by
      rw [programSize_eq, hprogram]
      rfl
    refine ⟨by rw [hprogram], fun host => ?_⟩
    rw [loadProgram_of_too_large (by rwa [hsize]), hsize]
    exact Prod.ext rfl (Prod.ext (eq_of_stores hprogram rfl rfl) rfl)
  · -- It fits, and an array takes it without looking at the host.
    obtain ⟨filled, hfilled⟩ := exists_storeAll_array_of_host bytes 0 image
    refine ⟨.ok (), filled, ?_⟩
    intro memory hprogram
    have hlength := Store.size_storeAll (.array bytes) {} 0 image
    rw [hfilled, ← hprogram] at hlength
    refine ⟨hlength, fun host => ?_⟩
    have hsize : memory.sizeRefusal? image.length = none := by
      rw [sizeRefusal?, programSize_eq, hprogram]
      exact if_neg hfits
    have hstored : memory.program.storeAll host 0 image = (.ok (), .array filled, host) := by
      rw [hprogram, hfilled]
    rw [loadProgram, hsize]
    refine Prod.ext ?_ (Prod.ext (eq_of_stores ?_ rfl rfl) ?_)
    all_goals simp [hstored, Except.mapError]

end Memory

end Backplane
