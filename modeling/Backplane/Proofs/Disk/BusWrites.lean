import Backplane.Proofs.Disk.Completed
import Backplane.Proofs.Memory.Blocks

/-!
# Reads and the bus

A read moves a sector into memory past the processor, on the way that transfers have, and not by
write cycles of the bus.  Memory cannot tell: a read that ends well leaves what the write cycles
would have left, and one that a device stops leaves what those before the refused byte would have
left.  Any other read leaves memory as it was.  `readsAsBus` says so for any stores and any window,
also one that spans program storage and addresses without a device, and one that covers the
descriptor: the sector is known before its first byte is stored, so nothing that the read stores
can change where the rest goes.

What a read would move is `ReadsSector`, the descriptor in memory and the bytes of its sector.  It
is determined by the state before the command.

## Where a read stops

Whether a device takes the byte at an address does not depend on what was stored at other addresses,
so the first address of the window that refuses is known before the read begins
(`Memory.FirstRefusal`).  A read that meets one has stored exactly the bytes in front of it, and the
write cycles of those bytes are what the bus would have done up to there.

## Files

Write cycles of the bus change the file behind working storage, and so does a read.  Both change it
byte by byte, in the same order.  No other file is touched, also where the image is the file that
working storage is kept in: the sector was read as a whole before its first byte was stored.
-/

namespace Backplane

namespace Disk

variable {controller : Controller} {memory : Memory} {host : Host} {number : Nat}
  {descriptor : Descriptor} {bytes : List UInt8}

/-- The transfer has the descriptor and the bytes of the sector, and only memory can stop it. -/
def ReadsSector (controller : Controller) (memory : Memory) (host : Host) (number : Nat)
    (descriptor : Descriptor) (bytes : List UInt8) : Prop :=
  ∃ path node,
    Selects controller.drives controller.latch.address? .read number memory host descriptor path
      node ∧
    host.read node descriptor.offset 128 = .ok bytes

/-- A read stores like the bus, as far as it gets, and changes nothing else. -/
structure ReadsAsBus (controller : Controller) (memory : Memory) (host : Host) (number : Nat)
    (after : Controller × Memory × Host) : Prop where
  /-- A read that ends well is all write cycles of the sector. -/
  ok : after.1.status = .ok → ∃ descriptor bytes,
    ReadsSector controller memory host number descriptor bytes ∧ bytes.length = 128 ∧
      after.2 = memory.run host (Memory.writeCycles descriptor.window bytes)
  /-- A read that a device stops is the write cycles before. -/
  stopped : ∀ descriptor bytes place,
    ReadsSector controller memory host number descriptor bytes → place < 128 →
    memory.FirstRefusal host descriptor.window place →
      after.1.status = .dma ∧
        after.2 = memory.run host (Memory.writeCycles descriptor.window (bytes.take place))
  /-- Any other read leaves memory. -/
  other : after.1.status ≠ .ok →
    (¬∃ descriptor bytes place,
      ReadsSector controller memory host number descriptor bytes ∧ place < 128 ∧
        memory.FirstRefusal host descriptor.window place) →
    after.2 = (memory, host)
  /-- Bytes for addresses outside working storage vanish. -/
  vanishes : memory.working.file? = none → ∀ address, memory.region address ≠ .working →
    after.2.1.fetch after.2.2 address = memory.fetch host address
  /-- Without a file behind working storage no file changes. -/
  files : memory.working.file? = none → after.2.2 = host
  /-- Drives and latch stay. -/
  keepsController : after.1 = { controller with status := after.1.status }

/-! ## What a read would move -/

/-- The sector is read whole. -/
theorem ReadsSector.length (h : ReadsSector controller memory host number descriptor bytes) :
    bytes.length = 128 := by
  obtain ⟨path, node, -, hread⟩ := h
  exact Image.length_readSector (Image.readSector_eq_ok_iff.2 hread)

/-- A sector that memory takes whole is stored as the bus writes it. -/
theorem ReadsSector.value_transfer_of_taken
    (h : ReadsSector controller memory host number descriptor bytes)
    (htaken : ∀ i < 128, ¬memory.RefusesStore host (descriptor.window + UInt16.ofNat i)) :
    (transfer controller.drives controller.latch.address? .read number memory host).value =
      (.ok (), memory.run host (Memory.writeCycles descriptor.window bytes)) := by
  have hlength := h.length
  obtain ⟨path, node, hselects, hread⟩ := h
  rw [← hlength] at htaken
  have hstored := Memory.value_storeBlock_of_taken htaken
  simp only [hselects.value_transfer_read, readIntoMemory, Image.readSector_eq_ok_iff.2 hread,
    Logged.value_bind, hstored, Logged.value_pure]

/-- A sector that memory does not take whole is stored up to the first refusal. -/
theorem ReadsSector.exists_transfer_of_firstRefusal
    (h : ReadsSector controller memory host number descriptor bytes) {place : Nat}
    (hplace : place < 128) (hfirst : memory.FirstRefusal host descriptor.window place) :
    ∃ fault,
      (transfer controller.drives controller.latch.address? .read number memory host).value =
        (.error (.dmaStore (descriptor.window + UInt16.ofNat place) fault),
          memory.run host (Memory.writeCycles descriptor.window (bytes.take place))) := by
  have hlength := h.length
  obtain ⟨path, node, hselects, hread⟩ := h
  obtain ⟨fault, hstored⟩ :=
    Memory.exists_storeBlock_of_firstRefusal (hlength.symm ▸ hplace) hfirst
  refine ⟨fault, ?_⟩
  simp only [hselects.value_transfer_read, readIntoMemory, Image.readSector_eq_ok_iff.2 hread,
    Logged.value_bind, hstored, Logged.value_pure]

/-- Without a sector nothing is stored. -/
theorem exists_transfer_of_no_sector
    (h : ¬∃ descriptor bytes, ReadsSector controller memory host number descriptor bytes) :
    ∃ failure,
      (transfer controller.drives controller.latch.address? .read number memory host).value =
        (.error failure, memory, host) := by
  have hcases := transferred controller.drives controller.latch.address? .read number memory host
  generalize (transfer controller.drives controller.latch.address? .read number memory host).value =
    ended at hcases
  cases hcases with
  | refused failure => exact ⟨failure, rfl⟩
  | stopped descriptor path node bytes address fault reads selects sector stored =>
    exact absurd ⟨descriptor, bytes, path, node, selects, Image.readSector_eq_ok_iff.1 sector⟩ h
  | read descriptor path node bytes reads selects sector stored =>
    exact absurd ⟨descriptor, bytes, path, node, selects, Image.readSector_eq_ok_iff.1 sector⟩ h
  | wrote _ _ _ _ _ writes => exact absurd writes (by simp)

/-! ## Reads -/

/-- A read stores the sector, stores it up to the first refusal, or stores nothing. -/
theorem read_cases (controller : Controller) (memory : Memory) (host : Host) (number : Nat) :
    (∃ descriptor bytes, ReadsSector controller memory host number descriptor bytes ∧
      (transfer controller.drives controller.latch.address? .read number memory host).value =
        (.ok (), memory.run host (Memory.writeCycles descriptor.window bytes))) ∨
    (∃ descriptor bytes place, ReadsSector controller memory host number descriptor bytes ∧
      place < 128 ∧ memory.FirstRefusal host descriptor.window place) ∨
    ∃ failure,
      (transfer controller.drives controller.latch.address? .read number memory host).value =
        (.error failure, memory, host) := by
  by_cases hsector : ∃ descriptor bytes,
      ReadsSector controller memory host number descriptor bytes
  · obtain ⟨descriptor, bytes, hsector⟩ := hsector
    by_cases hstores : ∃ i < 128, memory.RefusesStore host (descriptor.window + UInt16.ofNat i)
    · obtain ⟨place, hplace, hfirst⟩ := Memory.exists_firstRefusal hstores
      exact .inr (.inl ⟨descriptor, bytes, place, hsector, hplace, hfirst⟩)
    · have hended := hsector.value_transfer_of_taken fun i hi hrefuses =>
        hstores ⟨i, hi, hrefuses⟩
      exact .inl ⟨descriptor, bytes, hsector, hended⟩
  · exact .inr (.inr (exists_transfer_of_no_sector hsector))

/-- Whatever the stores and wherever the window, a read leaves memory as write cycles of the bus
would have left it: all of them if it ended well, those before the refused byte if a device stopped
it, and none in any other case. -/
theorem readsAsBus {controller : Controller} {value : UInt8}
    (hready : ∀ low, controller.latch ≠ .collecting low)
    (hasks : value.toNat / 16 = Direction.read.code) (memory : Memory) (host : Host) :
    ReadsAsBus controller memory host (value.toNat % 16)
      (controller.output memory host value).value := by
  have hcases := read_cases controller memory host (value.toNat % 16)
  have hworking := workingOnly_transfer controller.drives controller.latch.address? .read
    (value.toNat % 16) memory host
  -- Without a file behind working storage a read changes nothing on the host.
  have hfiles : memory.working.file? = none → (transfer controller.drives controller.latch.address?
      .read (value.toNat % 16) memory host).value.2.2 = host := by
    intro hnone
    apply (agree_transfer_read controller.drives controller.latch.address? (value.toNat % 16)
      memory host).eq_of_untouched
    simp [hnone]
  rw [value_output_of_transfer hready hasks]
  refine ⟨?_, ?_, ?_, ?_, hfiles, rfl⟩
  · -- A read that ends well has stored the whole sector.
    intro hok
    have hended := outcome_eq_ok_iff.1 hok
    rcases hcases with ⟨descriptor, bytes, hsector, hread⟩ |
      ⟨_, _, place, hsector, hplace, hfirst⟩ | ⟨failure, hrefused⟩
    · exact ⟨descriptor, bytes, hsector, hsector.length, congrArg Prod.snd hread⟩
    · obtain ⟨fault, hstopped⟩ := hsector.exists_transfer_of_firstRefusal hplace hfirst
      exact absurd ((congrArg Prod.fst hstopped).symm.trans hended) (by simp)
    · exact absurd ((congrArg Prod.fst hrefused).symm.trans hended) (by simp)
  · -- One that memory refuses has stored the bytes before the refusal.
    intro descriptor bytes place hsector hplace hfirst
    obtain ⟨fault, hstopped⟩ := hsector.exists_transfer_of_firstRefusal hplace hfirst
    rw [hstopped]
    exact ⟨rfl, rfl⟩
  · -- One that fails for another reason has stored nothing.
    intro hfailed hnone
    rcases hcases with ⟨descriptor, bytes, hsector, hread⟩ | hstopped | ⟨failure, hrefused⟩
    · rw [hread] at hfailed
      exact absurd rfl hfailed
    · exact absurd hstopped hnone
    · rw [hrefused]
  · -- Outside working storage nothing is ever stored.
    intro hnone address hregion
    simp only [hfiles hnone]
    exact hworking.fetch_of_region hregion

/-- A host with an image of one sector. -/
def sectorHost : Host := .ofContents [(["A.DSK"], .regular 0)] [.ofBytes (Array.replicate 128 7)]

/-- A controller with the image in its first drive and a descriptor latched. -/
def sectorController : Controller :=
  { volumesDirectory := ⟨""⟩, drives := { first := some ⟨"A.DSK"⟩ }, latch := .pending 20 }

/-- Sixteen bytes of program storage and 64 of working storage, of which one is refused.  The
descriptor lies in its own window, which begins in program storage and ends behind all storage. -/
def straddledMemory : Memory :=
  .ofStores (.zeroed 16)
    (.faulty ((Content.ofBytes #[0, 0, 0, 0, 0, 1, 8, 0]).resize 64) [] [(10, 11)]) true

/-- The read overwrites its descriptor and is stopped behind it. -/
theorem readsAsBus_stopped :
    (∀ low, sectorController.latch ≠ .collecting low) ∧
      (0x20 : UInt8).toNat / 16 = Direction.read.code ∧
      (sectorController.output straddledMemory sectorHost 0x20).value.1.status = .dma ∧
      (sectorController.output straddledMemory sectorHost 0x20).value.2.1.fetch sectorHost 21 =
        .ok 7 ∧
      ReadsAsBus sectorController straddledMemory sectorHost ((0x20 : UInt8).toNat % 16)
        (sectorController.output straddledMemory sectorHost 0x20).value := by
  have hready : ∀ low, sectorController.latch ≠ .collecting low := by
    simp [sectorController]
  have hasks : (0x20 : UInt8).toNat / 16 = Direction.read.code := by decide
  exact ⟨hready, hasks, by decide +kernel, by decide +kernel,
    readsAsBus hready hasks straddledMemory sectorHost⟩

end Disk

end Backplane
