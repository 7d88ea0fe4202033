import Backplane.Proofs.Disk.Completed

/-!
# Writes as a whole

A write replaces a sector of the image or changes nothing at all.  The image is open and in position
before memory is asked for its first byte, so there is much that can still fail then; but memory is
read to the last byte before the image is touched, and the image takes the bytes in one step
(`write_cases`).

`writesWhole` spells this out.  After a write that ended well the sector in the image is what memory
holds in the window, byte by byte, and every other byte of the image and every other file is what it
was (`SectorReplaced`).  After any other write no file has changed.  Memory, drives and latch never
change, and as long as no store keeps its bytes in the image, neither does what memory holds.

The position lies in the image or at its end, so a write never fills a gap: a byte outside the
sector that is there afterwards was there before.  The host is sound, so the image that was opened
is a file with content, and what is written to it can be read back.

## Hypotheses

The host is sound, which is to say that paths lead to files that are there.  Nothing is assumed
about what it refuses.  A write that the host refuses has left no part of its bytes behind, as is so
for every access (`Backplane.Host.Tree`), and then the register shows that the sector could not be
written.
-/

namespace Backplane

namespace Disk

/-- A sector of a file was replaced by what memory holds in a window. -/
structure SectorReplaced (memory : Memory) (host : Host) (descriptor : Descriptor) (file : Nat)
    (after : Host) : Prop where
  /-- The sector is what memory gives to a transfer, and to the bus. -/
  sector : ∀ i < 128, ∃ value,
    (memory.load host (descriptor.window + UInt16.ofNat i)).value = .ok value ∧
      (memory.read host (descriptor.window + UInt16.ofNat i)).value = value ∧
      (after.content file).get? (descriptor.offset + i) = some value
  /-- No other byte of the file has changed, and none has been added. -/
  rest : ∀ i, ¬(descriptor.offset ≤ i ∧ i < descriptor.offset + 128) →
    (after.content file).get? i = (host.content file).get? i
  /-- No other file has changed, and no path. -/
  files : Host.Agree (fun other => other = file) host after

/-- A write replaces the sector, or it changes no file. -/
structure WritesWhole (controller : Controller) (memory : Memory) (host : Host) (number : Nat)
    (after : Controller × Memory × Host) : Prop where
  ok : after.1.status = .ok → ∃ descriptor path file,
    Selects controller.drives controller.latch.address? .write number memory host descriptor path
      (.regular file) ∧
    SectorReplaced memory host descriptor file after.2.2
  failed : after.1.status ≠ .ok → after.2.2 = host
  /-- Memory keeps its bytes, unless they are in a file. -/
  keepsMemory : after.2.1 = memory
  /-- Stores that are not kept in the image hold what they held. -/
  holds : (∀ path, controller.image? number = some path → ∀ file,
      memory.program.file? = some file ∨ memory.working.file? = some file →
        host.find path ≠ .ok (.regular file)) →
    ∀ address, memory.fetch after.2.2 address = memory.fetch host address
  /-- Drives and latch stay. -/
  keepsController : after.1 = { controller with status := after.1.status }

variable {controller : Controller} {memory : Memory} {host : Host} {number file : Nat}
  {descriptor : Descriptor} {path : Path} {bytes : List UInt8}

/-- A write takes all bytes from memory and puts them in place in one step, or does nothing. -/
theorem write_cases (controller : Controller) (memory : Memory) (host : Host) (number : Nat) :
    (∃ descriptor path file bytes,
      Selects controller.drives controller.latch.address? .write number memory host descriptor path
        (.regular file) ∧
      (memory.loadBlock host descriptor.window sectorSize).value = .ok bytes ∧
      (transfer controller.drives controller.latch.address? .write number memory host).value =
        (.ok (), memory, host.writeInto (.regular file) descriptor.offset bytes)) ∨
    ∃ failure,
      (transfer controller.drives controller.latch.address? .write number memory host).value =
        (.error failure, memory, host) := by
  have hcases := transferred controller.drives controller.latch.address? .write number memory host
  generalize
    (transfer controller.drives controller.latch.address? .write number memory host).value = ended
    at hcases
  cases hcases with
  | refused failure => exact .inr ⟨failure, rfl⟩
  | stopped _ _ _ _ _ _ reads => exact absurd reads (by simp)
  | read _ _ _ _ reads => exact absurd reads (by simp)
  | wrote descriptor path node bytes after writes selects loaded sector =>
    obtain ⟨file, rfl, rfl⟩ := Image.writeSector_eq_ok sector
    exact .inl ⟨descriptor, path, file, bytes, selects, loaded, rfl⟩

/-- What a write that ended well has done to the image. -/
theorem sectorReplaced_of_loaded (hsound : host.Sound)
    (hselects : Selects controller.drives controller.latch.address? .write number memory host
      descriptor path (.regular file))
    (hload : (memory.loadBlock host descriptor.window sectorSize).value = .ok bytes) :
    SectorReplaced memory host descriptor file
      (host.writeInto (.regular file) descriptor.offset bytes) := by
  obtain ⟨hlength, hbytes⟩ := Memory.loadBlock_eq_ok hload
  obtain ⟨hfind, hoffset⟩ := Image.find_of_openAt hselects.opened
  have hlength : bytes.length = 128 := hlength
  -- The sector starts within the image or at its end, so no gap is filled.
  have hget (i : Nat) :
      ((host.writeInto (.regular file) descriptor.offset bytes).content file).get? i =
        if descriptor.offset ≤ i ∧ i < descriptor.offset + 128
        then bytes[i - descriptor.offset]? else (host.content file).get? i := by
    rw [Host.content_writeInto_self _ _ (hsound.lt_of_find hfind),
      Content.get?_splice_of_le _ hoffset, hlength]
  have hagree := host.agree_writeInto (.regular file) descriptor.offset bytes
  refine ⟨?_, ?_, hagree.mono fun other hother => (Node.regular.inj hother).symm⟩
  · -- In the sector there is what memory gave.
    intro i hi
    rw [← hlength] at hi
    refine ⟨bytes[i], hbytes i hi, ?_, ?_⟩
    · rw [Memory.value_read, hbytes i hi]
    · rw [hget, if_pos (by omega), Nat.add_sub_cancel_left, List.getElem?_eq_getElem hi]
  · -- Outside it there is what there was.
    intro i hout
    rw [hget, if_neg hout]

/-- A write replaces the sector of the image by what memory holds in the window, or it changes no
file.  Memory, drives and latch are what they were in both cases. -/
theorem writesWhole {controller : Controller} {value : UInt8}
    (hready : ∀ low, controller.latch ≠ .collecting low)
    (hasks : value.toNat / 16 = Direction.write.code) (memory : Memory) {host : Host}
    (hsound : host.Sound) :
    WritesWhole controller memory host (value.toNat % 16)
      (controller.output memory host value).value := by
  rw [value_output_of_transfer hready hasks]
  rcases write_cases controller memory host (value.toNat % 16) with
    ⟨descriptor, path, file, bytes, hselects, hload, hended⟩ | ⟨failure, hended⟩
  · -- The sector was written.
    rw [hended]
    have hreplaced := sectorReplaced_of_loaded hsound hselects hload
    refine ⟨fun _ => ⟨descriptor, path, file, hselects, hreplaced⟩, ?_, rfl, ?_, rfl⟩
    · intro hfailed
      exact absurd rfl hfailed
    · intro hapart address
      obtain ⟨drive, hdrive, hmounted⟩ := hselects.mounted
      have himage : controller.image? (value.toNat % 16) = some path := by
        rw [Controller.image?, hdrive, Option.bind_some, hmounted]
      apply Memory.fetch_of_agree hreplaced.files
      rintro other hstore rfl
      exact hapart path himage other hstore (Image.find_of_openAt hselects.opened).1
  · -- It was not, and nothing was touched.
    rw [hended]
    refine ⟨?_, fun _ => rfl, rfl, fun _ _ => rfl, rfl⟩
    intro hok
    have houtcome : Controller.outcome (.error failure) = .ok := hok
    exact absurd (outcome_eq_ok_iff.1 houtcome) (by simp)

/-- A host with an image of one sector, and a file for working storage with a descriptor of it. -/
def twoFileHost : Host :=
  .ofContents [(["A.DSK"], .regular 0), (["RAM"], .regular 1)]
    [.zeros 128, (Content.ofBytes #[0, 1, 0, 0]).resize 64]

/-- Working storage in the file beside the image. -/
def fileMemory : Memory := .ofStores (.zeroed 0) (.persistent (.regular 1) ⟨"RAM"⟩ 64) true

/-- A controller with the image in its second drive and the descriptor latched. -/
def writingController : Controller :=
  { volumesDirectory := ⟨""⟩, drives := { second := some ⟨"A.DSK"⟩ }, latch := .pending 0 }

theorem writesWhole_beside :
    (∀ low, writingController.latch ≠ .collecting low) ∧
      (0x41 : UInt8).toNat / 16 = Direction.write.code ∧ twoFileHost.Sound ∧
      (writingController.output fileMemory twoFileHost 0x41).value.1.status = .ok ∧
      WritesWhole writingController fileMemory twoFileHost ((0x41 : UInt8).toNat % 16)
        (writingController.output fileMemory twoFileHost 0x41).value := by
  have hready : ∀ low, writingController.latch ≠ .collecting low := by
    simp [writingController]
  have hasks : (0x41 : UInt8).toNat / 16 = Direction.write.code := by decide
  have hsound : twoFileHost.Sound := by decide
  exact ⟨hready, hasks, hsound, by decide +kernel, writesWhole hready hasks fileMemory hsound⟩

end Disk

end Backplane
