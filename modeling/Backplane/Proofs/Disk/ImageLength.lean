import Backplane.Proofs.Disk.Completed

/-!
# The length of an image

A position past the end of an image is refused, so that no image is extended silently, and a sector
that is only partly there cannot be read.  The end of the image is a position, though, and so is
every one before it, and writing does not look for the sector it replaces.  A write whose sector
starts in the image or at its end, and does not end in it, therefore succeeds and makes the image
longer.  `keepsWithin_iff` says that this is the only transfer that changes the length of an image
or succeeds outside it; in particular no read does.

## The exception

`WritesOver` says exactly when it happens.  All of its conditions are about the state before the
command: the drive holds an image that leads to the file, a descriptor without a defect is latched,
the sector starts no later than the file ends and ends later than the file, memory gives the bytes
of the window, and the host takes them.  Then the transfer ends well, although the sector was not in
the image, and the image ends with the sector from then on.

So one sector can be written to an empty image (`not_keepsWithin_of_write`), and with it the next
one is at the end of the image, and so on: a disk can be filled that way from an empty file.  What
cannot happen is a gap, because a sector that starts behind the end is refused.
-/

namespace Backplane

namespace Disk

variable {machine : Machine} {host : Host} {operation : Operation} {direction : Direction}
  {number file : Nat} {descriptor : Descriptor}

/-- A transfer of the drive would be about this file, and about the sector of this descriptor. -/
structure Addresses (machine : Machine) (host : Host) (number file : Nat)
    (descriptor : Descriptor) : Prop where
  mounted : ∃ path, machine.controller.image? number = some path ∧
    host.find path = .ok (.regular file)
  latched : latched? machine host = some descriptor

/-- The operation leaves the length of a file as it is, and if it is about a sector of that file
that is not wholly in it, the status afterwards is not that of success. -/
def KeepsWithin (machine : Machine) (host : Host) (operation : Operation) (number file : Nat) :
    Prop :=
  ((machine.perform host operation).value.2.2.content file).length =
      (host.content file).length ∧
    ∀ descriptor, Addresses machine host number file descriptor →
      (host.content file).length < descriptor.offset + sectorSize →
      (machine.perform host operation).value.2.1.controller.status ≠ .ok

/-- The host refuses nothing that writing a sector at an offset asks of a file. -/
structure TakesSector (host : Host) (file offset : Nat) : Prop where
  opens : host.refusal? (.regular file) .openForWriting = none
  measured : host.refusal? (.regular file) .measure = none
  takes : host.refusal? (.regular file) (.write offset sectorSize) = none

/-- A write into a file, of a sector that starts in the file or at its end and does not end in it.
The host lets the file be opened and measured and takes the bytes, and memory gives them, so that
the transfer does not fail for any other reason. -/
structure WritesOver (machine : Machine) (host : Host) (direction : Direction)
    (number file : Nat) (descriptor : Descriptor) : Prop where
  writes : direction = .write
  addresses : Addresses machine host number file descriptor
  sound : descriptor.defect? = none
  starts : descriptor.offset ≤ (host.content file).length
  ends : (host.content file).length < descriptor.offset + sectorSize
  /-- Memory gives the bytes of the window. -/
  loads : ∃ bytes, (machine.memory.loadBlock host descriptor.window sectorSize).value = .ok bytes
  /-- The host takes them. -/
  taken : TakesSector host file descriptor.offset

/-- No position that a descriptor can name is near the greatest length of a file. -/
theorem offset_lt_offsetLimit (descriptor : Descriptor) : descriptor.offset < Host.offsetLimit := by
  have htrack : descriptor.track.toNat < 256 := descriptor.track.toNat_lt
  have hsector : descriptor.sector.toNat < 256 := descriptor.sector.toNat_lt
  have hmax : (256 * sectorsPerTrack + 256) * sectorSize < Host.offsetLimit := by decide
  have hproduct := Nat.mul_le_mul_right sectorsPerTrack (Nat.le_of_lt htrack)
  refine Nat.lt_of_le_of_lt (Nat.mul_le_mul_right _ ?_) hmax
  omega

/-! ## Completed transfers and the latched sector -/

/-- A completed transfer was about the file and the sector that it names. -/
theorem addresses_of_completed {completed : Completed}
    (hasks : asksFor? machine operation = some (direction, number))
    (h : completed? machine host operation = some completed) :
    completed.direction = direction ∧
      Addresses machine host number completed.file completed.descriptor := by
  obtain ⟨other, address, path, bytes, hother, haddress, hmounted, hfind, hload, hdescriptor, -⟩ :=
    completed?_eq_some_iff.1 h
  obtain ⟨hdirection, rfl⟩ := Prod.mk.inj (Option.some.inj (hasks.symm.trans hother))
  have hlatched := latched?_eq_some_iff.2 ⟨address, bytes, haddress, hload, hdescriptor⟩
  exact ⟨hdirection.symm, ⟨path, hmounted, hfind⟩, hlatched⟩

/-- A transfer that was asked for and shows success has completed. -/
theorem completed?_of_ok (hasks : asksFor? machine operation = some (direction, number))
    (haddresses : Addresses machine host number file descriptor)
    (hok : (machine.perform host operation).value.2.1.controller.status = .ok) :
    completed? machine host operation = some ⟨direction, file, descriptor⟩ := by
  obtain ⟨path, hmounted, hfind⟩ := haddresses.mounted
  obtain ⟨address, bytes, haddress, hload, hdescriptor⟩ :=
    latched?_eq_some_iff.1 haddresses.latched
  exact completed?_eq_some_iff.2
    ⟨number, address, path, bytes, hasks, haddress, hmounted, hfind, hload, hdescriptor, hok⟩

/-- A file that holds a sector is one of the host's. -/
theorem lt_of_sector_within (h : descriptor.offset + sectorSize ≤ (host.content file).length) :
    file < host.files.size := by
  by_contra hout
  have hempty : host.content file = .empty := by
    simp [Host.content, Nat.le_of_not_lt hout]
  have hlength : (Content.empty).length = 0 := rfl
  rw [hempty, hlength, sectorSize] at h
  omega

/-- The length of an image after a completed write. -/
theorem length_of_written (hfile : file < host.files.size)
    (h : completed? machine host operation = some ⟨.write, file, descriptor⟩) :
    ((machine.perform host operation).value.2.2.content file).length =
      max (host.content file).length (descriptor.offset + sectorSize) := by
  obtain ⟨bytes, -, hoffset, hloaded, hhost⟩ := exists_bytes_of_write h
  obtain ⟨hlength, -⟩ := Memory.loadBlock_eq_ok hloaded
  rw [hhost, Host.content_writeInto_self _ _ hfile, Content.length_splice_of_le _ hoffset, hlength]

/-- A host on which a write was completed has refused none of it. -/
theorem takesSector_of_written
    (h : completed? machine host operation = some ⟨.write, file, descriptor⟩) :
    TakesSector host file descriptor.offset := by
  obtain ⟨number, ended, hcases, hdone, -, -, hselected⟩ := exists_transferred_of_completed h
  cases hcases with
  | refused failure => exact absurd hdone (by simp)
  | stopped => exact absurd hdone (by simp)
  | read _ _ _ _ reads => exact absurd reads (by simp)
  | wrote found path node bytes after writes selects loaded sector =>
    obtain ⟨rfl, rfl⟩ := hselected selects
    obtain ⟨hopen, hmeasured, -⟩ := Image.openAt_eq_ok_iff.1 selects.opened
    refine ⟨?_, hmeasured, ?_⟩
    · rw [Image.openFor_of_find (Image.find_of_openFor hopen)] at hopen
      cases hfault : Image.openFault? host (.regular file) .write with
      | some fault => simp [hfault] at hopen
      | none => simpa [Image.openFault?, Image.accessFor] using hfault
    · have hmax := Nat.not_le.2 (offset_lt_offsetLimit found)
      rw [← (Memory.loadBlock_eq_ok loaded).1]
      cases hfault : host.refusal? (.regular file) (.write found.offset bytes.length) with
      | none => rfl
      | some fault =>
        simp [Image.writeSector, Host.write, Host.writeFault?, hmax, hfault] at sector

/-- A write of a sector that starts in the image or at its end succeeds as soon as memory gives the
bytes and the host takes them, wherever the sector ends. -/
theorem status_of_write (hasks : asksFor? machine operation = some (.write, number))
    (haddresses : Addresses machine host number file descriptor)
    (hsound : descriptor.defect? = none)
    (hstarts : descriptor.offset ≤ (host.content file).length) {bytes : List UInt8}
    (hloads : (machine.memory.loadBlock host descriptor.window sectorSize).value = .ok bytes)
    (htakes : TakesSector host file descriptor.offset) :
    (machine.perform host operation).value.2.1.controller.status = .ok := by
  obtain ⟨path, hmounted, hfind⟩ := haddresses.mounted
  obtain ⟨address, fetched, haddress, hload, rfl⟩ :=
    latched?_eq_some_iff.1 haddresses.latched
  obtain ⟨drive, hdrive, hget⟩ := Option.bind_eq_some_iff.1 hmounted
  -- The image opens at the offset, for it lies within the image or at its end.
  have hopened : Image.openAt host path .write (Descriptor.ofBytes fetched).offset =
      .ok (.regular file) := by
    refine Image.openAt_eq_ok_iff.2 ⟨?_, htakes.measured, hstarts⟩
    simp [Image.openFor_of_find hfind, Image.openFault?, Image.accessFor, htakes.opens]
  have hselects : Selects machine.controller.drives machine.controller.latch.address? .write number
      machine.memory host (.ofBytes fetched) path (.regular file) :=
    ⟨⟨drive, hdrive, hget⟩, ⟨address, fetched, haddress, hload, rfl⟩, hsound, hopened⟩
  -- Nothing but the offset is checked when the bytes are written.
  have hwritten : Image.writeSector host (.regular file) (Descriptor.ofBytes fetched).offset bytes =
      .ok (host.writeInto (.regular file) (Descriptor.ofBytes fetched).offset bytes) := by
    have hmax := Nat.not_le.2 (offset_lt_offsetLimit (Descriptor.ofBytes fetched))
    simp only [Image.writeSector, Host.write, Host.writeFault?, if_neg hmax,
      (Memory.loadBlock_eq_ok hloads).1, htakes.takes]
  have hended : (transfer machine.controller.drives machine.controller.latch.address? .write number
      machine.memory host).value = (.ok (), machine.memory,
        host.writeInto (.regular file) (Descriptor.ofBytes fetched).offset bytes) := by
    simp only [hselects.value_transfer_write, writeFromMemory, Logged.value_bind, hloads, hwritten,
      Logged.value_pure]
  rw [perform_of_asksFor hasks, hended]
  rfl

/-! ## Transfers that stay within the image -/

/-- On a machine whose working storage is not in the file, a transfer keeps the length of the file
and fails on sectors that are not wholly in it, unless it writes over the end of the file.  The
condition is exact: if it writes over the end, then it ends well and the file is longer. -/
theorem keepsWithin_iff (hworking : machine.memory.working.file? ≠ some file)
    (hasks : asksFor? machine operation = some (direction, number)) :
    KeepsWithin machine host operation number file ↔
      ¬ ∃ descriptor, WritesOver machine host direction number file descriptor := by
  constructor
  · -- Writing over the end ends well although the sector does not lie within the image.
    rintro ⟨-, hstatus⟩ ⟨descriptor, hover⟩
    obtain ⟨bytes, hloads⟩ := hover.loads
    obtain rfl := hover.writes
    have hok := status_of_write hasks hover.addresses hover.sound hover.starts hloads hover.taken
    exact hstatus descriptor hover.addresses hover.ends hok
  · intro hnone
    -- Every completed write has met all conditions of writing over but the last.
    have hwithin {descriptor : Descriptor}
        (hwritten : completed? machine host operation = some ⟨.write, file, descriptor⟩) :
        descriptor.offset + sectorSize ≤ (host.content file).length := by
      obtain ⟨bytes, hdefect, hoffset, hloaded, -⟩ := exists_bytes_of_write hwritten
      obtain ⟨hdirection, haddresses⟩ := addresses_of_completed hasks hwritten
      by_contra hends
      exact hnone ⟨descriptor, hdirection.symm, haddresses, hdefect, hoffset, Nat.not_le.1 hends,
        ⟨bytes, hloaded⟩, takesSector_of_written hwritten⟩
    constructor
    · by_cases hwritten : ∃ descriptor,
          completed? machine host operation = some ⟨.write, file, descriptor⟩
      · obtain ⟨descriptor, hwritten⟩ := hwritten
        have hends := hwithin hwritten
        have hlength := length_of_written (lt_of_sector_within hends) hwritten
        omega
      · have hagree := agree_perform_of_asks hasks host
        rw [hagree.content file (not_or.2 ⟨hworking, hwritten⟩)]
    · intro descriptor haddresses hends hok
      have hcompleted := completed?_of_ok hasks haddresses hok
      cases direction with
      | read =>
        obtain ⟨bytes, -, hslice, -⟩ := exists_bytes_of_read hcompleted
        have hread := ((Content.slice?_eq_some_iff _).1 hslice).1
        omega
      | write =>
        have hwritten := hwithin hcompleted
        omega

/-- A host with an empty image. -/
def emptyImageHost : Host := .ofContents [(["A.DSK"], .regular 0)] [.empty]

/-- A machine that is about to move the first sector of the image. -/
def readyMachine : Machine := latchedOn ⟨""⟩ ⟨"A.DSK"⟩

theorem keepsWithin_of_read :
    asksFor? readyMachine (.output 4 0x20) = some (.read, 0) ∧
      KeepsWithin readyMachine emptyImageHost (.output 4 0x20) 0 0 := by
  have hworking : readyMachine.memory.working.file? ≠ some 0 := by
    rw [show readyMachine.memory.working.file? = none from rfl]
    simp
  have hasks : asksFor? readyMachine (.output 4 0x20) = some (.read, 0) := by decide +kernel
  refine ⟨hasks, (keepsWithin_iff hworking hasks).2 ?_⟩
  rintro ⟨descriptor, hover⟩
  exact absurd hover.writes (by simp)

/-- The first sector is written to the empty image.  The status shows success, although the sector
was not in the image, and the image is 128 bytes longer afterwards. -/
theorem not_keepsWithin_of_write :
    asksFor? readyMachine (.output 4 0x40) = some (.write, 0) ∧
      readyMachine.memory.working.file? = none ∧
      Addresses readyMachine emptyImageHost 0 0 ⟨0, 1, 0⟩ ∧
      ¬ KeepsWithin readyMachine emptyImageHost (.output 4 0x40) 0 0 := by
  refine ⟨by decide +kernel, rfl, ⟨⟨⟨"A.DSK"⟩, rfl, by decide +kernel⟩, by decide +kernel⟩, ?_⟩
  rintro ⟨hlength, -⟩
  exact absurd hlength (by decide +kernel)

end Disk

end Backplane
