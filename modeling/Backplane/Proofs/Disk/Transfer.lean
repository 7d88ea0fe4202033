import Backplane.Disk.Transfer
import Backplane.Proofs.Content.Ranges
import Backplane.Proofs.Memory.Access

/-!
# The ways a transfer can end

A transfer either changes nothing, or it stores a sector into memory, wholly or as far as a device
lets it, or it writes one into an image.  `transferred` says so once, with everything that was
found out on the way (`Selects`), and the statements about transfers are case analyses on it.

From it: a transfer changes nothing of memory but bytes of working storage, and of the host's
files at most the one behind working storage or the image it writes to.

## What is found out first

A transfer has two halves.  In the first it finds out what to move: the drive, the descriptor at the
latched address, and an image that opens at the position of the sector.  `Selects` collects that,
and it says nothing about the direction except how the image was opened.  In the second it moves the
bytes, all of them or up to the first one that is refused.

The two halves fail in different ways, and only the second can leave anything behind.  That is why
`Transferred` has one constructor for everything that fails in the first half and lists the ends of
the second one by one, and why most of what is said about transfers needs no look at the conditions
at all.
-/

namespace Backplane

namespace Disk

/-! ## Images -/

/-- A descriptor without a defect names a sector of the disk, and a window that ends below the top
of the address space. -/
theorem Descriptor.defect?_eq_none_iff {d : Descriptor} :
    d.defect? = none ↔ d.track.toNat < tracks ∧
      (1 ≤ d.sector.toNat ∧ d.sector.toNat ≤ sectorsPerTrack) ∧
      d.window.toNat + sectorSize ≤ addressSpace := by
  have hspace : addressSpace = 0x10000 := rfl
  unfold defect?
  split
  · simp only [reduceCtorEq, false_iff]
    omega
  · split
    · simp only [reduceCtorEq, false_iff]
      omega
    · split
      · simp only [reduceCtorEq, false_iff]
        omega
      · simp only [true_iff]
        omega

namespace Image

variable {host after : Host} {path : Path} {node : Node} {direction : Direction} {offset : Nat}
  {bytes : List UInt8}

/-- What opens is what the path leads to. -/
theorem find_of_openFor (h : openFor host path direction = .ok node) :
    host.find path = .ok node := by
  cases hfind : host.find path with
  | error fault => simp [openFor_of_not_found hfind] at h
  | ok found =>
    rw [openFor_of_find hfind] at h
    cases hfault : openFault? host found direction with
    | some fault => simp [hfault] at h
    | none => simpa [hfault] using h

theorem seekFault?_eq_none_iff :
    seekFault? host node offset = none ↔
      host.refusal? node .measure = none ∧ offset ≤ host.length node := by
  unfold seekFault? Host.measure
  cases host.refusal? node .measure with
  | some fault => simp
  | none =>
    by_cases hseek : host.length node < offset
    · simp [hseek]
    · simp [hseek, Nat.le_of_not_lt hseek]

/-- An image is open at a position if it opens, can be measured, and the position lies in it or at
its end. -/
theorem openAt_eq_ok_iff :
    openAt host path direction offset = .ok node ↔
      openFor host path direction = .ok node ∧ host.refusal? node .measure = none ∧
        offset ≤ host.length node := by
  unfold openAt
  cases hfound : openFor host path direction with
  | error fault => simp
  | ok found =>
    dsimp only
    cases hseek : seekFault? host found offset with
    | some fault =>
      simp only [reduceCtorEq, Except.ok.injEq, false_iff, not_and]
      rintro rfl hmeasured hoffset
      rw [seekFault?_eq_none_iff.2 ⟨hmeasured, hoffset⟩] at hseek
      exact absurd hseek (by simp)
    | none =>
      simp only [Except.ok.injEq]
      constructor
      · rintro rfl
        exact ⟨rfl, seekFault?_eq_none_iff.1 hseek⟩
      · exact And.left

/-- An image that is open at a position is what its path leads to, and the position lies in it or
at its end. -/
theorem find_of_openAt (h : openAt host path direction offset = .ok node) :
    host.find path = .ok node ∧ offset ≤ host.length node := by
  obtain ⟨hopen, -, hoffset⟩ := openAt_eq_ok_iff.1 h
  exact ⟨find_of_openFor hopen, hoffset⟩

theorem readSector_eq_ok_iff :
    readSector host node offset = .ok bytes ↔ host.read node offset sectorSize = .ok bytes := by
  unfold readSector
  cases host.read node offset sectorSize <;> simp

/-- Reading a sector of a regular file gives its bytes, all of them. -/
theorem readSector_regular {file : Nat} (h : readSector host (.regular file) offset = .ok bytes) :
    (host.content file).slice? offset sectorSize = some bytes := by
  have hread := readSector_eq_ok_iff.1 h
  unfold Host.read at hread
  cases hfault : host.readFault? (.regular file) offset sectorSize with
  | some fault => simp [hfault] at hread
  | none =>
    cases hslice : (host.content file).slice? offset sectorSize with
    | none => simp [hfault, hslice] at hread
    | some found => simpa [hfault, hslice] using hread

/-- A sector is read whole. -/
theorem length_readSector (h : readSector host node offset = .ok bytes) :
    bytes.length = sectorSize := by
  cases node with
  | directory => simp [readSector, Host.read, Host.readFault?] at h
  | full =>
    obtain rfl : List.replicate sectorSize 0 = bytes := by
      simpa [readSector, Host.read, Host.readFault?] using h
    exact List.length_replicate
  | regular file => exact ((Content.slice?_eq_some_iff _).1 (readSector_regular h)).2.1

/-- Only a regular file takes a sector. -/
theorem writeSector_eq_ok (h : writeSector host node offset bytes = .ok after) :
    ∃ file, node = .regular file ∧ after = host.writeInto (.regular file) offset bytes := by
  unfold writeSector Host.write at h
  cases node with
  | directory => simp [Host.writeFault?] at h
  | full => simp [Host.writeFault?] at h
  | regular file =>
    cases hfault : host.writeFault? (.regular file) offset bytes.length with
    | none =>
      simp only [hfault, Except.ok.injEq] at h
      exact ⟨file, rfl, h.symm⟩
    | some fault => simp [hfault] at h

end Image

/-! ## Endings -/

/-- What a transfer finds out before it moves a byte: the descriptor and the open image.  It is
determined by the drives, the latch, memory and the host as they were when the command came, and the
descriptor is the one that was in memory then, even if the transfer is about to write over it. -/
structure Selects (drives : Drives) (latch : Option UInt16) (direction : Direction)
    (number : Nat) (memory : Memory) (host : Host) (descriptor : Descriptor) (path : Path)
    (node : Node) : Prop where
  /-- The drive is there and holds the image. -/
  mounted : ∃ drive, Drive.ofNumber? number = some drive ∧ drives.get drive = some path
  /-- The descriptor was latched and could be loaded. -/
  latched : ∃ address bytes, latch = some address ∧
    (memory.loadBlock host address descriptorSize).value = .ok bytes ∧
    descriptor = .ofBytes bytes
  sound : descriptor.defect? = none
  /-- The image could be opened at the sector. -/
  opened : Image.openAt host path direction descriptor.offset = .ok node

/-- The ways a transfer can end: with its result, the memory and the host.  Each says what is known
then, so a statement about all transfers is proved by going through them. -/
inductive Transferred (drives : Drives) (latch : Option UInt16) (direction : Direction)
    (number : Nat) (memory : Memory) (host : Host) :
    Except TransferFailure Unit × Memory × Host → Prop
  /-- Something failed before anything was changed. -/
  | refused (failure : TransferFailure) :
    Transferred drives latch direction number memory host (.error failure, memory, host)
  /-- A sector was read, and memory did not take all of it. -/
  | stopped (descriptor : Descriptor) (path : Path) (node : Node) (bytes : List UInt8)
    (address : UInt16) (fault : Fault) (reads : direction = .read)
    (selects : Selects drives latch .read number memory host descriptor path node)
    (sector : Image.readSector host node descriptor.offset = .ok bytes)
    (stored : (memory.storeBlock host descriptor.window bytes).value.1 =
      .error (address, fault)) :
    Transferred drives latch direction number memory host
      (.error (.dmaStore address fault),
        (memory.storeBlock host descriptor.window bytes).value.2)
  /-- A sector was read into memory. -/
  | read (descriptor : Descriptor) (path : Path) (node : Node) (bytes : List UInt8)
    (reads : direction = .read)
    (selects : Selects drives latch .read number memory host descriptor path node)
    (sector : Image.readSector host node descriptor.offset = .ok bytes)
    (stored : (memory.storeBlock host descriptor.window bytes).value.1 = .ok ()) :
    Transferred drives latch direction number memory host
      (.ok (), (memory.storeBlock host descriptor.window bytes).value.2)
  /-- A sector was written from memory. -/
  | wrote (descriptor : Descriptor) (path : Path) (node : Node) (bytes : List UInt8)
    (after : Host) (writes : direction = .write)
    (selects : Selects drives latch .write number memory host descriptor path node)
    (loaded : (memory.loadBlock host descriptor.window sectorSize).value = .ok bytes)
    (sector : Image.writeSector host node descriptor.offset bytes = .ok after) :
    Transferred drives latch direction number memory host (.ok (), memory, after)

variable {drives : Drives} {latch : Option UInt16} {direction : Direction} {number : Nat}
  {memory : Memory} {host : Host}

/-- What was found out is determined by the drives, the host and the bytes of the descriptor. -/
theorem Selects.eq_of_find {descriptor : Descriptor} {path path' : Path} {node : Node}
    {address : UInt16} {bytes : List UInt8} {file : Nat}
    (h : Selects drives latch direction number memory host descriptor path' node)
    (hlatch : latch = some address)
    (hmounted : (Drive.ofNumber? number).bind drives.get = some path)
    (hfind : host.find path = .ok (.regular file))
    (hload : (memory.loadBlock host address descriptorSize).value = .ok bytes) :
    descriptor = .ofBytes bytes ∧ node = .regular file := by
  obtain ⟨drive, hdrive, hget⟩ := h.mounted
  obtain ⟨address', bytes', hlatch', hload', rfl⟩ := h.latched
  rw [hdrive, Option.bind_some, hget, Option.some.injEq] at hmounted
  subst hmounted
  obtain rfl := Option.some.inj (hlatch.symm.trans hlatch')
  obtain rfl := Except.ok.inj (hload.symm.trans hload')
  have hnode := (Image.find_of_openAt h.opened).1
  exact ⟨rfl, Except.ok.inj (hnode.symm.trans hfind)⟩

theorem fetchDescriptor_eq_ok_iff {descriptor : Descriptor} :
    (fetchDescriptor memory host latch).value = .ok descriptor ↔
      ∃ address bytes, latch = some address ∧
        (memory.loadBlock host address descriptorSize).value = .ok bytes ∧
        descriptor = .ofBytes bytes := by
  cases latch with
  | none => simp [fetchDescriptor]
  | some address =>
    rw [fetchDescriptor, Logged.value_bind]
    cases hload : (memory.loadBlock host address descriptorSize).value with
    | error failure => simp [hload]
    | ok bytes => simp [hload, eq_comm]

theorem openSector_eq_ok_iff {drive : Drive} {descriptor : Descriptor} {path : Path}
    {node : Node} :
    openSector drives host drive direction descriptor = .ok (path, node) ↔
      descriptor.defect? = none ∧ drives.get drive = some path ∧
        Image.openAt host path direction descriptor.offset = .ok node := by
  unfold openSector
  cases hdefect : descriptor.defect? with
  | some defect => simp
  | none =>
    cases hmounted : drives.get drive with
    | none => simp
    | some mounted =>
      dsimp only
      cases hopen : Image.openAt host mounted direction descriptor.offset with
      | error fault =>
        simp only [reduceCtorEq, Option.some.injEq, true_and, false_iff, not_and]
        rintro rfl
        simp [hopen]
      | ok found =>
        simp only [Except.ok.injEq, Prod.mk.injEq, Option.some.injEq, true_and]
        constructor
        · rintro ⟨rfl, rfl⟩
          exact ⟨rfl, hopen⟩
        · rintro ⟨rfl, hnode⟩
          exact ⟨rfl, Except.ok.inj (hopen.symm.trans hnode)⟩

/-- Whatever has been found out when the image is open has been found out in order. -/
theorem selects_of_openSector {drive : Drive} {descriptor : Descriptor} {path : Path}
    {node : Node} (hdrive : Drive.ofNumber? number = some drive)
    (hfetched : (fetchDescriptor memory host latch).value = .ok descriptor)
    (hopened : openSector drives host drive direction descriptor = .ok (path, node)) :
    Selects drives latch direction number memory host descriptor path node := by
  obtain ⟨hsound, hmounted, hopen⟩ := openSector_eq_ok_iff.1 hopened
  exact ⟨⟨drive, hdrive, hmounted⟩, fetchDescriptor_eq_ok_iff.1 hfetched, hsound, hopen⟩

/-- What was found out is enough to move the sector. -/
theorem Selects.exists_openSector {descriptor : Descriptor} {path : Path} {node : Node}
    (h : Selects drives latch direction number memory host descriptor path node) :
    ∃ drive, Drive.ofNumber? number = some drive ∧
      (fetchDescriptor memory host latch).value = .ok descriptor ∧
      openSector drives host drive direction descriptor = .ok (path, node) := by
  obtain ⟨drive, hdrive, hmounted⟩ := h.mounted
  exact ⟨drive, hdrive, fetchDescriptor_eq_ok_iff.2 h.latched,
    openSector_eq_ok_iff.2 ⟨h.sound, hmounted, h.opened⟩⟩

theorem Selects.value_transfer_read {descriptor : Descriptor} {path : Path} {node : Node}
    (h : Selects drives latch .read number memory host descriptor path node) :
    (transfer drives latch .read number memory host).value =
      (readIntoMemory memory host path node descriptor).value := by
  obtain ⟨drive, hdrive, hfetched, hopened⟩ := h.exists_openSector
  simp only [transfer, hdrive, Logged.value_bind, hfetched, hopened]
  rcases (readIntoMemory memory host path node descriptor).value with ⟨_ | _, after, hostAfter⟩ <;>
    rfl

theorem Selects.value_transfer_write {descriptor : Descriptor} {path : Path} {node : Node}
    (h : Selects drives latch .write number memory host descriptor path node) :
    (transfer drives latch .write number memory host).value =
      match (writeFromMemory memory host path node descriptor).value with
      | .error failure => (.error failure, memory, host)
      | .ok after => (.ok (), memory, after) := by
  obtain ⟨drive, hdrive, hfetched, hopened⟩ := h.exists_openSector
  simp only [transfer, hdrive, Logged.value_bind, hfetched, hopened]
  cases (writeFromMemory memory host path node descriptor).value <;> rfl

/-- Every transfer ends in one of these ways. -/
theorem transferred (drives : Drives) (latch : Option UInt16) (direction : Direction)
    (number : Nat) (memory : Memory) (host : Host) :
    Transferred drives latch direction number memory host
      (transfer drives latch direction number memory host).value := by
  unfold transfer
  rcases hdrive : Drive.ofNumber? number with _ | drive
  · exact .refused _
  rw [Logged.value_bind]
  rcases hfetched : (fetchDescriptor memory host latch).value with failure | descriptor
  · exact .refused _
  dsimp only
  rcases hopened : openSector drives host drive direction descriptor with failure | ⟨path, node⟩
  · exact .refused _
  -- The sector is open, and what is left depends on the direction.
  have hselects := selects_of_openSector hdrive hfetched hopened
  cases direction with
  | read =>
    simp only [Logged.value_bind, readIntoMemory]
    rcases hsector : Image.readSector host node descriptor.offset with fault | bytes
    · exact .refused _
    · rcases hstored : (memory.storeBlock host descriptor.window bytes).value with
        ⟨⟨address, fault⟩ | _, after, hostAfter⟩
      · -- Memory stopped the read on its way.
        have hstopped : Transferred drives latch .read number memory host _ :=
          .stopped descriptor path node bytes address fault rfl hselects hsector (by rw [hstored])
        rw [hstored] at hstopped
        simpa only [Logged.value_bind, Logged.value_pure, hstored] using hstopped
      · -- Memory took the whole sector.
        have hread : Transferred drives latch .read number memory host _ :=
          .read descriptor path node bytes rfl hselects hsector (by rw [hstored])
        rw [hstored] at hread
        simpa only [Logged.value_bind, Logged.value_pure, hstored] using hread
  | write =>
    simp only [Logged.value_bind, writeFromMemory]
    rcases hloaded : (memory.loadBlock host descriptor.window sectorSize).value with
      ⟨address, fault⟩ | bytes
    · exact .refused _
    · rcases hsector : Image.writeSector host node descriptor.offset bytes with fault | after
      · simp only [hsector]
        exact .refused _
      · simp only [hsector]
        exact .wrote descriptor path node bytes after rfl hselects hloaded hsector

/-! ## What a transfer cannot change -/

theorem workingOnly_transfer (drives : Drives) (latch : Option UInt16) (direction : Direction)
    (number : Nat) (memory : Memory) (host : Host) :
    Memory.WorkingOnly memory
      (transfer drives latch direction number memory host).value.2.1 := by
  have hcases := transferred drives latch direction number memory host
  generalize (transfer drives latch direction number memory host).value = ended at hcases
  cases hcases with
  | refused failure => exact Memory.WorkingOnly.refl _
  | stopped => exact Memory.workingOnly_storeBlock _ _ _ _
  | read => exact Memory.workingOnly_storeBlock _ _ _ _
  | wrote => exact Memory.WorkingOnly.refl _

/-- A read touches at most the file behind working storage. -/
theorem agree_transfer_read (drives : Drives) (latch : Option UInt16) (number : Nat)
    (memory : Memory) (host : Host) :
    Host.Agree (fun file => memory.working.file? = some file) host
      (transfer drives latch .read number memory host).value.2.2 := by
  have hcases := transferred drives latch .read number memory host
  generalize (transfer drives latch .read number memory host).value = ended at hcases
  cases hcases with
  | refused failure => exact Host.Agree.refl _ _
  | stopped => exact Memory.agree_storeBlock _ _ _ _
  | read => exact Memory.agree_storeBlock _ _ _ _
  | wrote _ _ _ _ _ writes => exact absurd writes (by simp)

end Disk

end Backplane
