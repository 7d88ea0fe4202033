import Backplane.Proofs.Disk.ByteStream
import Backplane.Proofs.Disk.Transfer
import Backplane.Proofs.Memory.Blocks

/-!
# What the status register shows

A transfer can fail for a dozen causes, several of them at once, and the status register shows one.
Which one it shows is fixed by an order of the causes: `causes` lists them, each with the status
that reports it, and `status_of_transfer` says that the register shows the first that applies, or
success if none does.

The list is about the machine as it was when the command came: what the drives held, what the bus
would have read at the latched address, what the host would have answered, and which devices would
have refused a byte.  So nothing of the transfer itself is needed to read it, and in particular a
descriptor that is changed after it was latched counts as changed.

The list is put together from the causes of each stage, and each stage is a function of the
transfer: what a stage shows is the first of its own causes (`first_openSector`,
`first_readIntoMemory`, `first_writeFromMemory`), and stages follow one another as lists do
(`First.append`, `First.pass`).

## Two kinds of order

The list has one cause for each condition that the transfer looks at, and the conditions of the
descriptor come before those of the image although they are found in memory: a descriptor with a
defect is reported even if the drive is empty.  Within a cause it does not matter which of several
addresses refuses, or why an image does not open, because the status is the same; so a cause says
that there is one and not which.

`First` is a relation and not a function, because whether a cause applies is not decided by
computing.  It is functional all the same: a list has exactly one first cause, or none.

## What is not shown

Two causes can share a status.  An empty drive and an image that does not open both show that there
is no disk, and the latch, the descriptor and the window all show a failed access to memory.  Which
of them it was can be found in the log, but not in the register.
-/

namespace Backplane

namespace Disk

/-! ## Causes in order -/

/-- Something that can keep a transfer from ending well, and the status that reports it.  Whether it
applies is a statement about the machine and the host when the command comes, and not about anything
the transfer finds out on the way. -/
structure Cause where
  applies : Prop
  status : Status

/-- The status of the first cause that applies, if one does.  The causes behind it may apply or not,
and those before it do not. -/
inductive First : List Cause → Option Status → Prop
  | nothing : First [] none
  | here {cause : Cause} (applies : cause.applies) (later : List Cause) :
    First (cause :: later) (some cause.status)
  | later {cause : Cause} {later : List Cause} {shown : Option Status}
    (passes : ¬cause.applies) (first : First later shown) : First (cause :: later) shown

/-- A cause hides all that come after it. -/
theorem First.append {causes : List Cause} {status : Status} (h : First causes (some status))
    (later : List Cause) : First (causes ++ later) (some status) := by
  generalize hshown : some status = shown at h
  induction h with
  | nothing => exact absurd hshown (by simp)
  | here applies rest => exact .here applies (rest ++ later)
  | later passes _ ih => exact .later passes (ih hshown)

/-- Causes that do not apply leave it to those after them. -/
theorem First.pass {causes later : List Cause} {shown : Option Status}
    (h : First causes none) (hlater : First later shown) : First (causes ++ later) shown := by
  generalize hnone : none = passed at h
  induction h with
  | nothing => exact hlater
  | here => exact absurd hnone (by simp)
  | later passes _ ih => exact .later passes (ih hnone)

/-! ## The causes of a transfer -/

/-- The descriptor that lies at an address, as the bus reads it. -/
def Descriptor.readAt (memory : Memory) (host : Host) (address : UInt16) : Descriptor where
  track := (memory.read host address).value
  sector := (memory.read host (address + 1)).value
  window := wordOfBytes (memory.read host (address + 2)).value
    (memory.read host (address + 3)).value

section Causes

variable (controller : Controller) (memory : Memory) (host : Host) (direction : Direction)
  (number : Nat) (descriptor : Descriptor)

/-- The drive holds an image, and the image opens. -/
def Opens (node : Node) : Prop :=
  ∃ path, controller.image? number = some path ∧ Image.openFor host path direction = .ok node

/-- What can be wrong with the descriptor. -/
def defectCauses : List Cause :=
  [⟨77 ≤ descriptor.track.toNat, .track⟩,
    ⟨descriptor.sector.toNat = 0 ∨ 26 < descriptor.sector.toNat, .sector⟩,
    ⟨0x10000 < descriptor.window.toNat + 128, .dmaAddress⟩]

/-- What can keep the image from being open at the sector.  An image whose length the host does not
tell counts as one that is too short. -/
def imageCauses : List Cause :=
  [⟨controller.image? number = none, .noDisk⟩,
    ⟨∃ path fault, controller.image? number = some path ∧
      Image.openFor host path direction = .error fault, .noDisk⟩,
    ⟨∃ node, Opens controller host direction number node ∧
      ∀ length, host.measure node = .ok length → length < descriptor.offset, .seek⟩]

/-- What can keep a sector from being read into memory. -/
def readCauses : List Cause :=
  [⟨∃ node fault, Opens controller host .read number node ∧
      host.read node descriptor.offset 128 = .error fault, .read⟩,
    ⟨∃ i < 128, memory.RefusesStore host (descriptor.window + UInt16.ofNat i), .dma⟩]

/-- What can keep a sector from being written from memory. -/
def writeCauses : List Cause :=
  [⟨∃ i < 128, memory.RefusesLoad host (descriptor.window + UInt16.ofNat i), .dma⟩,
    ⟨∃ node fault, Opens controller host .write number node ∧
      host.write node descriptor.offset (memory.busBytes host descriptor.window 128) =
        .error fault, .write⟩]

/-- What can keep a sector from being moved. -/
def moveCauses : List Cause :=
  match direction with
  | .read => readCauses controller memory host number descriptor
  | .write => writeCauses controller memory host number descriptor

/-- All that can keep a transfer from ending well, the causes that hide others first: the number of
the drive, the latch, the bytes of the descriptor, its defects, the image, and what is moved at
last.  Without a latched address there is no descriptor, and the list ends there. -/
def causes : List Cause :=
  ⟨2 ≤ number, .disk⟩ ::
    match controller.latch.address? with
    | none => [⟨True, .dma⟩]
    | some address =>
      ⟨∃ i < 4, memory.RefusesLoad host (address + UInt16.ofNat i), .dma⟩ ::
        (defectCauses (.readAt memory host address) ++
          imageCauses controller host direction number (.readAt memory host address) ++
          moveCauses controller memory host direction number (.readAt memory host address))

end Causes

/-- How the status register reports a failure, if there was one. -/
def failureStatus? {α : Type} : Except TransferFailure α → Option Status
  | .ok _ => none
  | .error failure => some failure.status

variable {controller : Controller} {memory : Memory} {host : Host} {direction : Direction}
  {number : Nat} {descriptor : Descriptor} {path : Path} {node : Node}

theorem outcome_eq_getD (result : Except TransferFailure Unit) :
    Controller.outcome result = (failureStatus? result).getD .ok := by
  cases result <;> rfl

/-! ## The stages -/

/-- A descriptor that can be loaded is the one that the bus reads. -/
theorem ofBytes_eq_readAt {address : UInt16} {bytes : List UInt8}
    (h : (memory.loadBlock host address descriptorSize).value = .ok bytes) :
    Descriptor.ofBytes bytes = .readAt memory host address := by
  rw [Memory.eq_busBytes_of_loadBlock h]
  simp [Descriptor.ofBytes, Descriptor.readAt, Memory.busBytes, descriptorSize, List.range_succ]

theorem first_defect (descriptor : Descriptor) :
    First (defectCauses descriptor) (descriptor.defect?.map Descriptor.Defect.status) := by
  have hzero : descriptor.sector.toNat < 1 ↔ descriptor.sector.toNat = 0 := Nat.lt_one_iff
  unfold Descriptor.defect? tracks sectorsPerTrack sectorSize
  simp only [hzero]
  by_cases htrack : 77 ≤ descriptor.track.toNat
  · rw [if_pos htrack]
    exact .here htrack _
  rw [if_neg htrack]
  refine .later htrack ?_
  by_cases hsector : descriptor.sector.toNat = 0 ∨ 26 < descriptor.sector.toNat
  · rw [if_pos hsector]
    exact .here hsector _
  rw [if_neg hsector]
  refine .later hsector ?_
  by_cases hwindow : 0x10000 < descriptor.window.toNat + 128
  · rw [if_pos hwindow]
    exact .here hwindow _
  · rw [if_neg hwindow]
    exact .later hwindow .nothing

theorem opens_iff (hpath : controller.image? number = some path) :
    Opens controller host direction number node ↔ Image.openFor host path direction = .ok node := by
  simp [Opens, hpath]

theorem Opens.unique {other : Node} (h : Opens controller host direction number node)
    (h' : Opens controller host direction number other) : other = node := by
  obtain ⟨path, hpath, hopen⟩ := h
  exact Except.ok.inj (((opens_iff hpath).1 h').symm.trans hopen)

/-- What the open image does not fail at, no image that is open in its place fails at. -/
theorem Opens.not_fails {α : Type} {access : Node → Except Fault α} {result : α}
    (h : Opens controller host direction number node) (hok : access node = .ok result) :
    ¬∃ node fault, Opens controller host direction number node ∧ access node = .error fault := by
  rintro ⟨other, fault, hother, hfault⟩
  obtain rfl := h.unique hother
  exact absurd (hok.symm.trans hfault) (by simp)

theorem status_of_openFor {fault : ImageFault}
    (h : Image.openFor host path direction = .error fault) : fault.status = .noDisk := by
  unfold Image.openFor at h
  dsimp only at h
  split at h
  · obtain rfl := Except.error.inj h
    rfl
  · exact absurd h (by simp)

/-- A position is not taken up only if the file is not known to reach it. -/
theorem of_seekFault? {fault : ImageFault}
    (h : Image.seekFault? host node descriptor.offset = some fault) :
    fault.status = .seek ∧
      ∀ length, host.measure node = .ok length → length < descriptor.offset := by
  unfold Image.seekFault? at h
  cases hmeasure : host.measure node with
  | error refusal =>
    simp only [hmeasure, Option.some.injEq] at h
    exact ⟨h ▸ rfl, fun length hlength => absurd hlength (by simp)⟩
  | ok length =>
    simp only [hmeasure] at h
    split at h
    · rename_i hlt
      refine ⟨Option.some.inj h ▸ rfl, ?_⟩
      intro told htold
      exact Except.ok.inj htold ▸ hlt
    · exact absurd h (by simp)

/-- With a sound descriptor only the image counts. -/
theorem first_image {drive : Drive} (hdrive : Drive.ofNumber? number = some drive)
    (hsound : descriptor.defect? = none) :
    First (imageCauses controller host direction number descriptor)
      (failureStatus? (openSector controller.drives host drive direction descriptor)) := by
  have himage : controller.image? number = controller.drives.get drive := by
    rw [Controller.image?, hdrive, Option.bind_some]
  cases hmounted : controller.drives.get drive with
  | none =>
    -- No disk is mounted.
    rw [openSector, hsound, hmounted]
    exact .here (himage.trans hmounted) _
  | some path =>
    have hpath := himage.trans hmounted
    simp only [openSector, hsound, hmounted, Image.openAt]
    refine .later (by simp [hpath]) ?_
    cases hopen : Image.openFor host path direction with
    | error fault =>
      -- The image cannot be opened.
      have hstatus : failureStatus? (.error (.image path fault) : Except _ (Path × Node)) =
          some .noDisk := congrArg some (status_of_openFor hopen)
      rw [hstatus]
      apply First.here
      exact ⟨path, fault, hpath, hopen⟩
    | ok node =>
      have hopens := (opens_iff hpath).2 hopen
      have hno : ¬∃ path fault, controller.image? number = some path ∧
          Image.openFor host path direction = .error fault := by
        rintro ⟨other, fault, hother, hfault⟩
        obtain rfl := Option.some.inj (hpath.symm.trans hother)
        exact absurd (hopen.symm.trans hfault) (by simp)
      refine .later hno ?_
      dsimp only
      cases hseek : Image.seekFault? host node descriptor.offset with
      | some fault =>
        -- It is shorter than the offset, or cannot even be measured.
        obtain ⟨hstatus, hshort⟩ := of_seekFault? hseek
        have hshown : failureStatus? (.error (.image path fault) : Except _ (Path × Node)) =
            some .seek := congrArg some hstatus
        rw [hshown]
        apply First.here
        exact ⟨node, hopens, hshort⟩
      | none =>
        -- The sector begins within the image.
        obtain ⟨hmeasured, hwithin⟩ := Image.seekFault?_eq_none_iff.1 hseek
        refine .later ?_ .nothing
        rintro ⟨other, hother, hshort⟩
        obtain rfl := hopens.unique hother
        have hbeyond := hshort _ (Host.measure_eq_ok_iff.2 ⟨hmeasured, rfl⟩)
        omega

theorem first_openSector {drive : Drive} (hdrive : Drive.ofNumber? number = some drive)
    (controller : Controller) (host : Host) (direction : Direction) (descriptor : Descriptor) :
    First (defectCauses descriptor ++ imageCauses controller host direction number descriptor)
      (failureStatus? (openSector controller.drives host drive direction descriptor)) := by
  have hdefects := first_defect descriptor
  cases hdefect : descriptor.defect? with
  | some defect =>
    rw [hdefect] at hdefects
    rw [openSector, hdefect]
    exact hdefects.append _
  | none =>
    rw [hdefect] at hdefects
    exact hdefects.pass (first_image hdrive hdefect)

/-- The image that is open at the end of this stage is the one in the drive. -/
theorem opens_of_openSector {drive : Drive} (hdrive : Drive.ofNumber? number = some drive)
    (h : openSector controller.drives host drive direction descriptor = .ok (path, node)) :
    Opens controller host direction number node := by
  obtain ⟨-, hmounted, hopened⟩ := openSector_eq_ok_iff.1 h
  refine ⟨path, ?_, (Image.openAt_eq_ok_iff.1 hopened).1⟩
  rw [Controller.image?, hdrive, Option.bind_some, hmounted]

theorem first_readIntoMemory (memory : Memory) (descriptor : Descriptor)
    (hopens : Opens controller host .read number node) (path : Path) :
    First (readCauses controller memory host number descriptor)
      (failureStatus? (readIntoMemory memory host path node descriptor).value.1) := by
  unfold readIntoMemory
  cases hread : host.read node descriptor.offset 128 with
  | error fault =>
    -- The sector cannot be read.
    have hsector : Image.readSector host node descriptor.offset = .error (.reading fault) := by
      simp only [Image.readSector, sectorSize, hread]
    rw [hsector]
    apply First.here
    exact ⟨node, fault, hopens, hread⟩
  | ok bytes =>
    -- It can, and its bytes are stored until one is refused.
    have hsector := Image.readSector_eq_ok_iff.2 hread
    have hlength : bytes.length = 128 := Image.length_readSector hsector
    refine .later (hopens.not_fails hread) ?_
    rw [hsector]
    simp only [Logged.value_bind]
    by_cases hstores : ∃ i < 128,
        memory.RefusesStore host (descriptor.window + UInt16.ofNat i)
    · obtain ⟨place, hplace, hfirst⟩ := Memory.exists_firstRefusal hstores
      obtain ⟨fault, hstored⟩ :=
        Memory.exists_storeBlock_of_firstRefusal (hlength.symm ▸ hplace) hfirst
      rw [hstored]
      exact .here hstores _
    · have hstored := Memory.value_storeBlock_of_taken fun i hi hrefuses =>
        hstores ⟨i, hlength ▸ hi, hrefuses⟩
      rw [hstored]
      exact .later hstores .nothing

theorem first_writeFromMemory (memory : Memory) (descriptor : Descriptor)
    (hopens : Opens controller host .write number node) (path : Path) :
    First (writeCauses controller memory host number descriptor)
      (failureStatus? (writeFromMemory memory host path node descriptor).value) := by
  unfold writeFromMemory
  simp only [Logged.value_bind, sectorSize]
  by_cases hloads : ∃ i < 128, memory.RefusesLoad host (descriptor.window + UInt16.ofNat i)
  · obtain ⟨failure, hload⟩ := Memory.exists_loadBlock_of_refused hloads
    rw [hload]
    exact .here hloads _
  · have hload := Memory.value_loadBlock_of_given fun i hi hrefuses => hloads ⟨i, hi, hrefuses⟩
    rw [hload]
    refine .later hloads ?_
    simp only [Image.writeSector]
    cases hwrite : host.write node descriptor.offset
        (memory.busBytes host descriptor.window 128) with
    | error fault =>
      apply First.here
      exact ⟨node, fault, hopens, hwrite⟩
    | ok after =>
      refine .later ?_ .nothing
      exact hopens.not_fails hwrite

/-! ## The transfer -/

/-- Once the descriptor is known, the sector and its move are what can fail. -/
theorem first_transfer_of_fetched {drive : Drive} (hdrive : Drive.ofNumber? number = some drive)
    (hfetched : (fetchDescriptor memory host controller.latch.address?).value = .ok descriptor) :
    First (defectCauses descriptor ++
        imageCauses controller host direction number descriptor ++
        moveCauses controller memory host direction number descriptor)
      (failureStatus? (transfer controller.drives controller.latch.address? direction number
        memory host).value.1) := by
  have hsector := first_openSector hdrive controller host direction descriptor
  simp only [transfer, hdrive, Logged.value_bind, hfetched]
  cases hopened : openSector controller.drives host drive direction descriptor with
  | error failure =>
    -- The descriptor is not sound, or the sector cannot be opened.
    rw [hopened] at hsector
    exact hsector.append _
  | ok opened =>
    -- What is left to fail is the move, in either direction.
    obtain ⟨path, node⟩ := opened
    have hopens := opens_of_openSector hdrive hopened
    rw [hopened] at hsector
    refine hsector.pass ?_
    cases direction with
    | read =>
      have hread := first_readIntoMemory memory descriptor hopens path
      simp only [Logged.value_bind]
      rcases hmoved : (readIntoMemory memory host path node descriptor).value with
        ⟨failure | _, after, hostAfter⟩
      · rw [hmoved] at hread
        exact hread
      · rw [hmoved] at hread
        exact hread
    | write =>
      have hwrite := first_writeFromMemory memory descriptor hopens path
      simp only [Logged.value_bind]
      rcases hmoved : (writeFromMemory memory host path node descriptor).value with failure | after
      · rw [hmoved] at hwrite
        exact hwrite
      · rw [hmoved] at hwrite
        exact hwrite

/-- A transfer ends with the first of its causes, or well. -/
theorem first_transfer (controller : Controller) (memory : Memory) (host : Host)
    (direction : Direction) (number : Nat) :
    First (causes controller memory host direction number)
      (failureStatus? (transfer controller.drives controller.latch.address? direction number
        memory host).value.1) := by
  unfold causes
  cases hdrive : Drive.ofNumber? number with
  | none =>
    -- There is no such drive.
    rw [transfer, hdrive]
    exact .here (Drive.ofNumber?_eq_none_iff.1 hdrive) _
  | some drive =>
    have hnumber : ¬2 ≤ number := by
      rw [← Drive.ofNumber?_eq_none_iff, hdrive]
      simp
    refine .later hnumber ?_
    cases hlatch : controller.latch.address? with
    | none =>
      -- No descriptor is latched.
      rw [transfer, hdrive]
      exact .here trivial _
    | some address =>
      by_cases hloads : ∃ i < 4, memory.RefusesLoad host (address + UInt16.ofNat i)
      · -- One of the four bytes of the descriptor is not given.
        obtain ⟨failure, hload⟩ := Memory.exists_loadBlock_of_refused hloads
        have hended : (transfer controller.drives (some address) direction number memory
            host).value.1 = .error (.descriptorLoad failure.1 failure.2) := by
          simp only [transfer, hdrive, fetchDescriptor, descriptorSize, Logged.value_bind, hload,
            Logged.value_pure]
        rw [hended]
        exact .here hloads _
      · -- All are given, and they are the descriptor that the causes speak of.
        have hload := Memory.value_loadBlock_of_given fun i hi hrefuses =>
          hloads ⟨i, hi, hrefuses⟩
        have hfetched : (fetchDescriptor memory host controller.latch.address?).value =
            .ok (.readAt memory host address) := by
          rw [hlatch, ← ofBytes_eq_readAt hload]
          exact fetchDescriptor_eq_ok_iff.2 ⟨address, _, rfl, hload, rfl⟩
        refine .later hloads ?_
        rw [← hlatch]
        exact first_transfer_of_fetched hdrive hfetched

/-- Whatever is wrong, and however much of it, the status register shows the first of the causes
that apply when the command comes, and success if none does.  This holds of any memory, whichever
devices are behind it, of any host, and of any byte whose high half asks for a transfer, as long as
the byte is not taken for a part of an address. -/
theorem status_of_transfer {controller : Controller} {direction : Direction} {value : UInt8}
    (hready : ∀ low, controller.latch ≠ .collecting low)
    (hasks : value.toNat / 16 = direction.code) (memory : Memory) (host : Host) :
    ∃ shown, First (causes controller memory host direction (value.toNat % 16)) shown ∧
      (controller.output memory host value).value.1.status = shown.getD .ok := by
  refine ⟨_, first_transfer controller memory host direction (value.toNat % 16), ?_⟩
  rw [value_output_of_transfer hready hasks]
  exact outcome_eq_getD _

/-- A controller with empty drives, and a descriptor at the top of the address space that wraps. -/
def wrappedController : Controller := { volumesDirectory := ⟨"D"⟩, latch := .pending 0xFFFE }

/-- Sixteen bytes of working storage that refuse to be stored. -/
def refusingMemory : Memory := .ofStores (.zeroed 0) (.faulty (.zeros 16) [] [(0, 16)]) true

/-- The drive is empty and the window takes no byte, but the track hides both. -/
theorem status_of_transfer_wrapped :
    (∀ low, wrappedController.latch ≠ .collecting low) ∧
      (0x20 : UInt8).toNat / 16 = Direction.read.code ∧
      (wrappedController.output refusingMemory {} 0x20).value.1.status = .track ∧
      ∃ shown, First (causes wrappedController refusingMemory {} .read
          ((0x20 : UInt8).toNat % 16)) shown ∧
        (wrappedController.output refusingMemory {} 0x20).value.1.status = shown.getD .ok := by
  have hready : ∀ low, wrappedController.latch ≠ .collecting low := by
    simp [wrappedController]
  have hasks : (0x20 : UInt8).toNat / 16 = Direction.read.code := by decide
  exact ⟨hready, hasks, by decide +kernel, status_of_transfer hready hasks refusingMemory {}⟩

end Disk

end Backplane
