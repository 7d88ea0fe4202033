import Backplane.Proofs.Disk.Outcome
import Backplane.Proofs.Memory.Warnings

/-!
# Warnings of the disk controller

A transfer that ends early has failed either because of what it was asked for or because of a
device, and only the second is worth a warning.  The status does not tell which: an empty drive
shows the status of an image that does not open, and a missing descriptor that of a byte that
cannot be moved. `DeviceFails` says when it is a device, by what the machine and the host are like
when the command comes.

`failsByDevice_transfer_iff` carries that through the stages of the transfer.  The stages report
nothing themselves that counts (`quiet_transfer`), so the one warning is the one that the controller
reports at the end, and the one status too.

## Which failures are a device's

A program can ask for a drive that does not exist, forget to give an address, ask for a sector that
no disk has, or leave a drive empty.  Those are mistakes of the program, and it learns of them by
the status.  Everything else that ends a transfer is a device that does not do its part: memory that
does not give or take a byte, or an image that cannot be opened, is too short, or cannot be read or
written.

`TransferFailure.IsDevice` makes the distinction by the cause that a transfer reports, and
`DeviceFails` by the state before.  `failsByDevice_transfer_iff` says that they are the same
distinction.
-/

namespace Backplane

namespace Disk

open Logged (Quiet Tells)

/-! ## Failures of devices -/

/-- A device keeps a transfer from ending well, and nothing before it has ended the transfer: there
is such a drive, a descriptor is latched, and its bytes cannot be loaded; or they can, the
descriptor has no defect, and it is the disk in the drive that does not open, has no such sector or
cannot have it moved. -/
def DeviceFails (controller : Controller) (memory : Memory) (host : Host) (direction : Direction)
    (number : Nat) : Prop :=
  number < 2 ∧ ∃ address, controller.latch.address? = some address ∧
    ((∃ i < 4, memory.RefusesLoad host (address + UInt16.ofNat i)) ∨
      (Descriptor.readAt memory host address).defect? = none ∧ controller.image? number ≠ none ∧
        ∃ cause ∈ imageCauses controller host direction number (.readAt memory host address) ++
          moveCauses controller memory host direction number (.readAt memory host address),
          cause.applies)

/-- The failures that are a device's. -/
def TransferFailure.IsDevice : TransferFailure → Prop
  | .descriptorLoad .. | .image .. | .dmaLoad .. | .dmaStore .. => True
  | .noSuchDrive | .noDescriptor | .defect _ | .emptyDrive => False

/-- A transfer that ends with the failure of a device. -/
def FailsByDevice {α : Type} : Except TransferFailure α → Prop
  | .ok _ => False
  | .error failure => failure.IsDevice

/-- A transfer that ends well or with the failure of a device. -/
def OnlyDevices {α : Type} : Except TransferFailure α → Prop
  | .ok _ => True
  | .error failure => failure.IsDevice

variable {controller : Controller} {memory : Memory} {host : Host} {direction : Direction}
  {number : Nat} {drive : Drive} {descriptor : Descriptor} {path : Path} {node : Node}

theorem OnlyDevices.failsByDevice_iff {α : Type} {result : Except TransferFailure α}
    (h : OnlyDevices result) : FailsByDevice result ↔ failureStatus? result ≠ none := by
  cases result with
  | ok _ => exact iff_of_false id (by simp [failureStatus?])
  | error failure => exact iff_of_true h (by simp [failureStatus?])

/-- Nothing is shown just if no cause applies. -/
theorem First.eq_none_iff {causes : List Cause} {shown : Option Status} (h : First causes shown) :
    shown = none ↔ ∀ cause ∈ causes, ¬cause.applies := by
  induction h with
  | nothing => simp
  | here applies later => simp [applies]
  | later passes first ih => simp [passes, ih]

/-! ## The stages -/

theorem onlyDevices_readIntoMemory (memory : Memory) (host : Host) (path : Path) (node : Node)
    (descriptor : Descriptor) :
    OnlyDevices (readIntoMemory memory host path node descriptor).value.1 := by
  unfold readIntoMemory
  split
  · trivial
  · rw [Logged.value_bind]
    rcases (memory.storeBlock host descriptor.window _).value with ⟨_ | _, after, hostAfter⟩ <;>
      trivial

theorem onlyDevices_writeFromMemory (memory : Memory) (host : Host) (path : Path) (node : Node)
    (descriptor : Descriptor) :
    OnlyDevices (writeFromMemory memory host path node descriptor).value := by
  rw [writeFromMemory, Logged.value_bind]
  cases (memory.loadBlock host descriptor.window sectorSize).value with
  | error refused => trivial
  | ok bytes =>
    dsimp only
    split <;> trivial

section Fetched

variable (hdrive : Drive.ofNumber? number = some drive)
  (hfetched : (fetchDescriptor memory host controller.latch.address?).value = .ok descriptor)

include hdrive hfetched

theorem transfer_of_not_opened (failure : TransferFailure)
    (hopened : openSector controller.drives host drive direction descriptor = .error failure) :
    (transfer controller.drives controller.latch.address? direction number memory
      host).value.1 = .error failure := by
  simp only [transfer, hdrive, Logged.value_bind, hfetched, hopened, Logged.value_pure]

theorem onlyDevices_transfer_of_opened
    (hopened : openSector controller.drives host drive direction descriptor = .ok (path, node)) :
    OnlyDevices (transfer controller.drives controller.latch.address? direction number memory
      host).value.1 := by
  simp only [transfer, hdrive, Logged.value_bind, hfetched, hopened]
  cases direction with
  | read =>
    have hmoved := onlyDevices_readIntoMemory memory host path node descriptor
    simp only [Logged.value_bind]
    rcases hended : (readIntoMemory memory host path node descriptor).value with
      ⟨failure | _, after, hostAfter⟩
    · rw [hended] at hmoved
      exact hmoved
    · trivial
  | write =>
    have hmoved := onlyDevices_writeFromMemory memory host path node descriptor
    simp only [Logged.value_bind]
    cases hended : (writeFromMemory memory host path node descriptor).value with
    | error failure =>
      rw [hended] at hmoved
      exact hmoved
    | ok after => trivial

/-- With a sound descriptor and a disk in the drive, only a device can fail. -/
theorem onlyDevices_transfer (hsound : descriptor.defect? = none)
    (hmounted : controller.drives.get drive = some path) :
    OnlyDevices (transfer controller.drives controller.latch.address? direction number memory
      host).value.1 := by
  cases hopen : Image.openAt host path direction descriptor.offset with
  | error fault =>
    rw [transfer_of_not_opened hdrive hfetched (.image path fault)
      (by simp only [openSector, hsound, hmounted, hopen])]
    trivial
  | ok node =>
    exact onlyDevices_transfer_of_opened hdrive hfetched
      (openSector_eq_ok_iff.2 ⟨hsound, hmounted, hopen⟩)

theorem failsByDevice_transfer_of_fetched :
    FailsByDevice (transfer controller.drives controller.latch.address? direction number memory
        host).value.1 ↔
      descriptor.defect? = none ∧ controller.image? number ≠ none ∧
        ∃ cause ∈ imageCauses controller host direction number descriptor ++
          moveCauses controller memory host direction number descriptor, cause.applies := by
  have himage : controller.image? number = controller.drives.get drive := by
    rw [Controller.image?, hdrive, Option.bind_some]
  cases hdefect : descriptor.defect? with
  | some defect =>
    -- A bad descriptor is the program's fault, not a device's.
    rw [transfer_of_not_opened hdrive hfetched (.defect defect) (by rw [openSector, hdefect])]
    exact iff_of_false id (by simp)
  | none =>
    cases hmounted : controller.drives.get drive with
    | none =>
      -- So is an empty drive.
      rw [transfer_of_not_opened hdrive hfetched .emptyDrive
        (by rw [openSector, hdefect, hmounted])]
      exact iff_of_false id (by simp [himage, hmounted])
    | some path =>
      -- From here on whatever fails is a device, so it is enough to know what can fail.
      have hdefects := first_defect descriptor
      rw [hdefect, Option.map_none] at hdefects
      have hfirst := @first_transfer_of_fetched _ _ _ direction _ _ _ hdrive hfetched
      rw [(onlyDevices_transfer hdrive hfetched hdefect hmounted).failsByDevice_iff, Ne,
        hfirst.eq_none_iff, List.append_assoc]
      constructor
      · intro hsome
        obtain ⟨cause, hcause⟩ := not_forall.1 hsome
        obtain ⟨hmem, happlies⟩ := Classical.not_imp.1 hcause
        have hlater := (List.mem_append.1 hmem).resolve_left fun hearly =>
          happlies (hdefects.eq_none_iff.1 rfl cause hearly)
        exact ⟨rfl, by simp [himage, hmounted], cause, hlater, not_not.1 happlies⟩
      · rintro ⟨-, -, cause, hmem, happlies⟩ hnone
        exact hnone cause (List.mem_append_right _ hmem) happlies

end Fetched

theorem failsByDevice_transfer_iff :
    FailsByDevice (transfer controller.drives controller.latch.address? direction number memory
        host).value.1 ↔ DeviceFails controller memory host direction number := by
  unfold DeviceFails
  cases hdrive : Drive.ofNumber? number with
  | none =>
    -- There is no such drive.
    have hnumber := Drive.ofNumber?_eq_none_iff.1 hdrive
    rw [transfer, hdrive]
    exact iff_of_false id fun h => Nat.not_lt.2 hnumber h.1
  | some drive =>
    have hnumber : number < 2 := by
      rw [← Nat.not_le, ← Drive.ofNumber?_eq_none_iff, hdrive]
      simp
    rw [and_iff_right hnumber]
    cases hlatch : controller.latch.address? with
    | none =>
      -- No descriptor is latched.
      rw [transfer, hdrive]
      exact iff_of_false id (by simp)
    | some address =>
      simp only [Option.some.injEq, exists_eq_left']
      by_cases hloads : ∃ i < 4, memory.RefusesLoad host (address + UInt16.ofNat i)
      · -- A device refused a byte of the descriptor.
        obtain ⟨failure, hload⟩ := Memory.exists_loadBlock_of_refused hloads
        have hended : (transfer controller.drives (some address) direction number memory
            host).value.1 = .error (.descriptorLoad failure.1 failure.2) := by
          simp only [transfer, hdrive, fetchDescriptor, descriptorSize, Logged.value_bind, hload,
            Logged.value_pure]
        rw [hended]
        exact iff_of_true trivial (.inl hloads)
      · -- The descriptor is known.
        have hload := Memory.value_loadBlock_of_given fun i hi hrefuses =>
          hloads ⟨i, hi, hrefuses⟩
        have hfetched : (fetchDescriptor memory host controller.latch.address?).value =
            .ok (.readAt memory host address) := by
          rw [hlatch, ← ofBytes_eq_readAt hload]
          exact fetchDescriptor_eq_ok_iff.2 ⟨address, _, rfl, hload, rfl⟩
        have htransfer := @failsByDevice_transfer_of_fetched _ _ _ direction _ _ _ hdrive hfetched
        rw [hlatch] at htransfer
        rw [htransfer, or_iff_right hloads]

/-! ## What is reported -/

theorem quiet_fetchDescriptor (memory : Memory) (host : Host) (latch : Option UInt16) :
    Quiet (fetchDescriptor memory host latch) := by
  cases latch with
  | none => exact .pure _
  | some address =>
    refine (memory.quiet_loadBlock host address descriptorSize).bind fun loaded => ?_
    cases loaded <;> exact .pure _

theorem quiet_readIntoMemory (memory : Memory) (host : Host) (path : Path) (node : Node)
    (descriptor : Descriptor) : Quiet (readIntoMemory memory host path node descriptor) := by
  unfold readIntoMemory
  split
  · exact .pure _
  · refine (memory.quiet_storeBlock host descriptor.window _).bind fun stored => ?_
    rcases stored with ⟨_ | _, after, hostAfter⟩ <;> exact .pure _

theorem quiet_writeFromMemory (memory : Memory) (host : Host) (path : Path) (node : Node)
    (descriptor : Descriptor) : Quiet (writeFromMemory memory host path node descriptor) := by
  refine (memory.quiet_loadBlock host descriptor.window sectorSize).bind fun loaded => ?_
  cases loaded with
  | error failure => exact .pure _
  | ok bytes =>
    dsimp only
    split <;> exact .pure _

theorem quiet_transfer (drives : Drives) (latch : Option UInt16) (direction : Direction)
    (number : Nat) (memory : Memory) (host : Host) :
    Quiet (transfer drives latch direction number memory host) := by
  -- A sector that was moved is reported, but not as a warning.
  have hmoved (descriptor : Descriptor) : Quiet (Logged.report (.sectorMoved descriptor)) :=
    ⟨rfl, rfl⟩
  unfold transfer
  split
  · exact .pure _
  · refine (quiet_fetchDescriptor memory host latch).bind fun fetched => ?_
    cases fetched with
    | error failure => exact .pure _
    | ok descriptor =>
      dsimp only
      split
      · exact .pure _
      · rename_i path node _
        cases direction with
        | read =>
          refine (quiet_readIntoMemory memory host path node descriptor).bind fun moved => ?_
          rcases moved with ⟨_ | _, after, hostAfter⟩
          · exact .pure _
          · exact (hmoved descriptor).bind fun _ => .pure _
        | write =>
          refine (quiet_writeFromMemory memory host path node descriptor).bind fun moved => ?_
          cases moved with
          | error failure => exact .pure _
          | ok after => exact (hmoved descriptor).bind fun _ => .pure _

/-- The end of a transfer is reported by its failure, if that is a device's, and by its status. -/
theorem tells_outcome {α : Type} (result : Except TransferFailure Unit) (a : α) :
    Tells
      (do
        Logged.report? (Controller.outcomeEvent? result)
        Logged.report (.statusSet (Controller.outcome result))
        pure a)
      (FailsByDevice result) [Controller.outcome result] := by
  rcases result with failure | _
  · cases failure with
    | noSuchDrive | noDescriptor | defect | emptyDrive =>
      exact ⟨fun hfails => hfails.elim, fun _ => ⟨rfl, rfl⟩⟩
    | descriptorLoad | image | dmaLoad | dmaStore =>
      exact ⟨fun _ => ⟨_, rfl, rfl⟩, fun hno => absurd trivial hno⟩
  · exact ⟨fun hfails => hfails.elim, fun _ => ⟨rfl, rfl⟩⟩

theorem tells_runTransfer (controller : Controller) (memory : Memory) (host : Host)
    (direction : Direction) (number : Nat) :
    Tells (controller.runTransfer memory host direction number)
      (DeviceFails controller memory host direction number)
      [(controller.runTransfer memory host direction number).value.1.status] := by
  have hstarted : Quiet (Logged.report (.transferStarted direction number)) := ⟨rfl, rfl⟩
  have hquiet := quiet_transfer controller.drives controller.latch.address? direction number memory
    host
  rw [← failsByDevice_transfer_iff]
  exact hstarted.bind_tells (hquiet.bind_tells (tells_outcome _ _))

/-! ## Bytes for the controller -/

/-- What a byte that is written to the controller reports.  It is a command, or a byte of an address
that was asked for, and the fields go through what it can be: every byte meets the condition of
exactly one of them. -/
structure ByteTells (controller : Controller) (memory : Memory) (host : Host) (value : UInt8) :
    Prop where
  /-- A byte of an address reports nothing that counts, whatever it is. -/
  address : ∀ low, controller.latch = .collecting low →
    Quiet (controller.output memory host value)
  /-- Nor does the command that asks for an address. -/
  asks : (∀ low, controller.latch ≠ .collecting low) → value.toNat / 16 = 1 →
    Quiet (controller.output memory host value)
  /-- A command that moves a sector reports the failure of a device, and always the status that the
  register shows from then on. -/
  moves : (∀ low, controller.latch ≠ .collecting low) → ∀ direction : Direction,
    value.toNat / 16 = direction.code →
    Tells (controller.output memory host value)
      (DeviceFails controller memory host direction (value.toNat % 16))
      [(controller.output memory host value).value.1.status]
  /-- An unknown command is a warning. -/
  unknown : (∀ low, controller.latch ≠ .collecting low) →
    value.toNat / 16 ≠ 1 → value.toNat / 16 ≠ 2 → value.toNat / 16 ≠ 4 →
    ∃ event, Logged.Reports (controller.output memory host value) [event] []

theorem byteTells (controller : Controller) (memory : Memory) (host : Host) (value : UInt8) :
    ByteTells controller memory host value where
  address low hlatch := by
    unfold Controller.output
    rw [hlatch]
    cases low <;> exact ⟨rfl, rfl⟩
  asks hready hasks := by
    rw [output_of_not_collecting hready, Controller.command, ofByte_eq, hasks]
    exact ⟨rfl, rfl⟩
  moves hready direction hasks := by
    have hruns : controller.output memory host value =
        controller.runTransfer memory host direction (value.toNat % 16) := by
      rw [output_of_not_collecting hready, Controller.command, ofByte_eq]
      cases direction <;> rw [hasks] <;> simp only [Direction.code, driveNumber_eq]
    rw [hruns]
    exact tells_runTransfer controller memory host direction (value.toNat % 16)
  unknown hready hasks hread hwrite := by
    have hunknown : Controller.Command.ofByte value = .unknown := by
      rw [ofByte_eq]
      split
      · exact absurd ‹_› hasks
      · exact absurd ‹_› hread
      · exact absurd ‹_› hwrite
      · rfl
    rw [output_of_not_collecting hready, Controller.command, hunknown]
    exact ⟨.unknownCommand value, rfl, rfl⟩

/-- A sound descriptor at the bottom of memory. -/
def soundMemory : Memory := .ofStores (.array ((Content.zeros 4).put 1 1)) (.zeroed 0) true

/-- An empty drive and an image that is not there show the same status, and one is a warning. -/
example :
    let reading (drives : Drives) :=
      Controller.output ⟨⟨"D"⟩, drives, .pending 0, .ok⟩ soundMemory {} 0x20
    (Event.warnings (reading {}).events).length = 0 ∧
      (Event.warnings (reading { first := some ⟨"D/A.DSK"⟩ }).events).length = 1 ∧
      (reading {}).value.1.status = .noDisk ∧
      (reading { first := some ⟨"D/A.DSK"⟩ }).value.1.status = .noDisk := by
  decide +kernel

end Disk

end Backplane
