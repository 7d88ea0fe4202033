import Backplane.Disk.Controller
import Backplane.Proofs.Disk.Transfer
import Backplane.Proofs.Memory.Checked

/-!
# Checked transfers

A transfer computes with what it finds in memory: the position of a sector is computed from a
number that counts from one, and the addresses of the window from the first of them.  Both are
right only for a descriptor without a defect, and the defects are looked for before, in another
function.  The checked transfer looks again at every difference and every sum, and so does the
checked controller.  No byte that is written to the register makes it stop
(`Controller.checkedOutput_eq_ok`), whatever is latched, mounted and held by memory.

The descriptor itself is loaded from addresses that are meant to wrap.

## Why no check stops it

The position of a sector counts from one, and the difference is below zero for a descriptor that
asks for sector zero.  Such a descriptor has a defect, and a transfer looks for defects before it
computes the position (`checkedOffset_eq_ok`).  A window that runs past the top of the address space
is a defect too, and is found at the same time; so when the bytes are moved, the address of each of
them is an ordinary sum (`consecutive_plus`).

The checked functions are copies of those they check, written with `Checked.minus`, `Checked.plus`
and the checked accesses to memory.  Each is followed by the equation that says what it comes to,
and the equations for the stages are used to prove the one for the whole.
-/

namespace Backplane

namespace Disk

/-! ## What a descriptor asks for -/

namespace Descriptor

/-- Where the addressed sector starts in an image.  Sectors count from one, so the number must not
be zero. -/
def checkedOffset (d : Descriptor) : Checked Nat := do
  let before ← Checked.minus d.sector.toNat 1
  .ok ((d.track.toNat * sectorsPerTrack + before) * sectorSize)

variable {d : Descriptor}

theorem checkedOffset_eq_ok (h : d.defect? = none) : d.checkedOffset = .ok d.offset := by
  obtain ⟨-, ⟨hsector, -⟩, -⟩ := defect?_eq_none_iff.1 h
  simp only [checkedOffset, Checked.minus_of_le hsector, Checked.ok_bind, offset, sectorOffset]
  rw [Nat.add_sub_assoc hsector]

/-- Not every descriptor has such a place. -/
example : checkedOffset ⟨3, 0, 0x8000⟩ = .error (.belowZero 0 1) := rfl

/-- The whole window lies below the top of the address space. -/
theorem consecutive_plus (h : d.defect? = none) :
    Memory.Consecutive (Checked.plus d.window) 0 d.window sectorSize := by
  obtain ⟨-, -, hwindow⟩ := defect?_eq_none_iff.1 h
  intro i hi
  rw [Nat.zero_add]
  exact Checked.plus_of_lt (by omega)

end Descriptor

/-! ## Transfers -/

/-- Loads the descriptor from the latched address on, wrapping at the top. -/
def checkedFetchDescriptor (memory : Memory) (host : Host) (latch : Option UInt16) :
    Checked (Except TransferFailure Descriptor) :=
  match latch with
  | none => .ok (.error .noDescriptor)
  | some address => do
    match ← memory.checkedLoadBlock host (fun i => .ok (address + UInt16.ofNat i)) 0
      descriptorSize with
    | .error (address, fault) => .ok (.error (.descriptorLoad address fault))
    | .ok bytes => .ok (.ok (.ofBytes bytes))

/-- Opens the image in a drive at the position of a descriptor. -/
def checkedOpenSector (drives : Drives) (host : Host) (drive : Drive) (direction : Direction)
    (descriptor : Descriptor) : Checked (Except TransferFailure (Path × Node)) :=
  match descriptor.defect? with
  | some defect => .ok (.error (.defect defect))
  | none =>
    match drives.get drive with
    | none => .ok (.error .emptyDrive)
    | some path => do
      let offset ← descriptor.checkedOffset
      match Image.openAt host path direction offset with
      | .error fault => .ok (.error (.image path fault))
      | .ok node => .ok (.ok (path, node))

/-- Moves a sector from an open image into memory. -/
def checkedReadIntoMemory (memory : Memory) (host : Host) (path : Path) (node : Node)
    (descriptor : Descriptor) : Checked (Except TransferFailure Unit × Memory × Host) := do
  let offset ← descriptor.checkedOffset
  match Image.readSector host node offset with
  | .error fault => .ok (.error (.image path fault), memory, host)
  | .ok bytes =>
    match ← memory.checkedStoreBlock host (Checked.plus descriptor.window) 0 bytes with
    | (.error (address, fault), memory, host) =>
      .ok (.error (.dmaStore address fault), memory, host)
    | (.ok (), memory, host) => .ok (.ok (), memory, host)

/-- Moves a sector from memory into an open image. -/
def checkedWriteFromMemory (memory : Memory) (host : Host) (path : Path) (node : Node)
    (descriptor : Descriptor) : Checked (Except TransferFailure Host) := do
  match ← memory.checkedLoadBlock host (Checked.plus descriptor.window) 0 sectorSize with
  | .error (address, fault) => .ok (.error (.dmaLoad address fault))
  | .ok bytes =>
    let offset ← descriptor.checkedOffset
    match Image.writeSector host node offset bytes with
    | .error fault => .ok (.error (.image path fault))
    | .ok host => .ok (.ok host)

/-- Moves the sector that the latched descriptor asks for. -/
def checkedTransfer (drives : Drives) (latch : Option UInt16) (direction : Direction)
    (number : Nat) (memory : Memory) (host : Host) :
    Checked (Except TransferFailure Unit × Memory × Host) :=
  match Drive.ofNumber? number with
  | none => .ok (.error .noSuchDrive, memory, host)
  | some drive => do
    match ← checkedFetchDescriptor memory host latch with
    | .error failure => .ok (.error failure, memory, host)
    | .ok descriptor =>
      match ← checkedOpenSector drives host drive direction descriptor with
      | .error failure => .ok (.error failure, memory, host)
      | .ok (path, node) =>
        match direction with
        | .read => checkedReadIntoMemory memory host path node descriptor
        | .write =>
          match ← checkedWriteFromMemory memory host path node descriptor with
          | .error failure => .ok (.error failure, memory, host)
          | .ok host => .ok (.ok (), memory, host)

variable (drives : Drives) (latch : Option UInt16) (direction : Direction) (memory : Memory)
  (host : Host) {descriptor : Descriptor}

@[simp]
theorem checkedFetchDescriptor_eq_ok :
    checkedFetchDescriptor memory host latch =
      .ok (fetchDescriptor memory host latch).value := by
  cases latch with
  | none => rfl
  | some address =>
    have hwraps : Memory.Consecutive (fun i => .ok (address + UInt16.ofNat i)) 0 address
        descriptorSize := by
      intro i _
      rw [Nat.zero_add]
    simp only [checkedFetchDescriptor, fetchDescriptor, Checked.ok_bind, Logged.value_bind,
      memory.checkedLoadBlock_eq_ok host hwraps]
    cases (memory.loadBlock host address descriptorSize).value <;> rfl

@[simp]
theorem checkedOpenSector_eq_ok (drive : Drive) :
    checkedOpenSector drives host drive direction descriptor =
      .ok (openSector drives host drive direction descriptor) := by
  unfold checkedOpenSector openSector
  cases hdefect : descriptor.defect? with
  | some defect => rfl
  | none =>
    cases drives.get drive with
    | none => rfl
    | some path =>
      simp only [Descriptor.checkedOffset_eq_ok hdefect, Checked.ok_bind]
      cases Image.openAt host path direction descriptor.offset <;> rfl

theorem checkedReadIntoMemory_eq_ok (h : descriptor.defect? = none) (path : Path) (node : Node) :
    checkedReadIntoMemory memory host path node descriptor =
      .ok (readIntoMemory memory host path node descriptor).value := by
  simp only [checkedReadIntoMemory, readIntoMemory, Descriptor.checkedOffset_eq_ok h,
    Checked.ok_bind]
  cases hsector : Image.readSector host node descriptor.offset with
  | error fault => rfl
  | ok bytes =>
    have hwindow := Descriptor.consecutive_plus h
    rw [← Image.length_readSector hsector] at hwindow
    simp only [memory.checkedStoreBlock_eq_ok host hwindow, Checked.ok_bind, Logged.value_bind]
    rcases (memory.storeBlock host descriptor.window bytes).value with
      ⟨failure | _, after, hostAfter⟩ <;> rfl

theorem checkedWriteFromMemory_eq_ok (h : descriptor.defect? = none) (path : Path)
    (node : Node) :
    checkedWriteFromMemory memory host path node descriptor =
      .ok (writeFromMemory memory host path node descriptor).value := by
  have hwindow := Descriptor.consecutive_plus h
  simp only [checkedWriteFromMemory, writeFromMemory, memory.checkedLoadBlock_eq_ok host hwindow,
    Descriptor.checkedOffset_eq_ok h, Checked.ok_bind, Logged.value_bind]
  cases (memory.loadBlock host descriptor.window sectorSize).value with
  | error failure => rfl
  | ok bytes =>
    dsimp only
    cases Image.writeSector host node descriptor.offset bytes <;> rfl

/-- A transfer looks for defects before it computes with its descriptor. -/
@[simp]
theorem checkedTransfer_eq_ok (number : Nat) :
    checkedTransfer drives latch direction number memory host =
      .ok (transfer drives latch direction number memory host).value := by
  unfold checkedTransfer transfer
  cases hdrive : Drive.ofNumber? number with
  | none => rfl
  | some drive =>
    simp only [checkedFetchDescriptor_eq_ok, Checked.ok_bind, Logged.value_bind]
    cases hfetched : (fetchDescriptor memory host latch).value with
    | error failure => rfl
    | ok descriptor =>
      simp only [checkedOpenSector_eq_ok, Checked.ok_bind]
      rcases hopened : openSector drives host drive direction descriptor with
        failure | ⟨path, node⟩
      · rfl
      · -- The sector is open, so its descriptor has no defect, and its window stays below the top.
        have hsound := (selects_of_openSector hdrive hfetched hopened).sound
        cases direction with
        | read =>
          simp only [checkedReadIntoMemory_eq_ok memory host hsound, Logged.value_bind]
          rcases (readIntoMemory memory host path node descriptor).value with
            ⟨failure | _, after, hostAfter⟩ <;> rfl
        | write =>
          simp only [checkedWriteFromMemory_eq_ok memory host hsound, Checked.ok_bind,
            Logged.value_bind]
          cases (writeFromMemory memory host path node descriptor).value <;> rfl

/-! ## The register -/

namespace Controller

/-- Obeys a command byte. -/
def checkedCommand (controller : Controller) (memory : Memory) (host : Host) (value : UInt8) :
    Checked (Controller × Memory × Host) :=
  match Command.ofByte value with
  | .setDescriptor => .ok ({ controller with latch := .collecting none }, memory, host)
  | .transfer direction => do
    let (result, memory, host) ← checkedTransfer controller.drives controller.latch.address?
      direction (driveNumber value) memory host
    .ok ({ controller with status := outcome result }, memory, host)
  | .unknown => .ok (controller, memory, host)

/-- Writes the register. -/
def checkedOutput (controller : Controller) (memory : Memory) (host : Host) (value : UInt8) :
    Checked (Controller × Memory × Host) :=
  match controller.latch with
  | .collecting none =>
    .ok ({ controller with latch := .collecting (some value) }, memory, host)
  | .collecting (some low) =>
    .ok ({ controller with latch := .pending (wordOfBytes low value) }, memory, host)
  | .idle | .pending _ => controller.checkedCommand memory host value

/-- Whatever is written to the controller, in whatever state, no check stops it. -/
@[simp]
theorem checkedOutput_eq_ok (controller : Controller) (value : UInt8) :
    controller.checkedOutput memory host value =
      .ok (controller.output memory host value).value := by
  have hcommand : controller.checkedCommand memory host value =
      .ok (controller.command memory host value).value := by
    unfold checkedCommand command
    cases Command.ofByte value with
    | transfer direction =>
      simp only [checkedTransfer_eq_ok, Checked.ok_bind, runTransfer, Logged.value_bind,
        Logged.value_pure]
    | _ => rfl
  unfold checkedOutput output
  cases controller.latch with
  | collecting low => cases low <;> rfl
  | _ => exact hcommand

end Controller

end Disk

end Backplane
