import Backplane.Disk.Controller
import Backplane.Proofs.Memory.Lockstep

/-!
# Transfers in lockstep

A transfer moves bytes between memory and an image.  `Lockstep` says what it takes of a relation
between memories, each on a host of its own, that no transfer can look behind: besides what
accesses to memory need, every image that a drive can hold opens on both hosts or on neither, and
once it is open the same sectors can be read from it and written to it (`Image.OpenAlike`).  Then
the controllers go on alike, whatever is written to them, and leave related memories and hosts
(`Lockstep.output`).

The two transfers may fail for different causes, where a path could not be followed, but not with a
different status.

## What must be alike

Three things are asked of the relation.  Memory gives and takes the same bytes at every address, and
stays related when a byte is put into both (`Memory.Lockstep`).  An image that a drive can hold
opens on both hosts or on neither.  And an image that is open gives the same sectors on both and
takes the same, which leaves related memories and hosts.

Nothing is asked of paths that no drive can hold, so the hosts may differ under all others.
-/

namespace Backplane

namespace Disk

/-- An image that is open on both hosts gives the same sectors and takes the same. -/
structure Image.OpenAlike (related : Memory → Host → Memory → Host → Prop) (memory : Memory)
    (host : Host) (other : Memory) (otherHost : Host) (node otherNode : Node) : Prop where
  readSector : ∀ offset,
    Image.readSector otherHost otherNode offset = Image.readSector host node offset
  writeSector : ∀ offset bytes,
    (∃ after otherAfter, Image.writeSector host node offset bytes = .ok after ∧
        Image.writeSector otherHost otherNode offset bytes = .ok otherAfter ∧
        related memory after other otherAfter) ∨
      ∃ fault, Image.writeSector host node offset bytes = .error fault ∧
        Image.writeSector otherHost otherNode offset bytes = .error fault

/-- A relation between memories, each on a host of its own, that no transfer can look behind, if the
drives hold only images of the given paths. -/
structure Lockstep (held : Path → Prop) (related : Memory → Host → Memory → Host → Prop) :
    Prop where
  memory : Memory.Lockstep related
  openAt : ∀ {memory host other otherHost path}, related memory host other otherHost →
    held path → ∀ direction offset,
      (∃ node otherNode, Image.openAt host path direction offset = .ok node ∧
          Image.openAt otherHost path direction offset = .ok otherNode ∧
          Image.OpenAlike related memory host other otherHost node otherNode) ∨
        ∃ fault fault', Image.openAt host path direction offset = .error fault ∧
          Image.openAt otherHost path direction offset = .error fault' ∧
          fault'.status = fault.status

namespace Lockstep

variable {held : Path → Prop} {related : Memory → Host → Memory → Host → Prop}
  {memory other : Memory} {host otherHost : Host} {drives : Drives}

theorem fetchDescriptor (h : Lockstep held related)
    (hrelated : related memory host other otherHost) (latch : Option UInt16) :
    (fetchDescriptor other otherHost latch).value =
      (Disk.fetchDescriptor memory host latch).value := by
  cases latch with
  | none => rfl
  | some address =>
    simp only [Disk.fetchDescriptor, Logged.value_bind, h.memory.loadBlock hrelated]

/-- An image is opened by both transfers, or by neither, with the same status. -/
theorem openSector (h : Lockstep held related) (hrelated : related memory host other otherHost)
    (hdrives : ∀ drive path, drives.get drive = some path → held path) (drive : Drive)
    (direction : Direction) (descriptor : Descriptor) :
    (∃ path node otherNode,
        Disk.openSector drives host drive direction descriptor = .ok (path, node) ∧
        Disk.openSector drives otherHost drive direction descriptor = .ok (path, otherNode) ∧
        Image.OpenAlike related memory host other otherHost node otherNode) ∨
      ∃ failure failure',
        Disk.openSector drives host drive direction descriptor = .error failure ∧
        Disk.openSector drives otherHost drive direction descriptor = .error failure' ∧
        failure'.status = failure.status := by
  unfold Disk.openSector
  cases descriptor.defect? with
  | some defect => exact .inr ⟨_, _, rfl, rfl, rfl⟩
  | none =>
    cases hmounted : drives.get drive with
    | none => exact .inr ⟨_, _, rfl, rfl, rfl⟩
    | some path =>
      rcases h.openAt hrelated (hdrives drive path hmounted) direction descriptor.offset with
        ⟨node, otherNode, hfirst, hsecond, hopen⟩ | ⟨fault, fault', hfirst, hsecond, hstatus⟩
      · simp only [hfirst, hsecond]
        exact .inl ⟨path, node, otherNode, rfl, rfl, hopen⟩
      · simp only [hfirst, hsecond]
        exact .inr ⟨_, _, rfl, rfl, hstatus⟩

/-- A sector that both transfers read is stored on both sides, as far as memory takes it. -/
theorem readIntoMemory (h : Lockstep held related)
    (hrelated : related memory host other otherHost) {node otherNode : Node}
    (hopen : Image.OpenAlike related memory host other otherHost node otherNode) (path : Path)
    (descriptor : Descriptor) :
    (readIntoMemory other otherHost path otherNode descriptor).value.1 =
        (Disk.readIntoMemory memory host path node descriptor).value.1 ∧
      related (Disk.readIntoMemory memory host path node descriptor).value.2.1
        (Disk.readIntoMemory memory host path node descriptor).value.2.2
        (Disk.readIntoMemory other otherHost path otherNode descriptor).value.2.1
        (Disk.readIntoMemory other otherHost path otherNode descriptor).value.2.2 := by
  unfold Disk.readIntoMemory
  rw [hopen.readSector]
  cases Image.readSector host node descriptor.offset with
  | error fault => exact ⟨rfl, hrelated⟩
  | ok bytes =>
    obtain ⟨hresult, hafter⟩ := h.memory.storeBlock hrelated descriptor.window bytes
    simp only [Logged.value_bind]
    generalize (memory.storeBlock host descriptor.window bytes).value = stored at hresult hafter
    generalize (other.storeBlock otherHost descriptor.window bytes).value = otherStored
      at hresult hafter
    obtain ⟨result, after, hostAfter⟩ := stored
    obtain ⟨otherResult, otherAfter, otherHostAfter⟩ := otherStored
    obtain rfl : otherResult = result := hresult
    cases otherResult <;> exact ⟨rfl, hafter⟩

/-- A sector that is loaded from memory is written to the image on both hosts, or on neither. -/
theorem writeFromMemory (h : Lockstep held related)
    (hrelated : related memory host other otherHost) {node otherNode : Node}
    (hopen : Image.OpenAlike related memory host other otherHost node otherNode) (path : Path)
    (descriptor : Descriptor) :
    (∃ after otherAfter,
        (Disk.writeFromMemory memory host path node descriptor).value = .ok after ∧
        (Disk.writeFromMemory other otherHost path otherNode descriptor).value = .ok otherAfter ∧
        related memory after other otherAfter) ∨
      ∃ failure, (Disk.writeFromMemory memory host path node descriptor).value = .error failure ∧
        (Disk.writeFromMemory other otherHost path otherNode descriptor).value =
          .error failure := by
  simp only [Disk.writeFromMemory, Logged.value_bind, h.memory.loadBlock hrelated]
  cases (memory.loadBlock host descriptor.window sectorSize).value with
  | error failure => exact .inr ⟨_, rfl, rfl⟩
  | ok bytes =>
    rcases hopen.writeSector descriptor.offset bytes with
      ⟨after, otherAfter, hfirst, hsecond, hafter⟩ | ⟨fault, hfirst, hsecond⟩
    · simp only [hfirst, hsecond, Logged.value_pure]
      exact .inl ⟨after, otherAfter, rfl, rfl, hafter⟩
    · simp only [hfirst, hsecond, Logged.value_pure]
      exact .inr ⟨_, rfl, rfl⟩

/-- The two transfers end with the same status and leave memories and hosts related. -/
theorem transfer (h : Lockstep held related) (hrelated : related memory host other otherHost)
    (hdrives : ∀ drive path, drives.get drive = some path → held path) (latch : Option UInt16)
    (direction : Direction) (number : Nat) :
    Controller.outcome
          (Disk.transfer drives latch direction number other otherHost).value.1 =
        Controller.outcome (Disk.transfer drives latch direction number memory host).value.1 ∧
      related (Disk.transfer drives latch direction number memory host).value.2.1
        (Disk.transfer drives latch direction number memory host).value.2.2
        (Disk.transfer drives latch direction number other otherHost).value.2.1
        (Disk.transfer drives latch direction number other otherHost).value.2.2 := by
  unfold Disk.transfer
  cases Drive.ofNumber? number with
  | none => exact ⟨rfl, hrelated⟩
  | some drive =>
    simp only [Logged.value_bind, h.fetchDescriptor hrelated]
    cases (Disk.fetchDescriptor memory host latch).value with
    | error failure => exact ⟨rfl, hrelated⟩
    | ok descriptor =>
      rcases h.openSector hrelated hdrives drive direction descriptor with
        ⟨path, node, otherNode, hfirst, hsecond, hopen⟩ |
          ⟨failure, failure', hfirst, hsecond, hstatus⟩
      · -- The sector was opened on both sides, and is moved on both.
        simp only [hfirst, hsecond]
        cases direction with
        | read =>
          obtain ⟨hresult, hread⟩ := h.readIntoMemory hrelated hopen path descriptor
          simp only [Logged.value_bind]
          generalize (Disk.readIntoMemory memory host path node descriptor).value = ended
            at hresult hread
          generalize (Disk.readIntoMemory other otherHost path otherNode descriptor).value =
            otherEnded at hresult hread
          obtain ⟨result, after, hostAfter⟩ := ended
          obtain ⟨otherResult, otherAfter, otherHostAfter⟩ := otherEnded
          obtain rfl : otherResult = result := hresult
          cases otherResult <;> exact ⟨rfl, hread⟩
        | write =>
          rcases h.writeFromMemory hrelated hopen path descriptor with
            ⟨after, otherAfter, hwritten, hwritten', hafter⟩ | ⟨failure, hrefused, hrefused'⟩
          · simp only [Logged.value_bind, hwritten, hwritten', Logged.value_pure]
            exact ⟨trivial, hafter⟩
          · simp only [Logged.value_bind, hrefused, hrefused', Logged.value_pure]
            exact ⟨trivial, hrelated⟩
      · -- It was opened on neither, and the status is the same.
        simp only [hfirst, hsecond, Logged.value_pure]
        exact ⟨hstatus, hrelated⟩

/-! ## The register -/

/-- Whatever is written to the controllers, they go on alike. -/
theorem output (h : Lockstep held related) {controller : Controller}
    (hrelated : related memory host other otherHost)
    (hdrives : ∀ drive path, controller.drives.get drive = some path → held path)
    (value : UInt8) :
    (controller.output other otherHost value).value.1 =
        (controller.output memory host value).value.1 ∧
      related (controller.output memory host value).value.2.1
        (controller.output memory host value).value.2.2
        (controller.output other otherHost value).value.2.1
        (controller.output other otherHost value).value.2.2 := by
  -- Only a command that transfers looks at memory and at the host.
  have hcommand : (controller.command other otherHost value).value.1 =
        (controller.command memory host value).value.1 ∧
      related (controller.command memory host value).value.2.1
        (controller.command memory host value).value.2.2
        (controller.command other otherHost value).value.2.1
        (controller.command other otherHost value).value.2.2 := by
    unfold Controller.command
    cases Controller.Command.ofByte value with
    | transfer direction =>
      obtain ⟨hstatus, hafter⟩ := h.transfer hrelated hdrives controller.latch.address? direction
        (Controller.driveNumber value)
      exact ⟨congrArg (fun status => { controller with status }) hstatus, hafter⟩
    | _ => exact ⟨rfl, hrelated⟩
  unfold Controller.output
  split
  · exact ⟨rfl, hrelated⟩
  · exact ⟨rfl, hrelated⟩
  · exact hcommand
  · exact hcommand

end Lockstep

end Disk

end Backplane
