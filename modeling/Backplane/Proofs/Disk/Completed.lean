import Backplane.Proofs.Disk.ByteStream
import Backplane.Proofs.Machine.Storage

/-!
# Completed transfers

Most of what is written to the controller moves nothing.  `completed?` picks out the operations of
a machine that moved a sector between memory and a file: a byte reached the controller while no
address was being given, it asked for a transfer, and the status afterwards shows no failure.  It
names the direction, the file and the descriptor, all of them read off the machine and the host
before the operation.

Two theorems say what has happened then.  A completed read has stored in memory, in the window of
the descriptor, the bytes of the sector (`exists_bytes_of_read`); a completed write has replaced
the sector by what memory held in the window (`exists_bytes_of_write`).  And apart from completed
writes no operation touches a file other than those behind the machine's stores
(`agree_perform`).

## Reading a transfer off the state before it

`completed?` could be defined by what the transfer itself reports.  It is not, because then a
history would have to be taken on trust.  What it needs of the operation is only whether it has
ended well; which file it was about and which descriptor it went by are looked up in the state
before, by the latch and the drives.  `exists_transferred_of_completed` says that this is what the
transfer has used.

Only regular files count.  A transfer can also end well on a device that takes or gives any bytes,
and then there is no image whose content could be spoken of.
-/

namespace Backplane

namespace Disk

/-- A transfer that ended well. -/
structure Completed where
  direction : Direction
  /-- The number of the file behind the image. -/
  file : Nat
  descriptor : Descriptor
deriving DecidableEq

/-- The transfer that an operation asks for, with the number of the drive.  While an address is
being given, no byte asks for one. -/
def asksFor? (machine : Machine) (operation : Operation) : Option (Direction × Nat) :=
  match machine.controller.latch, delivered? machine operation with
  | .collecting _, _ => none
  | _, none => none
  | _, some value =>
    match value.toNat / 16 with
    | 2 => some (.read, value.toNat % 16)
    | 4 => some (.write, value.toNat % 16)
    | _ => none

/-- The number of the regular file that a path leads to. -/
def fileAt? (host : Host) (path : Path) : Option Nat :=
  match host.find path with
  | .ok (.regular index) => some index
  | _ => none

/-- The descriptor that a transfer would go by: what lies at the latched address. -/
def latched? (machine : Machine) (host : Host) : Option Descriptor := do
  let address ← machine.controller.latch.address?
  let bytes ← (machine.memory.loadBlock host address descriptorSize).value.toOption
  some (.ofBytes bytes)

/-- The transfer that an operation completes, if it completes one on a regular file.  Everything but
the status is read off the machine and the host before the operation. -/
def completed? (machine : Machine) (host : Host) (operation : Operation) : Option Completed := do
  let (direction, number) ← asksFor? machine operation
  let address ← machine.controller.latch.address?
  let path ← machine.controller.image? number
  let file ← fileAt? host path
  let bytes ← (machine.memory.loadBlock host address descriptorSize).value.toOption
  if (machine.perform host operation).value.2.1.controller.status = .ok then
    some { direction, file, descriptor := .ofBytes bytes }
  else none

variable {machine : Machine} {host : Host} {operation : Operation}

theorem latched?_eq_some_iff {descriptor : Descriptor} :
    latched? machine host = some descriptor ↔
      ∃ address bytes, machine.controller.latch.address? = some address ∧
        (machine.memory.loadBlock host address descriptorSize).value = .ok bytes ∧
        descriptor = .ofBytes bytes := by
  unfold latched?
  constructor
  · intro h
    simp only [Option.bind_eq_bind, Option.bind_eq_some_iff, Option.some.injEq] at h
    obtain ⟨address, haddress, bytes, hbytes, rfl⟩ := h
    exact ⟨address, bytes, haddress, toOption_eq_some_iff.1 hbytes, rfl⟩
  · rintro ⟨address, bytes, haddress, hload, rfl⟩
    have hbytes := toOption_eq_some_iff.2 hload
    simp only [haddress, hbytes, Option.bind_eq_bind, Option.bind_some]

theorem fileAt?_eq_some_iff {path : Path} {file : Nat} :
    fileAt? host path = some file ↔ host.find path = .ok (.regular file) := by
  unfold fileAt?
  split
  · rename_i index hfind
    rw [hfind, Option.some.injEq, Except.ok.injEq, Node.regular.injEq]
  · rename_i hno
    simp only [reduceCtorEq, false_iff]
    exact hno file

/-- What it takes for an operation to complete a transfer. -/
theorem completed?_eq_some_iff {completed : Completed} :
    completed? machine host operation = some completed ↔
      ∃ number address path bytes,
        asksFor? machine operation = some (completed.direction, number) ∧
        machine.controller.latch.address? = some address ∧
        machine.controller.image? number = some path ∧
        host.find path = .ok (.regular completed.file) ∧
        (machine.memory.loadBlock host address descriptorSize).value = .ok bytes ∧
        completed.descriptor = .ofBytes bytes ∧
        (machine.perform host operation).value.2.1.controller.status = .ok := by
  unfold completed?
  constructor
  · -- A completed transfer has passed every question on the way.
    intro h
    simp only [Option.bind_eq_bind, Option.bind_eq_some_iff] at h
    obtain ⟨⟨direction, number⟩, hasks, address, haddress, path, hpath, file, hfile, bytes,
      hload, h⟩ := h
    split at h
    · rename_i hok
      obtain rfl := Option.some.inj h
      exact ⟨number, address, path, bytes, hasks, haddress, hpath, fileAt?_eq_some_iff.1 hfile,
        toOption_eq_some_iff.1 hload, rfl, hok⟩
    · exact absurd h (by simp)
  · -- What passes them all is completed.
    rintro ⟨number, address, path, bytes, hasks, haddress, hpath, hfile, hload, hdescriptor, hok⟩
    obtain ⟨direction, file, descriptor⟩ := completed
    dsimp only at hasks hfile hdescriptor
    have hbytes := toOption_eq_some_iff.2 hload
    simp only [hasks, haddress, hpath, fileAt?_eq_some_iff.2 hfile, hbytes, hok,
      Option.bind_eq_bind, Option.bind_some, if_true, hdescriptor]

/-! ## The transfer that was asked for -/

theorem outcome_eq_ok_iff {result : Except TransferFailure Unit} :
    Controller.outcome result = .ok ↔ result = .ok () := by
  rcases result with failure | _
  · simp only [Controller.outcome, reduceCtorEq, iff_false]
    rcases failure with _ | _ | _ | ⟨_ | _ | _⟩ | _ | ⟨_, _ | _ | _ | _⟩ | _ | _ <;>
      simp [TransferFailure.status, Descriptor.Defect.status, ImageFault.status]
  · simp [Controller.outcome]

/-- An operation that asks for a transfer runs it, and changes nothing beside it. -/
theorem perform_of_asksFor {direction : Direction} {number : Nat}
    (h : asksFor? machine operation = some (direction, number)) (host : Host) :
    (machine.perform host operation).value.2 =
      match (transfer machine.controller.drives machine.controller.latch.address? direction number
        machine.memory host).value with
      | (result, memory, host) =>
        ({ machine with
            controller := { machine.controller with status := Controller.outcome result },
            memory }, host) := by
  unfold asksFor? at h
  split at h
  · exact absurd h (by simp)
  · exact absurd h (by simp)
  · rename_i value hvalue hlatch
    have hready : ∀ low, machine.controller.latch ≠ .collecting low := fun low heq =>
      hlatch low heq
    rw [perform_of_delivered hvalue]
    split at h
    · rename_i hhigh
      obtain ⟨rfl, rfl⟩ := Prod.mk.inj (Option.some.inj h)
      have hcode : value.toNat / 16 = Direction.read.code := hhigh
      rw [value_output_of_transfer hready hcode]
    · rename_i hhigh
      obtain ⟨rfl, rfl⟩ := Prod.mk.inj (Option.some.inj h)
      have hcode : value.toNat / 16 = Direction.write.code := hhigh
      rw [value_output_of_transfer hready hcode]
    · exact absurd h (by simp)

/-- A transfer on a regular file that ends well is completed, whatever it moved. -/
theorem completed?_of_selects {direction : Direction} {number : Nat}
    (hasks : asksFor? machine operation = some (direction, number)) {descriptor : Descriptor}
    {path : Path} {file : Nat}
    (hselects : Selects machine.controller.drives machine.controller.latch.address? direction
      number machine.memory host descriptor path (.regular file))
    (hok : (machine.perform host operation).value.2.1.controller.status = .ok) :
    completed? machine host operation = some ⟨direction, file, descriptor⟩ := by
  obtain ⟨drive, hdrive, hget⟩ := hselects.mounted
  obtain ⟨address, fetched, haddress, hload, rfl⟩ := hselects.latched
  refine completed?_eq_some_iff.2 ⟨number, address, path, fetched, hasks, haddress, ?_,
    (Image.find_of_openAt hselects.opened).1, hload, rfl, hok⟩
  rw [Controller.image?, hdrive, Option.bind_some, hget]

/-! ## What has happened when a transfer was completed -/

theorem Selects.offset_le {drives : Drives} {latch : Option UInt16} {direction : Direction}
    {number : Nat} {memory : Memory} {descriptor : Descriptor} {path : Path} {file : Nat}
    (h : Selects drives latch direction number memory host descriptor path (.regular file)) :
    descriptor.offset ≤ (host.content file).length :=
  (Image.find_of_openAt h.opened).2

/-- The transfer behind a completed one ended well, and whatever it selected is the file and the
descriptor that are named. -/
theorem exists_transferred_of_completed {completed : Completed}
    (h : completed? machine host operation = some completed) :
    ∃ number ended,
      Transferred machine.controller.drives machine.controller.latch.address?
        completed.direction number machine.memory host ended ∧
      ended.1 = .ok () ∧
      (machine.perform host operation).value.2.1.memory = ended.2.1 ∧
      (machine.perform host operation).value.2.2 = ended.2.2 ∧
      ∀ {direction descriptor path node},
        Selects machine.controller.drives machine.controller.latch.address? direction number
          machine.memory host descriptor path node →
        descriptor = completed.descriptor ∧ node = .regular completed.file := by
  obtain ⟨number, address, path, fetched, hasks, haddress, hpath, hfind, hload, hdescriptor, hok⟩ :=
    completed?_eq_some_iff.1 h
  have hcases := transferred machine.controller.drives machine.controller.latch.address?
    completed.direction number machine.memory host
  rw [perform_of_asksFor hasks] at hok ⊢
  generalize (transfer machine.controller.drives machine.controller.latch.address?
    completed.direction number machine.memory host).value = ended at hok hcases
  refine ⟨number, ended, hcases, outcome_eq_ok_iff.1 hok, rfl, rfl, ?_⟩
  intro direction descriptor path' node hselects
  rw [hdescriptor]
  exact hselects.eq_of_find haddress hpath hfind hload

/-- A completed read has stored the bytes of the sector, to the last, in the window. -/
theorem exists_bytes_of_read {file : Nat} {descriptor : Descriptor}
    (h : completed? machine host operation = some ⟨.read, file, descriptor⟩) :
    ∃ bytes, descriptor.defect? = none ∧
      (host.content file).slice? descriptor.offset sectorSize = some bytes ∧
      (machine.memory.storeBlock host descriptor.window bytes).value.1 = .ok () ∧
      (machine.perform host operation).value.2.1.memory =
        (machine.memory.storeBlock host descriptor.window bytes).value.2.1 ∧
      (machine.perform host operation).value.2.2 =
        (machine.memory.storeBlock host descriptor.window bytes).value.2.2 := by
  obtain ⟨number, ended, hcases, hdone, hmemory, hhost, hselected⟩ :=
    exists_transferred_of_completed h
  rw [hmemory, hhost]
  cases hcases with
  | refused failure => exact absurd hdone (by simp)
  | stopped => exact absurd hdone (by simp)
  | read found path node bytes reads selects sector stored =>
    obtain ⟨rfl, rfl⟩ := hselected selects
    exact ⟨bytes, selects.sound, Image.readSector_regular sector, stored, rfl, rfl⟩
  | wrote _ _ _ _ _ writes => exact absurd writes (by simp)

/-- A completed write has replaced the sector by what memory held in the window. -/
theorem exists_bytes_of_write {file : Nat} {descriptor : Descriptor}
    (h : completed? machine host operation = some ⟨.write, file, descriptor⟩) :
    ∃ bytes, descriptor.defect? = none ∧
      descriptor.offset ≤ (host.content file).length ∧
      (machine.memory.loadBlock host descriptor.window sectorSize).value = .ok bytes ∧
      (machine.perform host operation).value.2.2 =
        host.writeInto (.regular file) descriptor.offset bytes := by
  obtain ⟨number, ended, hcases, hdone, -, hhost, hselected⟩ := exists_transferred_of_completed h
  rw [hhost]
  cases hcases with
  | refused failure => exact absurd hdone (by simp)
  | stopped => exact absurd hdone (by simp)
  | read _ _ _ _ reads => exact absurd reads (by simp)
  | wrote found path node bytes after writes selects loaded sector =>
    obtain ⟨rfl, rfl⟩ := hselected selects
    obtain ⟨_, hnode, rfl⟩ := Image.writeSector_eq_ok sector
    obtain rfl := Node.regular.inj hnode
    exact ⟨bytes, selects.sound, selects.offset_le, loaded, rfl⟩

/-! ## Files that an operation touches -/

/-- A byte that asks for no transfer changes neither memory nor files. -/
theorem output_of_not_asks {value : UInt8} (hvalue : delivered? machine operation = some value)
    (hasks : asksFor? machine operation = none) (host : Host) :
    (machine.controller.output machine.memory host value).value.2 = (machine.memory, host) := by
  -- Of all commands only two transfer, and this is none of them.
  have hcommand (hhigh : ∀ direction, (match value.toNat / 16 with
        | 2 => some (Direction.read, value.toNat % 16)
        | 4 => some (Direction.write, value.toNat % 16)
        | _ => none) ≠ some (direction, value.toNat % 16)) :
      (machine.controller.command machine.memory host value).value.2 = (machine.memory, host) := by
    unfold Controller.command
    rw [ofByte_eq]
    generalize value.toNat / 16 = high at hhigh
    rcases high with _ | _ | _ | _ | _ | high
    · rfl
    · rfl
    · exact absurd rfl (hhigh .read)
    · rfl
    · exact absurd rfl (hhigh .write)
    · rfl
  cases hlatch : machine.controller.latch with
  | idle =>
    rw [output_of_not_collecting (by simp [hlatch])]
    simp only [asksFor?, hlatch, hvalue] at hasks
    exact hcommand fun direction => by simp [hasks]
  | collecting low =>
    -- A byte of an address is no command.
    rw [Controller.output, hlatch]
    cases low <;> rfl
  | pending address =>
    rw [output_of_not_collecting (by simp [hlatch])]
    simp only [asksFor?, hlatch, hvalue] at hasks
    exact hcommand fun direction => by simp [hasks]

theorem asksFor?_write (machine : Machine) (address : UInt16) (value : UInt8) :
    asksFor? machine (.write address value) = none := by
  unfold asksFor?
  cases machine.controller.latch <;> rfl

/-- An operation that neither asks for a transfer nor can load a program changes no file, unless it
is a write cycle. -/
theorem host_perform_of_not_asks (hasks : asksFor? machine operation = none)
    (hload : ¬ Machine.CanLoad operation)
    (hwrite : ∀ address value, operation ≠ .write address value) (host : Host) :
    (machine.perform host operation).value.2.2 = host := by
  cases hvalue : delivered? machine operation with
  | none =>
    cases operation with
    | write address value => exact absurd rfl (hwrite address value)
    | output port value =>
      have hsame := machine.output_of_not_controller host (not_controller_of_delivered? hvalue)
        value
      simp only [Machine.perform, Logged.value_bind, Logged.value_pure]
      exact hsame.2.2
    | loadProgram name => exact absurd trivial hload
    | dialog => exact absurd trivial hload
    | _ => rfl
  | some value =>
    rw [perform_of_delivered hvalue]
    have hsame := output_of_not_asks hvalue hasks host
    exact congrArg Prod.snd hsame

/-- An operation that neither asks for a transfer nor can load a program touches at most the file
behind working storage. -/
theorem agree_perform_of_not_asks (hasks : asksFor? machine operation = none)
    (hload : ¬ Machine.CanLoad operation) (host : Host) :
    Host.Agree (fun index => machine.memory.working.file? = some index) host
      (machine.perform host operation).value.2.2 := by
  by_cases hwrite : ∃ address value, operation = .write address value
  · obtain ⟨address, value, rfl⟩ := hwrite
    exact Memory.agree_write _ _ _ _
  · have hsame := host_perform_of_not_asks hasks hload
      (fun address value heq => hwrite ⟨address, value, heq⟩) host
    rw [hsame]

/-- A transfer touches at most the file behind working storage, and one that it writes to. -/
theorem agree_perform_of_asks {direction : Direction} {number : Nat}
    (hasks : asksFor? machine operation = some (direction, number)) (host : Host) :
    Host.Agree (fun index => machine.memory.working.file? = some index ∨
      ∃ descriptor, completed? machine host operation = some ⟨.write, index, descriptor⟩) host
      (machine.perform host operation).value.2.2 := by
  have hcases := transferred machine.controller.drives machine.controller.latch.address? direction
    number machine.memory host
  have hperform := perform_of_asksFor hasks host
  generalize (transfer machine.controller.drives machine.controller.latch.address? direction number
    machine.memory host).value = ended at hperform hcases
  have hblock (window : UInt16) (bytes : List UInt8) :
      Host.Agree (fun index => machine.memory.working.file? = some index ∨
        ∃ descriptor, completed? machine host operation = some ⟨.write, index, descriptor⟩) host
        (machine.memory.storeBlock host window bytes).value.2.2 :=
    (Memory.agree_storeBlock _ _ _ _).mono fun index hfile => .inl hfile
  rw [hperform]
  cases hcases with
  | refused failure => exact Host.Agree.refl _ _
  | stopped descriptor path node bytes => exact hblock _ _
  | read descriptor path node bytes => exact hblock _ _
  | wrote descriptor path node bytes after writes selects loaded sector =>
    -- The image was written, so the transfer was completed.
    obtain ⟨file, rfl, rfl⟩ := Image.writeSector_eq_ok sector
    have hwritten := host.agree_writeInto (.regular file) descriptor.offset bytes
    refine hwritten.mono fun index hnode => Or.inr ⟨descriptor, ?_⟩
    obtain rfl := Node.regular.inj hnode
    refine completed?_of_selects (writes ▸ hasks) selects ?_
    rw [hperform]
    rfl

/-- The files that an operation touches: those behind the stores of the machine, and the one that
a completed write writes to. -/
theorem agree_perform (machine : Machine) (host : Host) (operation : Operation) :
    Host.Agree (fun index => machine.memory.program.file? = some index ∨
      machine.memory.working.file? = some index ∨
      ∃ descriptor, completed? machine host operation = some ⟨.write, index, descriptor⟩) host
      (machine.perform host operation).value.2.2 := by
  by_cases hload : Machine.CanLoad operation
  · exact (Machine.sameDevices_and_agree_of_canLoad hload machine host).2.mono
      fun index hfile => .inl hfile
  · rcases hasks : asksFor? machine operation with _ | ⟨direction, number⟩
    · exact (agree_perform_of_not_asks hasks hload host).mono
        fun index hfile => .inr (.inl hfile)
    · exact (agree_perform_of_asks hasks host).mono fun index htouched => .inr htouched

/-- A machine without program storage, with an image in its first drive and a descriptor of the
first sector latched. -/
def latchedOn (volumesDirectory image : Path) : Machine :=
  { Machine.ofMemory {} (.ofStores (.zeroed 0) (.array ((Content.zeros 256).put 1 1)) true) {} with
    controller := { volumesDirectory, drives := { first := some image }, latch := .pending 0 } }

end Disk

end Backplane
