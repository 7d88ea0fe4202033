import Backplane.Proofs.Dialog.Requests
import Backplane.Proofs.Disk.Transfer
import Backplane.Proofs.Store.Persistence

/-!
# Operations and storage

What an operation can do to the storage of a machine.  Apart from loading programs, which only the
person at the host can ask for, no operation changes program storage or anything about working
storage but its bytes (`workingOnly_perform`), and that includes disk transfers into windows that
reach into program storage.  Loading a program keeps at least the devices (`sameDevices_perform`).

## Requests and the bus

The difference between loading a program and everything else is the difference between `SameDevices`
and `WorkingOnly`.  Both say that each address leads where it led and refuses what it refused.  The
second says in addition that program storage has the same bytes, and it is what the processor can
rely on: whatever it does on the bus, on the ports and by way of the disk controller, its program
stays.
-/

namespace Backplane

namespace Disk.Controller

/-- Nothing that is written to the controller changes more of memory than bytes of working
storage. -/
theorem workingOnly_output (controller : Controller) (memory : Memory) (host : Host)
    (value : UInt8) :
    Memory.WorkingOnly memory (controller.output memory host value).value.2.1 := by
  have hcommand : Memory.WorkingOnly memory
      (controller.command memory host value).value.2.1 := by
    unfold command
    split
    · exact Memory.WorkingOnly.refl _
    · exact workingOnly_transfer _ _ _ _ _ _
    · exact Memory.WorkingOnly.refl _
  unfold output
  split
  · exact Memory.WorkingOnly.refl _
  · exact Memory.WorkingOnly.refl _
  · exact hcommand
  · exact hcommand

end Disk.Controller

namespace Machine

/-! ## Building -/

theorem value_openWorking_of_path {config : Config} {path : Path}
    (h : config.persistentPath = some path) (host : Host) :
    (openWorking config host).value =
      ((Store.openPersistent host path config.workingSize).value.1.mapError
          fun fault => .refused (.io fault),
        (Store.openPersistent host path config.workingSize).value.2) := by
  simp only [openWorking, h, Logged.value_bind, Logged.value_pure]

theorem value_openWorking_of_no_path {config : Config} (h : config.persistentPath = none)
    (host : Host) :
    (openWorking config host).value =
      ((Store.allocate config.workingSize).mapError .panicked, host) := by
  simp only [openWorking, h, Logged.value_pure]

/-- An image that could be opened is working storage, and nothing else is. -/
theorem openWorking_of_path_eq_ok_iff {config : Config} {path : Path}
    (h : config.persistentPath = some path) {host after : Host} {working : Store} :
    (openWorking config host).value = (.ok working, after) ↔
      (Store.openPersistent host path config.workingSize).value = (.ok working, after) := by
  simp [value_openWorking_of_path h, Prod.ext_iff]

/-- Without an image working storage is an array of zeros. -/
theorem openWorking_of_no_path_eq_ok_iff {config : Config} (h : config.persistentPath = none)
    {host after : Host} {working : Store} :
    (openWorking config host).value = (.ok working, after) ↔
      config.workingSize ≤ Store.blockLimit ∧ .zeroed config.workingSize = working ∧
        host = after := by
  rw [value_openWorking_of_no_path h, ← and_assoc, ← Store.allocate_eq_ok_iff, Prod.mk.injEq,
    mapError_eq_ok_iff]

/-- A machine can be built as soon as its working storage can be opened and its sizes fit. -/
theorem build_of_openWorking {config : Config} {host after : Host} {working : Store}
    (hopen : (openWorking config host).value = (.ok working, after))
    (hsize : working.size = config.workingSize)
    (hfits : config.programSize + config.workingSize ≤ storageLimit config.reservedPage)
    (line : Console.Line) :
    (build config line host).value =
      (.ok (ofMemory config (.ofStores (.zeroed config.programSize) working config.reservedPage
        (by rwa [Store.size_zeroed, hsize])) line), after) := by
  have hlimit := Memory.storageLimit_le config.reservedPage
  have hblock : addressSpace ≤ Store.blockLimit := by decide
  have hprogram := Store.allocate_of_le (show config.programSize ≤ Store.blockLimit by omega)
  have hlayout := Memory.layOut_of_le (show (Store.zeroed config.programSize).size + working.size ≤
    storageLimit config.reservedPage by rwa [Store.size_zeroed, hsize])
  simp only [value_build, hprogram, hopen, hlayout]

/-- Working storage is opened with the size that the configuration gives. -/
theorem size_of_openWorking {config : Config} {host after : Host} {working : Store}
    (h : (openWorking config host).value = (.ok working, after)) :
    working.size = config.workingSize := by
  cases hpath : config.persistentPath with
  | some path =>
    have hcases := Store.opened host path config.workingSize
    rw [(openWorking_of_path_eq_ok_iff hpath).1 h] at hcases
    cases hcases
    rfl
  | none =>
    obtain ⟨-, rfl, -⟩ := (openWorking_of_no_path_eq_ok_iff hpath).1 h
    rfl

/-- A machine is not built if its working storage cannot be opened. -/
theorem build_of_not_openWorking {config : Config} {host after : Host} {failure : BuildFailure}
    (hprogram : config.programSize ≤ Store.blockLimit)
    (hopen : (openWorking config host).value = (.error failure, after)) (line : Console.Line) :
    (build config line host).value = (.error failure, after) := by
  simp only [value_build, Store.allocate_of_le hprogram, hopen]

/-- Working storage is refused only for a fault of the host, and there is a panic only where an
array would be too long. -/
theorem io_or_panicked_of_not_openWorking {config : Config} {host after : Host}
    {failure : BuildFailure} (hopen : (openWorking config host).value = (.error failure, after)) :
    (∃ fault, failure = .refused (.io fault)) ∨
      ∃ panic, failure = .panicked panic ∧ Store.blockLimit < config.workingSize := by
  cases hpath : config.persistentPath with
  | none =>
    rw [value_openWorking_of_no_path hpath] at hopen
    obtain ⟨panic, hpanic, rfl⟩ := mapError_eq_error_iff.1 (Prod.mk.inj hopen).1
    refine .inr ⟨panic, rfl, Nat.lt_of_not_le ?_⟩
    intro hle
    exact absurd (Store.allocate_of_le hle) (by simp [hpanic])
  | some path =>
    rw [value_openWorking_of_path hpath] at hopen
    obtain ⟨fault, -, rfl⟩ := mapError_eq_error_iff.1 (Prod.mk.inj hopen).1
    exact .inl ⟨fault, rfl⟩

/-- Working storage that could be an array cannot be opened only if it is an image that is refused.
-/
theorem exists_io_of_not_openWorking {config : Config} {host after : Host} {failure : BuildFailure}
    (hworking : config.workingSize ≤ Store.blockLimit)
    (hopen : (openWorking config host).value = (.error failure, after)) :
    ∃ fault, failure = .refused (.io fault) := by
  rcases io_or_panicked_of_not_openWorking hopen with hfault | ⟨-, -, hlong⟩
  · exact hfault
  · exact absurd hworking (Nat.not_le.2 hlong)

/-! ## Operations that load no program -/

/-- An operation that can load a program: by itself, or in a dialog. -/
def CanLoad : Operation → Prop
  | .loadProgram _ | .dialog => True
  | _ => False

/-- An operation that cannot load a program changes nothing of memory but bytes of working
storage. -/
theorem workingOnly_perform {operation : Operation} (h : ¬ CanLoad operation)
    (machine : Machine) (host : Host) :
    Memory.WorkingOnly machine.memory (machine.perform host operation).value.2.1.memory := by
  cases operation with
  | write address value => exact Memory.workingOnly_write _ _ _ _
  | output port value =>
    simp only [perform, Logged.value_bind, Logged.value_pure]
    by_cases hcontroller : ∃ register,
        machine.ports.binding? port = some ⟨.controller, register⟩
    · obtain ⟨register, hbinding⟩ := hcontroller
      rw [value_output_of_controller machine host hbinding]
      exact Disk.Controller.workingOnly_output _ _ _ _
    · have hsame := machine.output_of_not_controller host
        (fun register hbinding => hcontroller ⟨register, hbinding⟩) value
      rw [hsame.1]
  | input port =>
    obtain ⟨console, hinput⟩ := machine.exists_console_input port
    simp only [perform, Logged.value_bind, Logged.value_pure, hinput]
    exact Memory.WorkingOnly.refl _
  | loadProgram name => exact absurd trivial h
  | dialog => exact absurd trivial h
  | _ => exact Memory.WorkingOnly.refl _

/-! ## Operations that load programs -/

/-- What a request of a dialog leaves as it is: the devices, and all files but the one behind
program storage. -/
theorem sameDevices_and_agree_of_isRequest {operation : Operation}
    (h : Dialog.IsRequest operation) (machine : Machine) (host : Host) :
    Memory.SameDevices machine.memory (machine.perform host operation).value.2.1.memory ∧
      Host.Agree (fun index => machine.memory.program.file? = some index) host
        (machine.perform host operation).value.2.2 := by
  cases h with
  | setFrontPanel value => exact ⟨Memory.SameDevices.refl _, Host.Agree.refl _ _⟩
  | mount number name => exact ⟨Memory.SameDevices.refl _, Host.Agree.refl _ _⟩
  | loadProgram name =>
    simp only [perform, Logged.value_bind, Logged.value_pure, value_loadProgram]
    rcases machine.findProgram host name with refusal | ⟨path, image⟩
    · exact ⟨Memory.SameDevices.refl _, Host.Agree.refl _ _⟩
    · exact ⟨Memory.sameDevices_loadProgram _ _ _, Memory.agree_loadProgram _ _ _⟩

theorem sameDevices_and_agree_performAll {operations : List Operation}
    (h : ∀ operation ∈ operations, Dialog.IsRequest operation) (machine : Machine)
    (host : Host) :
    Memory.SameDevices machine.memory (machine.performAll host operations).1.memory ∧
      Host.Agree (fun index => machine.memory.program.file? = some index) host
        (machine.performAll host operations).2 := by
  induction operations generalizing machine host with
  | nil => exact ⟨Memory.SameDevices.refl _, Host.Agree.refl _ _⟩
  | cons operation rest ih =>
    obtain ⟨hdevices, hagree⟩ :=
      sameDevices_and_agree_of_isRequest (h operation (by simp)) machine host
    obtain ⟨hdevices', hagree'⟩ := ih (fun other hmem => h other (by simp [hmem]))
      (machine.perform host operation).value.2.1 (machine.perform host operation).value.2.2
    rw [hdevices.program.file?] at hagree'
    exact ⟨hdevices.trans hdevices', hagree.trans hagree'⟩

/-- What an operation that can load a program leaves as it is. -/
theorem sameDevices_and_agree_of_canLoad {operation : Operation} (h : CanLoad operation)
    (machine : Machine) (host : Host) :
    Memory.SameDevices machine.memory (machine.perform host operation).value.2.1.memory ∧
      Host.Agree (fun index => machine.memory.program.file? = some index) host
        (machine.perform host operation).value.2.2 := by
  cases operation with
  | loadProgram name => exact sameDevices_and_agree_of_isRequest (.loadProgram name) machine host
  | dialog =>
    obtain ⟨said, hdialog⟩ := Dialog.exists_dialog_eq_performAll machine host
    have hrequests : ∀ operation ∈ Dialog.requests machine.console.line.input,
        Dialog.IsRequest operation := fun operation => Dialog.isRequest_of_mem
    have hall := sameDevices_and_agree_performAll hrequests machine host
    simp only [perform, Logged.value_bind, Logged.value_pure, hdialog]
    exact hall
  | _ => exact absurd h id

/-- Every operation leaves the devices behind memory what they are. -/
theorem sameDevices_perform (machine : Machine) (host : Host) (operation : Operation) :
    Memory.SameDevices machine.memory (machine.perform host operation).value.2.1.memory := by
  by_cases h : CanLoad operation
  · exact (sameDevices_and_agree_of_canLoad h machine host).1
  · exact (workingOnly_perform h machine host).sameDevices

end Machine

end Backplane
