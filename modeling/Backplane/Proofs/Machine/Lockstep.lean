import Backplane.Proofs.Dialog.Lockstep
import Backplane.Proofs.Disk.Drives
import Backplane.Proofs.Disk.Lockstep
import Backplane.Proofs.Host.Apart

/-!
# Machines in lockstep

Two machines are `Paired` if they are the same but for their storage: each has a memory of its own,
on a host of its own, and they may have been configured with different storage.  `Lockstep` says
what it takes of the relation between memories and hosts that no operation can look behind.  The
hosts need not be alike except under the paths that the machines are given, and which those are is
a parameter, too: a path that is `held` is one under which both hosts show the same.

Then every operation, dialogs included, is answered alike and leaves paired machines
(`Lockstep.perform`).

## Names

An operation can bring in a path by its name.  So the relation is kept only by operations whose
names stand for paths that are held (`Config.Allows`), and for a dialog this is asked of what its
input spells out (`requestsOf`).  A name that is no bare name stands for no path and can always be
given.

The two machines may be configured with different storage, but their directories are the same,
because a name has to stand for the same path on both.
-/

namespace Backplane

/-- The path that an operation's name stands for, if it has one. -/
def Config.pathOf? (config : Config) : Operation → Option Path
  | .mount _ name => Name.resolve? config.volumesDirectory name Name.diskExtension
  | .loadProgram name => Name.resolve? config.programsDirectory name Name.programExtension
  | _ => none

/-- The name of an operation, if it has one, stands for one of the paths. -/
def Config.Allows (config : Config) (held : Path → Prop) (operation : Operation) : Prop :=
  ∀ path, config.pathOf? operation = some path → held path

namespace Machine

/-- What an operation asks for: itself, or what is asked for in a dialog on the bytes that wait. -/
def requestsOf (machine : Machine) : Operation → List Operation
  | .dialog => Dialog.requests machine.console.line.input
  | operation => [operation]

/-- The same machine with other storage. -/
def withStorage (machine : Machine) (config : Config) (memory : Memory) : Machine :=
  { machine with config, memory }

/-- A relation between memories, each on a host of its own, that no operation of a machine can look
behind, if its names stand for the given paths. -/
structure Lockstep (held : Path → Prop) (related : Memory → Host → Memory → Host → Prop) :
    Prop where
  disk : Disk.Lockstep held related
  readFile? : ∀ {memory host other otherHost path}, related memory host other otherHost →
    held path → otherHost.readFile? path = host.readFile? path
  program : ∀ {memory host other otherHost}, related memory host other otherHost → ∀ image,
    (other.loadProgram otherHost image).1 = (memory.loadProgram host image).1 ∧
      related (memory.loadProgram host image).2.1 (memory.loadProgram host image).2.2
        (other.loadProgram otherHost image).2.1 (other.loadProgram otherHost image).2.2

/-- Two machines, each on a host of its own, that are the same but for their storage.  The drives
hold the same disks, and only those whose images both hosts show alike. -/
structure Paired (held : Path → Prop) (related : Memory → Host → Memory → Host → Prop)
    (config otherConfig : Config) (machine : Machine) (host : Host) (other : Machine)
    (otherHost : Host) : Prop where
  configured : Configured config machine
  drives : ∀ drive path, machine.controller.drives.get drive = some path → held path
  twin : ∃ memory, other = machine.withStorage otherConfig memory ∧
    related machine.memory host memory otherHost

variable {held : Path → Prop} {related : Memory → Host → Memory → Host → Prop}
  {config otherConfig : Config} {machine other : Machine} {host otherHost : Host}
  {operation : Operation}

/-! ## Changes that keep machines paired -/

theorem Paired.withConsole
    (h : Paired held related config otherConfig machine host other otherHost)
    (console : Console) :
    Paired held related config otherConfig (machine.withConsole console) host
      (other.withConsole console) otherHost := by
  obtain ⟨memory, rfl, hrelated⟩ := h.twin
  exact ⟨⟨h.configured.volumes, h.configured.config⟩, h.drives, memory, rfl, hrelated⟩

theorem Paired.withDrive
    (h : Paired held related config otherConfig machine host other otherHost)
    (drive : Disk.Drive) {image : Option Path} (himage : ∀ path, image = some path → held path) :
    Paired held related config otherConfig (machine.withDrive drive image) host
      (other.withDrive drive image) otherHost := by
  obtain ⟨memory, rfl, hrelated⟩ := h.twin
  refine ⟨⟨h.configured.volumes, h.configured.config⟩, ?_, memory, rfl, hrelated⟩
  intro changed path hget
  rw [Disk.get_withDrive] at hget
  split at hget
  · exact himage path hget
  · exact h.drives changed path hget

/-- Memories and hosts may change, as long as they stay related. -/
theorem Paired.withMemory
    (h : Paired held related config otherConfig machine host other otherHost)
    {memory otherMemory : Memory} {after otherAfter : Host}
    (hrelated : related memory after otherMemory otherAfter) :
    Paired held related config otherConfig { machine with memory } after
      { other with memory := otherMemory } otherAfter := by
  obtain ⟨_, rfl, -⟩ := h.twin
  exact ⟨⟨h.configured.volumes, h.configured.config⟩, h.drives, otherMemory, rfl, hrelated⟩

/-! ## What is found under a path -/

/-- A program is found by reading its file. -/
theorem findProgram_eq (machine : Machine) (host : Host) (name : String) :
    machine.findProgram host name =
      match Name.resolve? machine.config.programsDirectory name Name.programExtension with
      | none => .error (.invalidName name)
      | some path =>
        match host.readFile? path with
        | some (.ok image) => .ok (path, image)
        | some (.error fault) => .error (.io fault)
        | none => .error (.notFound path) := by
  unfold findProgram Host.readFile?
  rcases Name.resolve? machine.config.programsDirectory name Name.programExtension with _ | path
  · rfl
  · dsimp only
    rcases host.find path with fault | _ | index | _
    · rfl
    · rfl
    · dsimp only
      cases host.readAll index <;> rfl
    · rfl

/-! ## Operations -/

namespace Lockstep

theorem write (h : Lockstep held related)
    (hpaired : Paired held related config otherConfig machine host other otherHost)
    (address : UInt16) (value : UInt8) :
    Paired held related config otherConfig (machine.write host address value).value.1
      (machine.write host address value).value.2 (other.write otherHost address value).value.1
      (other.write otherHost address value).value.2 := by
  obtain ⟨memory, rfl, hrelated⟩ := hpaired.twin
  exact hpaired.withMemory (h.disk.memory.write hrelated address value)

theorem mount (h : Lockstep held related)
    (hpaired : Paired held related config otherConfig machine host other otherHost) {number : Nat}
    {name : String} (hallowed : config.Allows held (.mount number name)) :
    (other.mount otherHost number name).value.1 = (machine.mount host number name).value.1 ∧
      Paired held related config otherConfig (machine.mount host number name).value.2 host
        (other.mount otherHost number name).value.2 otherHost := by
  obtain ⟨memory, hother, hrelated⟩ := hpaired.twin
  have hvolumes : other.controller.volumesDirectory = config.volumesDirectory := by
    rw [hother]
    exact hpaired.configured.volumes
  rw [value_mount, value_mount, hvolumes, hpaired.configured.volumes]
  cases Disk.Drive.ofNumber? number with
  | none => exact ⟨rfl, hpaired⟩
  | some drive =>
    dsimp only
    split
    · exact ⟨rfl, hpaired.withDrive drive (by simp)⟩
    · cases hresolve : Name.resolve? config.volumesDirectory name Name.diskExtension with
      | none => exact ⟨rfl, hpaired⟩
      | some path =>
        -- It is the same path on both, and leads to a file on both hosts or on neither.
        have hpath := hallowed path hresolve
        have hfile : otherHost.isFile path = host.isFile path := by
          rw [Host.isFile_eq_isSome, Host.isFile_eq_isSome, h.readFile? hrelated hpath]
        dsimp only
        rw [hfile]
        split
        · refine ⟨rfl, hpaired.withDrive drive ?_⟩
          rintro mounted ⟨⟩
          exact hpath
        · exact ⟨rfl, hpaired⟩

theorem unmount (hpaired : Paired held related config otherConfig machine host other otherHost)
    (number : Nat) :
    (other.unmount number).value.1 = (machine.unmount number).value.1 ∧
      Paired held related config otherConfig (machine.unmount number).value.2 host
        (other.unmount number).value.2 otherHost := by
  rw [value_unmount, value_unmount]
  cases Disk.Drive.ofNumber? number with
  | none => exact ⟨rfl, hpaired⟩
  | some drive => exact ⟨rfl, hpaired.withDrive drive (by simp)⟩

theorem loadProgram (h : Lockstep held related)
    (hprograms : otherConfig.programsDirectory = config.programsDirectory)
    (hpaired : Paired held related config otherConfig machine host other otherHost)
    {name : String} (hallowed : config.Allows held (.loadProgram name)) :
    (other.loadProgram otherHost name).value.1 = (machine.loadProgram host name).value.1 ∧
      Paired held related config otherConfig (machine.loadProgram host name).value.2.1
        (machine.loadProgram host name).value.2.2 (other.loadProgram otherHost name).value.2.1
        (other.loadProgram otherHost name).value.2.2 := by
  obtain ⟨memory, rfl, hrelated⟩ := hpaired.twin
  have hfound : (machine.withStorage otherConfig memory).findProgram otherHost name =
      machine.findProgram host name := by
    have hdirectory : (machine.withStorage otherConfig memory).config.programsDirectory =
        config.programsDirectory := hprograms
    rw [findProgram_eq, findProgram_eq, hdirectory, hpaired.configured.config]
    cases hresolve : Name.resolve? config.programsDirectory name Name.programExtension with
    | none => rfl
    | some path => simp only [h.readFile? hrelated (hallowed path hresolve)]
  rw [value_loadProgram, value_loadProgram, hfound]
  rcases machine.findProgram host name with refusal | ⟨path, image⟩
  · exact ⟨rfl, hpaired⟩
  · obtain ⟨hresult, hafter⟩ := h.program hrelated image.toList
    exact ⟨congrArg (Except.map fun _ => image.length) hresult, hpaired.withMemory hafter⟩

/-- The controllers of paired machines go on alike, and so does what they do to memory and files. -/
theorem output_of_controller (h : Lockstep held related)
    (hpaired : Paired held related config otherConfig machine host other otherHost)
    {port register : UInt8}
    (hbinding : machine.ports.binding? port = some ⟨.controller, register⟩) (value : UInt8) :
    Paired held related config otherConfig (machine.output host port value).value.1
      (machine.output host port value).value.2 (other.output otherHost port value).value.1
      (other.output otherHost port value).value.2 := by
  obtain ⟨memory, rfl, hrelated⟩ := hpaired.twin
  have hother : (machine.withStorage otherConfig memory).ports.binding? port =
      some ⟨.controller, register⟩ := hbinding
  obtain ⟨hcontroller, hafter⟩ := h.disk.output hrelated hpaired.drives value
  obtain ⟨latch, status, hkept⟩ :=
    exists_latch_status_output machine.controller machine.memory host value
  rw [value_output_of_controller _ _ hbinding, value_output_of_controller _ _ hother]
  refine ⟨⟨?_, hpaired.configured.config⟩, ?_, _, ?_, hafter⟩
  · -- The controller keeps its directory.
    show (machine.controller.output machine.memory host value).value.1.volumesDirectory = _
    rw [hkept]
    exact hpaired.configured.volumes
  · -- It keeps the disks in its drives.
    show ∀ drive path, (machine.controller.output machine.memory host value).value.1.drives.get
      drive = some path → held path
    rw [hkept]
    exact hpaired.drives
  · exact congrArg (fun controller => { machine with
      config := otherConfig
      memory := (machine.controller.output memory otherHost value).value.2.1
      controller }) hcontroller

theorem output (h : Lockstep held related)
    (hpaired : Paired held related config otherConfig machine host other otherHost)
    (port value : UInt8) :
    Paired held related config otherConfig (machine.output host port value).value.1
      (machine.output host port value).value.2 (other.output otherHost port value).value.1
      (other.output otherHost port value).value.2 := by
  rcases hbinding : machine.ports.binding? port with _ | ⟨device, register⟩
  · obtain ⟨memory, rfl, -⟩ := hpaired.twin
    have hother : (machine.withStorage otherConfig memory).ports.binding? port = none := hbinding
    rw [value_output_of_free _ _ hbinding, value_output_of_free _ _ hother]
    exact hpaired
  · cases device with
    | controller => exact h.output_of_controller hpaired hbinding value
    | _ =>
      obtain ⟨hconfigured, hdrives, memory, rfl, hrelated⟩ := hpaired
      have hother : (machine.withStorage otherConfig memory).ports.binding? port =
        some ⟨_, register⟩ := hbinding
      rw [value_output_of_bound _ _ hbinding, value_output_of_bound _ _ hother, value_outputTo,
        value_outputTo]
      exact ⟨⟨hconfigured.volumes, hconfigured.config⟩, hdrives, memory, rfl, hrelated⟩

theorem input (hpaired : Paired held related config otherConfig machine host other otherHost)
    (port : UInt8) :
    (other.input port).value.1 = (machine.input port).value.1 ∧
      Paired held related config otherConfig (machine.input port).value.2 host
        (other.input port).value.2 otherHost := by
  obtain ⟨hconfigured, hdrives, memory, rfl, hrelated⟩ := hpaired
  have hports : (machine.withStorage otherConfig memory).ports = machine.ports := rfl
  simp only [Machine.input, Logged.value_bind, value_lookup, hports]
  rcases machine.ports.binding? port with _ | ⟨device, register⟩
  · exact ⟨rfl, hconfigured, hdrives, memory, rfl, hrelated⟩
  · cases device <;>
      exact ⟨rfl, ⟨hconfigured.volumes, hconfigured.config⟩, hdrives, memory, rfl, hrelated⟩

/-! ## Dialogs and all operations -/

/-- Paired machines answer a request of a dialog alike and stay paired. -/
theorem request (h : Lockstep held related)
    (hprograms : otherConfig.programsDirectory = config.programsDirectory)
    (hpaired : Paired held related config otherConfig machine host other otherHost)
    (hrequest : Dialog.IsRequest operation) (hallowed : config.Allows held operation) :
    (other.perform otherHost operation).value.1 = (machine.perform host operation).value.1 ∧
      Paired held related config otherConfig (machine.perform host operation).value.2.1
        (machine.perform host operation).value.2.2 (other.perform otherHost operation).value.2.1
        (other.perform otherHost operation).value.2.2 := by
  cases hrequest with
  | setFrontPanel value =>
    obtain ⟨hconfigured, hdrives, memory, rfl, hrelated⟩ := hpaired
    exact ⟨rfl, ⟨hconfigured.volumes, hconfigured.config⟩, hdrives, memory, rfl, hrelated⟩
  | mount number name =>
    obtain ⟨hanswer, hafter⟩ := h.mount hpaired hallowed
    exact ⟨congrArg Answer.mounted hanswer, hafter⟩
  | loadProgram name =>
    obtain ⟨hanswer, hafter⟩ := h.loadProgram hprograms hpaired hallowed
    exact ⟨congrArg Answer.loaded hanswer, hafter⟩

theorem dialog (h : Lockstep held related)
    (hprograms : otherConfig.programsDirectory = config.programsDirectory) :
    Dialog.Lockstep (config.Allows held) (Paired held related config otherConfig) := by
  constructor
  · rintro machine host other otherHost ⟨-, -, memory, rfl, hrelated⟩
    exact ⟨rfl, rfl, rfl, h.disk.memory.read hrelated⟩
  · intro machine host other otherHost hpaired console
    exact hpaired.withConsole console
  · intro machine host other otherHost hpaired operation hrequest hallowed
    exact h.request hprograms hpaired hrequest hallowed

/-- Paired machines answer every operation alike and stay paired. -/
theorem perform (h : Lockstep held related)
    (hprograms : otherConfig.programsDirectory = config.programsDirectory)
    (hpaired : Paired held related config otherConfig machine host other otherHost)
    (hallowed : ∀ request ∈ machine.requestsOf operation, config.Allows held request) :
    (other.perform otherHost operation).value.1 = (machine.perform host operation).value.1 ∧
      Paired held related config otherConfig (machine.perform host operation).value.2.1
        (machine.perform host operation).value.2.2 (other.perform otherHost operation).value.2.1
        (other.perform otherHost operation).value.2.2 := by
  cases operation with
  | mount number name =>
    exact h.request hprograms hpaired (.mount number name) (hallowed _ (by simp [requestsOf]))
  | loadProgram name =>
    exact h.request hprograms hpaired (.loadProgram name) (hallowed _ (by simp [requestsOf]))
  | setFrontPanel value =>
    exact h.request hprograms hpaired (.setFrontPanel value) (hallowed _ (by simp [requestsOf]))
  | dialog =>
    -- A dialog makes requests, and requests are answered alike.
    obtain ⟨hending, hafter⟩ := (h.dialog hprograms).run hpaired hallowed
    exact ⟨congrArg Answer.ended hending, hafter⟩
  | write address value => exact ⟨rfl, h.write hpaired address value⟩
  | output port value => exact ⟨rfl, h.output hpaired port value⟩
  | input port =>
    obtain ⟨hanswer, hafter⟩ := input hpaired port
    exact ⟨congrArg Answer.byte hanswer, hafter⟩
  | unmount number =>
    obtain ⟨hanswer, hafter⟩ := unmount hpaired number
    exact ⟨congrArg Answer.mounted hanswer, hafter⟩
  | read address =>
    -- What memory gives is what the relation of the memories is about.
    obtain ⟨memory, rfl, hrelated⟩ := hpaired.twin
    exact ⟨congrArg Answer.byte (h.disk.memory.read hrelated address), hpaired⟩
  | load address =>
    obtain ⟨memory, rfl, hrelated⟩ := hpaired.twin
    exact ⟨congrArg Answer.fetched (h.disk.memory.fetch hrelated address), hpaired⟩
  | _ =>
    obtain ⟨hconfigured, hdrives, memory, rfl, hrelated⟩ := hpaired
    exact ⟨rfl, ⟨hconfigured.volumes, hconfigured.config⟩, hdrives, memory, rfl, hrelated⟩

end Lockstep

end Machine

end Backplane
