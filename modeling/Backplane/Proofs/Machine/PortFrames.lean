import Backplane.Proofs.Disk.WholeWrites
import Backplane.Proofs.Machine.History
import Backplane.Proofs.Machine.SerialLine

/-!
# What a port access reaches

The port table can be rewired in any way: several ports may lead to one register, and a register may
have a number that its device does not know.  Whatever the table, an access reaches the device that
the port is bound to and no other.  `WritesBound` and `ReadsBound` say so for one port.  Each of
their fields is an equation for the machine and the host afterwards, so that all that it does not
name is seen to be the same.

Only the controller is handed memory and files.  What becomes of them depends on the transfer that
the byte asks for (`Disk.Reaches`): without one they stay, a read stores into working storage, and a
write changes the image in the drive that it names.  The two do not mix as long as the file behind
working storage is not an image itself, which is what `StoresApart` asks for.

Nothing but the table looks at the number of a port.  So two ports that are bound alike can stand
for each other, in one access (`value_input_of_alike`, `value_output_of_alike`) and in a run
(`after_of_exchanged`).

## The controller

Writing to the controller is the only access that can change more than its device.  A byte that is
part of an address or an unknown command changes the latch or nothing; a command that asks for a
transfer changes the status, and what the transfer moves.  `WritesBound.controller` says that the
drives and the directory stay, and `Disk.Reaches` says the rest: bytes of working storage and the
file behind it for a read, the image in the drive for a write, and nothing for any other byte.

Reading a port never asks the host.  The console's data register is the only one whose reading
changes anything, and only if a byte waits.
-/

namespace Backplane

/-- Whether a register has an input side.  The lamp has none, whatever number it is given, and the
console has two. -/
def Binding.HasInput (binding : Binding) : Prop :=
  match binding.device with
  | .console =>
    binding.register = Console.statusRegister ∨ binding.register = Console.dataRegister
  | .led => False
  | .controller | .frontPanel => True

theorem Led.value_output (led : Led) (value : UInt8) :
    (led.output value).value = { lit := value != 0 } := by
  dsimp only [output]
  split <;> rfl

namespace Machine

/-- No file behind the stores of a machine is an image in one of its drives.  Program storage of a
machine that was built has no file. -/
def StoresApart (machine : Machine) (host : Host) : Prop :=
  ∀ file, machine.memory.program.file? = some file ∨ machine.memory.working.file? = some file →
    ∀ drive path, machine.controller.drives.get drive = some path →
      host.find path ≠ .ok (.regular file)

end Machine

namespace Disk

/-- The file of the image in the drive of a number. -/
def IsImage (machine : Machine) (host : Host) (number file : Nat) : Prop :=
  ∃ path, machine.controller.image? number = some path ∧ host.find path = .ok (.regular file)

/-- What a byte for the controller makes of memory and files, by the transfer that it asks for. -/
inductive Reaches (machine : Machine) (host : Host) :
    Option (Direction × Nat) → Memory → Host → Prop
  /-- Without a transfer they stay. -/
  | nothing : Reaches machine host none machine.memory host
  /-- A read changes bytes of working storage, with the file behind it, and no image. -/
  | read (number : Nat) {memory : Memory} {after : Host}
    (working : Memory.WorkingOnly machine.memory memory)
    (files : Host.Agree (fun file => machine.memory.working.file? = some file) host after)
    (images : ∀ drive file, IsImage machine host drive file →
      after.content file = host.content file) :
    Reaches machine host (some (.read, number)) memory after
  /-- A write changes the image in the drive that it names.  No address holds anything else. -/
  | write (number : Nat) {after : Host}
    (files : Host.Agree (IsImage machine host number) host after)
    (holds : ∀ address, machine.memory.fetch after address = machine.memory.fetch host address) :
    Reaches machine host (some (.write, number)) machine.memory after

variable {machine : Machine} {host : Host} {operation : Operation} {number : Nat}

theorem IsImage.not_store (hapart : machine.StoresApart host) {file : Nat}
    (h : IsImage machine host number file) :
    ¬(machine.memory.program.file? = some file ∨ machine.memory.working.file? = some file) := by
  obtain ⟨path, hpath, hfind⟩ := h
  obtain ⟨drive, -, hget⟩ := Option.bind_eq_some_iff.1 hpath
  exact fun hfile => hapart file hfile drive path hget hfind

theorem Selects.isImage {direction : Direction} {descriptor : Descriptor} {path : Path}
    {file : Nat} (h : Selects machine.controller.drives machine.controller.latch.address? direction
      number machine.memory host descriptor path (.regular file)) :
    IsImage machine host number file := by
  obtain ⟨drive, hdrive, hget⟩ := h.mounted
  exact ⟨path, Option.bind_eq_some_iff.2 ⟨drive, hdrive, hget⟩,
    (Image.find_of_openAt h.opened).1⟩

/-- A read touches no file but the one behind working storage. -/
theorem agree_perform_of_reads (hasks : asksFor? machine operation = some (.read, number))
    (host : Host) :
    Host.Agree (fun file => machine.memory.working.file? = some file) host
      (machine.perform host operation).value.2.2 := by
  refine (agree_perform_of_asks hasks host).mono ?_
  rintro file (hfile | ⟨descriptor, hcompleted⟩)
  · exact hfile
  · obtain ⟨_, _, _, _, hwrites, -⟩ := completed?_eq_some_iff.1 hcompleted
    exact absurd (hasks.symm.trans hwrites) (by simp)

/-- A write leaves memory, and touches no file but the image. -/
theorem memory_and_agree_of_writes (hasks : asksFor? machine operation = some (.write, number))
    (host : Host) :
    (machine.perform host operation).value.2.1.memory = machine.memory ∧
      Host.Agree (IsImage machine host number) host
        (machine.perform host operation).value.2.2 := by
  rw [perform_of_asksFor hasks]
  rcases write_cases machine.controller machine.memory host number with
    ⟨descriptor, path, file, bytes, hselects, -, hended⟩ | ⟨failure, hended⟩
  · rw [hended]
    refine ⟨rfl, (host.agree_writeInto (.regular file) descriptor.offset bytes).mono ?_⟩
    rintro _ ⟨⟩
    exact hselects.isImage
  · rw [hended]
    exact ⟨rfl, Host.Agree.refl _ _⟩

/-- A byte for the controller changes at most the latch, the status, and what its transfer
reaches. -/
theorem exists_perform_of_delivered {value : UInt8}
    (hvalue : delivered? machine operation = some value) (hapart : machine.StoresApart host) :
    ∃ latch status memory after,
      (machine.perform host operation).value.2 =
        ({ machine with controller := { machine.controller with latch, status }, memory },
          after) ∧
      Reaches machine host (asksFor? machine operation) memory after := by
  have hperform := perform_of_delivered hvalue host
  obtain ⟨latch, status, hcontroller⟩ :=
    Machine.exists_latch_status_output machine.controller machine.memory host value
  refine ⟨latch, status, (machine.perform host operation).value.2.1.memory,
    (machine.perform host operation).value.2.2, by rw [hperform, ← hcontroller], ?_⟩
  have hmemory : (machine.perform host operation).value.2.1.memory =
      (machine.controller.output machine.memory host value).value.2.1 := by rw [hperform]
  rcases hasks : asksFor? machine operation with _ | ⟨direction, number⟩
  · -- No transfer is asked for.
    have hhost : (machine.perform host operation).value.2.2 =
        (machine.controller.output machine.memory host value).value.2.2 := by rw [hperform]
    rw [hmemory, hhost, output_of_not_asks hvalue hasks host]
    exact .nothing
  · cases direction with
    | read =>
      -- A read stores in working storage, which is kept in no mounted image.
      have hagree := agree_perform_of_reads hasks host
      refine .read number ?_ hagree ?_
      · rw [hmemory]
        exact Controller.workingOnly_output _ _ _ _
      · intro drive file himage
        exact hagree.content file fun hfile => himage.not_store hapart (.inr hfile)
    | write =>
      -- A write stores in the image, which neither store is kept in.
      obtain ⟨hsame, hagree⟩ := memory_and_agree_of_writes hasks host
      rw [hsame]
      refine .write number hagree (Memory.fetch_of_agree hagree ?_)
      exact fun file hfile himage => himage.not_store hapart hfile

end Disk

namespace Machine

variable {machine : Machine} {host : Host} {port : UInt8}

/-! ## Writing a port -/

/-- What writing a port changes, for each register that it can be bound to. -/
structure WritesBound (machine : Machine) (host : Host) (port value : UInt8) : Prop where
  free : machine.ports.binding? port = none →
    (machine.perform host (.output port value)).value = (.nothing, machine, host)
  led : ∀ register, machine.ports.binding? port = some ⟨.led, register⟩ →
    (machine.perform host (.output port value)).value =
      (.nothing, { machine with led := { lit := value != 0 } }, host)
  frontPanel : ∀ register, machine.ports.binding? port = some ⟨.frontPanel, register⟩ →
    (machine.perform host (.output port value)).value =
      (.nothing, { machine with frontPanel := { value } }, host)
  consoleData : machine.IsDataPort port →
    (machine.perform host (.output port value)).value =
      (.nothing, machine.withLine { machine.console.line with
        output := machine.console.line.output.push (value &&& 0x7F) }, host)
  consoleOther : ∀ register, register ≠ Console.dataRegister →
    machine.ports.binding? port = some ⟨.console, register⟩ →
    (machine.perform host (.output port value)).value = (.nothing, machine, host)
  controller : ∀ register, machine.ports.binding? port = some ⟨.controller, register⟩ →
    ∃ latch status memory after,
      (machine.perform host (.output port value)).value =
        (.nothing, { machine with
          controller := { machine.controller with latch, status }, memory }, after) ∧
      Disk.Reaches machine host (Disk.asksFor? machine (.output port value)) memory after

theorem value_perform_output (machine : Machine) (host : Host) (port value : UInt8) :
    (machine.perform host (.output port value)).value =
      (.nothing, (machine.output host port value).value) := rfl

theorem writesBound (hapart : machine.StoresApart host) (port value : UInt8) :
    WritesBound machine host port value := by
  -- A write to a bound port is a write to the register that the binding names.
  have hbound {binding : Binding} (hbinding : machine.ports.binding? port = some binding) :
      (machine.perform host (.output port value)).value =
        (.nothing, (machine.outputTo host binding value).value) := by
    rw [value_perform_output, value_output_of_bound machine host hbinding]
  constructor
  case free =>
    intro hfree
    rw [value_perform_output, value_output_of_free machine host hfree]
  case led =>
    intro register hbinding
    rw [hbound hbinding, value_outputTo, ← Led.value_output machine.led]
  case frontPanel =>
    intro register hbinding
    rw [hbound hbinding, value_outputTo]
    rfl
  case consoleData =>
    intro hdata
    rw [hbound hdata, value_outputTo]
    rfl
  case consoleOther =>
    intro register hregister hbinding
    rw [hbound hbinding, value_outputTo]
    simp only [Console.output, if_neg hregister]
    rfl
  case controller =>
    intro register hbinding
    have hvalue : Disk.delivered? machine (.output port value) = some value := by
      simp [Disk.delivered?, hbinding]
    obtain ⟨latch, status, memory, after, hperform, hreaches⟩ :=
      Disk.exists_perform_of_delivered hvalue hapart
    exact ⟨latch, status, memory, after, Prod.ext rfl hperform, hreaches⟩

/-! ## Reading a port -/

/-- What reading a port answers and changes.  The host is not asked at all. -/
structure ReadsBound (machine : Machine) (host : Host) (port : UInt8) : Prop where
  free : machine.ports.binding? port = none →
    (machine.perform host (.input port)).value = (.byte 0xFF, machine, host)
  noInput : ∀ binding, machine.ports.binding? port = some binding → ¬binding.HasInput →
    (machine.perform host (.input port)).value = (.byte 0xFF, machine, host)
  /-- The data register takes a byte that waits, and remembers it. -/
  waiting : machine.IsDataPort port → ∀ value rest, machine.console.line.input = value :: rest →
    (machine.perform host (.input port)).value =
      (.byte value, machine.withConsole ⟨{ machine.console.line with input := rest }, value⟩, host)
  /-- In every other case nothing changes. -/
  other : ¬(machine.IsDataPort port ∧ machine.console.line.input ≠ []) →
    ∃ value, (machine.perform host (.input port)).value = (.byte value, machine, host)

theorem value_perform_input (machine : Machine) (host : Host) (port : UInt8) :
    (machine.perform host (.input port)).value =
      (.byte (machine.input port).value.1, (machine.input port).value.2, host) := rfl

theorem value_input_of_free (h : machine.ports.binding? port = none) :
    (machine.input port).value = (floatingBus, machine) := by
  rw [input, Logged.value_bind, value_lookup, h]
  rfl

theorem inputFrom_of_no_input (machine : Machine) {binding : Binding} (h : ¬binding.HasInput) :
    machine.inputFrom binding = (floatingBus, machine) := by
  obtain ⟨device, register⟩ := binding
  cases device with
  | console =>
    obtain ⟨hstatus, hdata⟩ := not_or.1 h
    dsimp only at hstatus hdata
    simp only [inputFrom, Console.input, if_neg hstatus, if_neg hdata]
    rfl
  | led => rfl
  | controller => exact absurd trivial h
  | frontPanel => exact absurd trivial h

theorem readsBound (machine : Machine) (host : Host) (port : UInt8) :
    ReadsBound machine host port := by
  constructor
  case free =>
    intro hfree
    rw [value_perform_input, value_input_of_free hfree]
    rfl
  case noInput =>
    intro binding hbinding hside
    rw [value_perform_input, value_input_of_bound hbinding, inputFrom_of_no_input machine hside]
    rfl
  case waiting =>
    intro hdata value rest hwaiting
    rw [value_perform_input, value_input_of_data hdata, dataIn_of_waiting hwaiting]
  case other =>
    intro hnot
    refine ⟨(machine.input port).value.1, ?_⟩
    have hsame : (machine.input port).value.2 = machine := by
      by_cases hdata : machine.IsDataPort port
      · have hempty : machine.console.line.input = [] :=
          Classical.not_not.1 fun hwaiting => hnot ⟨hdata, hwaiting⟩
        rw [value_input_of_data hdata, dataIn_of_empty hempty]
        rfl
      · exact input_of_other hdata
    rw [value_perform_input, hsame]

/-! ## Ports that are bound alike -/

/-- One of two ports. -/
def IsEither (first second port : UInt8) : Prop := port = first ∨ port = second

/-- The same step, or the same access through either of two ports. -/
inductive Exchanges (first second : UInt8) : Step → Step → Prop
  | same (step : Step) : Exchanges first second step step
  | input {port other : UInt8} (here : IsEither first second port)
    (there : IsEither first second other) :
    Exchanges first second (.operation (.input port)) (.operation (.input other))
  | output {port other : UInt8} (value : UInt8) (here : IsEither first second port)
    (there : IsEither first second other) :
    Exchanges first second (.operation (.output port value)) (.operation (.output other value))

/-- Two ports are bound alike at every one of some moments. -/
def BoundAlike (first second : UInt8) (moments : List Moment) : Prop :=
  ∀ moment ∈ moments,
    moment.machine.ports.binding? first = moment.machine.ports.binding? second

/-- What a step answers, if the machine is asked. -/
def answer? (machine : Machine) (host : Host) : Step → Option Answer
  | .operation operation => some (machine.perform host operation).value.1
  | .outside _ => none

/-- What a run answers. -/
def answers (machine : Machine) (host : Host) : List Step → List Answer
  | [] => []
  | step :: rest =>
    (machine.answer? host step).toList ++
      (machine.step host step).1.answers (machine.step host step).2 rest

theorem value_input_of_alike {other : UInt8}
    (h : machine.ports.binding? port = machine.ports.binding? other) :
    (machine.input port).value = (machine.input other).value := by
  simp only [input, Logged.value_bind, value_lookup, h]

theorem value_output_of_alike {other : UInt8}
    (h : machine.ports.binding? port = machine.ports.binding? other) (host : Host)
    (value : UInt8) :
    (machine.output host port value).value = (machine.output host other value).value := by
  simp only [output, Logged.value_bind, value_lookup, h]

section Alike

variable {first second : UInt8}

theorem IsEither.binding?_eq {other : UInt8} (here : IsEither first second port)
    (there : IsEither first second other)
    (h : machine.ports.binding? first = machine.ports.binding? second) :
    machine.ports.binding? port = machine.ports.binding? other := by
  rcases here with rfl | rfl <;> rcases there with rfl | rfl <;> simp only [h]

/-- An access through the other port answers and changes the same. -/
theorem Exchanges.step_eq {step other : Step} (h : Exchanges first second step other)
    (halike : BoundAlike first second (machine.momentsOfStep host step)) :
    machine.answer? host step = machine.answer? host other ∧
      machine.step host step = machine.step host other := by
  cases h with
  | same => exact ⟨rfl, rfl⟩
  | input here there =>
    have hsame := value_input_of_alike (here.binding?_eq there (halike _ List.mem_cons_self))
    dsimp only at hsame
    simp only [answer?, Machine.step, value_perform_input, hsame, and_self]
  | output value here there =>
    have hsame := value_output_of_alike
      (here.binding?_eq there (halike _ List.mem_cons_self)) host value
    dsimp only at hsame
    simp only [answer?, Machine.step, value_perform_output, hsame, and_self]

/-- A run goes as it would through the other of two ports, for as long as they are bound alike. -/
theorem after_of_exchanged {steps others : List Step}
    (hsteps : List.Forall₂ (Exchanges first second) steps others)
    (halike : BoundAlike first second (machine.history host steps)) :
    machine.answers host steps = machine.answers host others ∧
      machine.after host steps = machine.after host others := by
  induction hsteps generalizing machine host with
  | nil => exact ⟨rfl, rfl⟩
  | @cons step other rest others hstep hrest ih =>
    rw [history] at halike
    obtain ⟨hnow, hlater⟩ := List.forall_mem_append.1 halike
    obtain ⟨hanswer, hafter⟩ := hstep.step_eq hnow
    obtain ⟨hanswers, hreached⟩ := ih hlater
    simp only [answers, Machine.after, ← hanswer, ← hafter]
    exact ⟨by rw [hanswers], hreached⟩

end Alike

/-! ## All ports of a machine -/

/-- Port accesses reach only what the port is bound to, and ports that are bound alike stand for
each other.  The first two fields are about one access in a state of the machine, and the third
about a run from it, in which the table may be rewired as long as the two ports stay bound alike. -/
structure ReachesBound (machine : Machine) (host : Host) : Prop where
  output : ∀ port value, WritesBound machine host port value
  input : ∀ port, ReadsBound machine host port
  exchange : ∀ first second steps others,
    List.Forall₂ (Exchanges first second) steps others →
    BoundAlike first second (machine.history host steps) →
    machine.answers host steps = machine.answers host others ∧
      machine.after host steps = machine.after host others

/-- However its ports are bound, an access reaches only the device behind the port, and with the
controller what its transfer moves.  Ports that stay bound alike can be exchanged in a whole run, in
any of its accesses, and no answer and no state shows which of them was used. -/
theorem reachesBound_of_apart (hapart : machine.StoresApart host) :
    ReachesBound machine host where
  output := writesBound hapart
  input := readsBound machine host
  exchange _ _ _ _ := after_of_exchanged

/-- A host with a disk and an image for working storage. -/
def sharedPortsHost : Host :=
  .ofContents [(["D", "A.DSK"], .regular 0), (["D"], .directory), (["M"], .regular 1)]
    [.zeros 128, (Content.zeros 256).put 1 1]

/-- A machine without program storage, with working storage in its image, the disk in the first
drive, and two more ports for the controller, through a register that it does not know. -/
def sharedPortsMachine : Machine :=
  { ofMemory { volumesDirectory := ⟨"D"⟩ }
      (.ofStores (.zeroed 0) (.persistent (.regular 1) ⟨"M"⟩ 256) true) {} with
    controller :=
      { volumesDirectory := ⟨"D"⟩, drives := { first := some ⟨"D/A.DSK"⟩ } }
    ports := (PortTable.standard.assign 7 ⟨.controller, 9⟩).assign 8 ⟨.controller, 9⟩ }

/-- A sector is read by bytes that go through one of the two ports, and the status is read. -/
def stepsThrough (port : UInt8) : List Step :=
  [.operation (.output port 0x10), .operation (.output port 0), .operation (.output port 0),
    .operation (.output port 0x20), .operation (.input port)]

theorem reachesBound_of_shared :
    sharedPortsMachine.StoresApart sharedPortsHost ∧
      BoundAlike 7 8 (sharedPortsMachine.history sharedPortsHost (stepsThrough 7)) ∧
      sharedPortsMachine.answers sharedPortsHost (stepsThrough 7) =
        sharedPortsMachine.answers sharedPortsHost (stepsThrough 8) ∧
      (sharedPortsMachine.perform sharedPortsHost (.output 3 0x20)).value =
        (.nothing, sharedPortsMachine, sharedPortsHost) := by
  have hapart : sharedPortsMachine.StoresApart sharedPortsHost := by
    rintro file (hprogram | hworking) drive path hget
    · rw [show sharedPortsMachine.memory.program.file? = none from rfl] at hprogram
      exact absurd hprogram (by simp)
    · obtain rfl : 1 = file := Option.some.inj hworking
      cases drive with
      | first =>
        obtain rfl : ⟨"D/A.DSK"⟩ = path := Option.some.inj hget
        decide +kernel
      | second => exact absurd hget (by simp [sharedPortsMachine, Disk.Drives.get])
  have hreaches := reachesBound_of_apart hapart
  have halike : BoundAlike 7 8 (sharedPortsMachine.history sharedPortsHost (stepsThrough 7)) := by
    unfold BoundAlike
    decide +kernel
  have hsteps : List.Forall₂ (Exchanges 7 8) (stepsThrough 7) (stepsThrough 8) := by
    have houtput (value : UInt8) : Exchanges 7 8 (.operation (.output 7 value))
        (.operation (.output 8 value)) := .output value (.inl rfl) (.inr rfl)
    exact .cons (houtput _) (.cons (houtput _) (.cons (houtput _) (.cons (houtput _)
      (.cons (.input (.inl rfl) (.inr rfl)) .nil))))
  exact ⟨hapart, halike, (hreaches.exchange 7 8 _ _ hsteps halike).1,
    (hreaches.output 3 0x20).free (by decide +kernel)⟩

end Machine

end Backplane
