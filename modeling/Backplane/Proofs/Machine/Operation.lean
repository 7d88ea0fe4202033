import Backplane.Dialog.Session
import Backplane.Proofs.Content.Ranges

/-!
# Operations and their runs

What can be done to a machine is an `Operation`: a cycle on the bus or on a port, which the
processor makes, or a request of the person at the host.  `Machine.perform` carries one out and
answers it.  No operation can be impossible in some state of the machine, so a run is any list of
them, and since the machine is not alone on its host, files may change in any way between two of
them (`Step.outside`).

The lemmas of this file say what each operation can change.  They are stated as equations for the
machine afterwards, in terms of the parts that changed, so that every other part is seen to be
the same by projecting.

## Runs

There are three kinds of runs, one for each question.  `performAll` carries out operations in a row
on a host that nobody else changes, which is what a dialog amounts to.  `after` goes along steps, in
which others may change the host between two operations.  Several machines on one host are a `World`
(`Backplane.Proofs.Machine.World`), where the same steps are told apart by the machine they are made
on.

A change from outside is any host whatever.  Statements about files therefore need to say what they
rely on, and statements about the machine alone do not.
-/

namespace Backplane

/-- One thing that can be done to a machine. -/
inductive Operation where
  /-- A read cycle on the bus. -/
  | read (address : UInt16)
  /-- A write cycle on the bus. -/
  | write (address : UInt16) (value : UInt8)
  /-- A byte loaded past the bus, with its fault. -/
  | load (address : UInt16)
  /-- A port is read. -/
  | input (port : UInt8)
  /-- A port is written. -/
  | output (port value : UInt8)
  /-- A disk is put into a drive. -/
  | mount (number : Nat) (name : String)
  /-- A drive is emptied. -/
  | unmount (number : Nat)
  /-- A program image is loaded. -/
  | loadProgram (name : String)
  /-- The front panel is set. -/
  | setFrontPanel (value : UInt8)
  /-- A port is bound to a register. -/
  | assign (port : UInt8) (binding : Binding)
  /-- A port is freed. -/
  | unassign (port : UInt8)
  /-- Bytes arrive on the serial line. -/
  | receive (values : List UInt8)
  /-- The serial line's ready signal changes. -/
  | setReady (ready : Bool)
  /-- The configuration dialog is run on the bytes that wait. -/
  | dialog

/-- What an operation answers. -/
inductive Answer where
  | nothing
  | byte (value : UInt8)
  | fetched (result : Except Fault UInt8)
  | mounted (result : Except MachineError Unit)
  | loaded (result : Except MachineError Nat)
  | ended (ending : Dialog.Ending)

namespace Machine

/-- The same machine on another console. -/
def withConsole (machine : Machine) (console : Console) : Machine := { machine with console }

/-- The same machine on another state of its serial line. -/
def withLine (machine : Machine) (line : Console.Line) : Machine :=
  machine.withConsole { machine.console with line }

/-- Carries out an operation. -/
def perform (machine : Machine) (host : Host) : Operation → Logged (Answer × Machine × Host)
  | .read address => do
    let value ← machine.read host address
    pure (.byte value, machine, host)
  | .write address value => do
    let (machine, host) ← machine.write host address value
    pure (.nothing, machine, host)
  | .load address => do
    let result ← machine.memory.load host address
    pure (.fetched result, machine, host)
  | .input port => do
    let (value, machine) ← machine.input port
    pure (.byte value, machine, host)
  | .output port value => do
    let (machine, host) ← machine.output host port value
    pure (.nothing, machine, host)
  | .mount number name => do
    let (result, machine) ← machine.mount host number name
    pure (.mounted result, machine, host)
  | .unmount number => do
    let (result, machine) ← machine.unmount number
    pure (.mounted result, machine, host)
  | .loadProgram name => do
    let (result, machine, host) ← machine.loadProgram host name
    pure (.loaded result, machine, host)
  | .setFrontPanel value => do
    let machine ← machine.setFrontPanel value
    pure (.nothing, machine, host)
  | .assign port binding =>
    pure (.nothing, { machine with ports := machine.ports.assign port binding }, host)
  | .unassign port =>
    pure (.nothing, { machine with ports := machine.ports.unassign port }, host)
  | .receive values =>
    pure (.nothing, machine.withLine (machine.console.line.receive values), host)
  | .setReady ready =>
    pure (.nothing, machine.withLine (machine.console.line.setReady ready), host)
  | .dialog => do
    let (ending, machine, host) ← Dialog.run machine host
    pure (.ended ending, machine, host)

/-- The machine and the host after operations in a row. -/
def performAll (machine : Machine) (host : Host) : List Operation → Machine × Host
  | [] => (machine, host)
  | operation :: rest =>
    (machine.perform host operation).value.2.1.performAll
      (machine.perform host operation).value.2.2 rest

/-- The answers to operations in a row. -/
def answersTo (machine : Machine) (host : Host) : List Operation → List Answer
  | [] => []
  | operation :: rest =>
    (machine.perform host operation).value.1 ::
      (machine.perform host operation).value.2.1.answersTo
        (machine.perform host operation).value.2.2 rest

end Machine

/-- What happens next: an operation of the machine, or a change of the host by others.  The second
may replace the whole host, so nothing about files survives it unless the statement says so. -/
inductive Step where
  | operation (operation : Operation)
  | outside (host : Host)

namespace Machine

/-- The machine and the host after one step. -/
def step (machine : Machine) (host : Host) : Step → Machine × Host
  | .operation operation => (machine.perform host operation).value.2
  | .outside host => (machine, host)

/-- The machine and the host after steps in a row. -/
def after (machine : Machine) (host : Host) : List Step → Machine × Host
  | [] => (machine, host)
  | step :: rest => (machine.step host step).1.after (machine.step host step).2 rest

theorem after_append_singleton (machine : Machine) (host : Host) (steps : List Step)
    (step : Step) :
    machine.after host (steps ++ [step]) =
      (machine.after host steps).1.step (machine.after host steps).2 step := by
  induction steps generalizing machine host with
  | nil => rfl
  | cons first rest ih => exact ih _ _

theorem performAll_append (machine : Machine) (host : Host) (first second : List Operation) :
    machine.performAll host (first ++ second) =
      (machine.performAll host first).1.performAll (machine.performAll host first).2 second := by
  induction first generalizing machine host with
  | nil => rfl
  | cons operation rest ih => exact ih _ _

/-! ## Building -/

/-- The steps of building: room is made for the program, working storage is opened, and both are
laid out. -/
theorem value_build (config : Config) (line : Console.Line) (host : Host) :
    (build config line host).value =
      match Store.allocate config.programSize with
      | .error panic => (.error (.panicked panic), host)
      | .ok program =>
        match (openWorking config host).value with
        | (.error failure, after) => (.error failure, after)
        | (.ok working, after) =>
          match Memory.layOut program working config.reservedPage with
          | .error failure => (.error failure, after)
          | .ok memory => (.ok (ofMemory config memory line), after) := by
  unfold build
  cases Store.allocate config.programSize with
  | error panic => rfl
  | ok program =>
    dsimp only
    rw [Logged.value_bind]
    rcases (openWorking config host).value with ⟨failure | working, after⟩
    · rfl
    · dsimp only
      cases Memory.layOut program working config.reservedPage <;> rfl

/-- A machine that was built is made of laid-out storage: an array of zeros, and what opening
working storage gave. -/
theorem exists_layOut_of_build {config : Config} {line : Console.Line} {host : Host}
    {machine : Machine} {start : Host}
    (h : (build config line host).value = (.ok machine, start)) :
    ∃ working memory, (openWorking config host).value = (.ok working, start) ∧
      Memory.layOut (.zeroed config.programSize) working config.reservedPage = .ok memory ∧
      machine = ofMemory config memory line := by
  rw [value_build] at h
  cases hprogram : Store.allocate config.programSize with
  | error panic => simp [hprogram] at h
  | ok program =>
    -- Program storage is an array of zeros, and working storage is opened next.
    obtain ⟨-, rfl⟩ := Store.allocate_eq_ok_iff.1 hprogram
    rw [hprogram] at h
    dsimp only at h
    rcases hopened : (openWorking config host).value with ⟨failure | working, after⟩
    · simp [hopened] at h
    · rw [hopened] at h
      dsimp only at h
      cases hlayout : Memory.layOut (.zeroed config.programSize) working config.reservedPage with
      | error failure => simp [hlayout] at h
      | ok memory =>
        simp only [hlayout, Prod.mk.injEq, Except.ok.injEq] at h
        obtain ⟨rfl, rfl⟩ := h
        exact ⟨working, memory, rfl, hlayout, rfl⟩

/-- All that building does to the host is opening working storage, and it may not get so far.  So
what holds of the host at first and after that, holds after building. -/
theorem host_build (holds : Host → Prop) {config : Config} {host : Host} (hbefore : holds host)
    (hopened : holds (openWorking config host).value.2) (line : Console.Line) :
    holds (build config line host).value.2 := by
  rw [value_build]
  cases Store.allocate config.programSize with
  | error panic => exact hbefore
  | ok program =>
    dsimp only
    generalize (openWorking config host).value = opened at hopened ⊢
    rcases opened with ⟨failure | working, after⟩
    · exact hopened
    · cases hlayout : Memory.layOut program working config.reservedPage <;>
        simpa only [hlayout] using hopened

/-! ## What each operation changes -/

variable (machine : Machine) (host : Host)

/-- Reading a port takes at most a byte from the console. -/
theorem exists_console_input (port : UInt8) :
    ∃ console, (machine.input port).value.2 = machine.withConsole console := by
  have hfrom (binding : Binding) :
      ∃ console, (machine.inputFrom binding).2 = machine.withConsole console := by
    unfold inputFrom
    split
    · exact ⟨_, rfl⟩
    all_goals exact ⟨machine.console, rfl⟩
  unfold input
  rw [Logged.value_bind]
  cases (machine.ports.lookup port).value with
  | none => exact ⟨machine.console, rfl⟩
  | some binding => exact hfrom binding

theorem value_lookup (ports : PortTable) (port : UInt8) :
    (ports.lookup port).value = ports.binding? port := by
  unfold PortTable.lookup
  cases ports.binding? port <;> rfl

/-- What is written to a free port is lost. -/
theorem value_output_of_free {port : UInt8} (h : machine.ports.binding? port = none)
    (value : UInt8) : (machine.output host port value).value = (machine, host) := by
  unfold output
  rw [Logged.value_bind, value_lookup, h]
  rfl

theorem value_output_of_bound {port : UInt8} {binding : Binding}
    (h : machine.ports.binding? port = some binding) (value : UInt8) :
    (machine.output host port value).value = (machine.outputTo host binding value).value := by
  unfold output
  rw [Logged.value_bind, value_lookup, h]

/-- What writing a register changes: its own device, and for the controller memory and files. -/
theorem value_outputTo (binding : Binding) (value : UInt8) :
    (machine.outputTo host binding value).value =
      match binding.device with
      | .console =>
        (machine.withConsole (machine.console.output binding.register value).value, host)
      | .led => ({ machine with led := (machine.led.output value).value }, host)
      | .controller =>
        match (machine.controller.output machine.memory host value).value with
        | (controller, memory, host) => ({ machine with controller, memory }, host)
      | .frontPanel => ({ machine with frontPanel := machine.frontPanel.output value }, host) := by
  unfold outputTo
  obtain ⟨device, register⟩ := binding
  cases device <;> rfl

theorem value_output_of_controller {port : UInt8} {register : UInt8}
    (h : machine.ports.binding? port = some ⟨.controller, register⟩) (value : UInt8) :
    (machine.output host port value).value =
      match (machine.controller.output machine.memory host value).value with
      | (controller, memory, host) => ({ machine with controller, memory }, host) := by
  rw [value_output_of_bound machine host h, value_outputTo]

/-- Only the controller can change memory or files when its port is written. -/
theorem output_of_not_controller {port : UInt8}
    (h : ∀ register, machine.ports.binding? port ≠ some ⟨.controller, register⟩)
    (value : UInt8) :
    (machine.output host port value).value.1.memory = machine.memory ∧
      (machine.output host port value).value.1.controller = machine.controller ∧
      (machine.output host port value).value.2 = host := by
  cases hbinding : machine.ports.binding? port with
  | none =>
    rw [value_output_of_free machine host hbinding]
    exact ⟨rfl, rfl, rfl⟩
  | some binding =>
    rw [value_output_of_bound machine host hbinding, value_outputTo]
    obtain ⟨device, register⟩ := binding
    cases device with
    | console => exact ⟨rfl, rfl, rfl⟩
    | led => exact ⟨rfl, rfl, rfl⟩
    | controller => exact absurd hbinding (h register)
    | frontPanel => exact ⟨rfl, rfl, rfl⟩

theorem exists_drives_unmount (controller : Disk.Controller) (number : Nat) :
    ∃ drives, (controller.unmount number).value.2 = { controller with drives } := by
  unfold Disk.Controller.unmount
  split
  · exact ⟨controller.drives, rfl⟩
  · exact ⟨_, rfl⟩

/-- Mounting changes at most the drives. -/
theorem exists_drives_mount (controller : Disk.Controller) (number : Nat) (name : String) :
    ∃ drives, (controller.mount host number name).value.2 = { controller with drives } := by
  unfold Disk.Controller.mount
  split
  · exact ⟨controller.drives, rfl⟩
  · split
    · exact exists_drives_unmount controller number
    · split
      · exact ⟨controller.drives, rfl⟩
      · split
        · exact ⟨_, rfl⟩
        · exact ⟨controller.drives, rfl⟩

/-- Loading a program fills program storage with the image that the name leads to, or refuses. -/
theorem value_loadProgram (name : String) :
    (machine.loadProgram host name).value =
      match machine.findProgram host name with
      | .error refusal => (.error refusal, machine, host)
      | .ok (_, image) =>
        match machine.memory.loadProgram host image.toList with
        | (result, memory, host) =>
          (result.map fun _ => image.length, { machine with memory }, host) := by
  unfold loadProgram
  rcases machine.findProgram host name with refusal | ⟨path, image⟩
  · rfl
  · dsimp only
    cases hrefusal : machine.memory.sizeRefusal? image.length with
    | none =>
      obtain ⟨config, memory, ports, console, led, controller, frontPanel⟩ := machine
      dsimp only
      rcases memory.loadProgram host image.toList with ⟨_ | _, after, hostAfter⟩ <;> rfl
    | some refusal =>
      -- An image that is too long is refused before memory is asked, and memory would have refused
      -- it too.
      have hmemory : machine.memory.loadProgram host image.toList =
          (.error refusal, machine.memory, host) := by
        rw [Memory.loadProgram, Content.length_toList, hrefusal]
      rw [hmemory]
      rfl

/-- A machine with four bytes of each storage, as it is built. -/
def small (config : Config) (line : Console.Line) : Machine :=
  ofMemory config (.ofStores (.zeroed 4) (.zeroed 4) true) line

end Machine

end Backplane
