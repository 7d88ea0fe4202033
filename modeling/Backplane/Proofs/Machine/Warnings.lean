import Backplane.Proofs.Disk.Warnings

/-!
# Warnings of a machine

A warning is reported where a device fails and nowhere else.  Devices are reached by bus cycles and
by bytes for the disk controller, and what those report is known.  This file goes through all the
operations of a machine.  A bus cycle reports what memory does, a byte that reaches the controller
reports what the controller does, through whichever port it comes, and every other operation is
quiet (`quiet_perform`), but for a dialog.

A dialog shows memory, and it reads it on the bus.  So its warnings are those of the read cycles of
its dumps, in their order, each on the machine as it is then (`dumpWarnings`).  They are found along
the answers, as the requests are.

## What is counted

The log has many lines, and two kinds of them are counted here.  A warning says that a device has
failed, or that a command was not known.  A line with a status says how a transfer has ended.
Building a machine, mounting, loading and the ports report lines of other kinds, and dialogs report
those of the operations that they ask for.

The proof goes by the parts of a machine.  `Quiet` is closed under sequencing, so an operation that
is put together from quiet parts is quiet; `Tells` is for the one part that may fail.
-/

namespace Backplane

open Logged (Reports Quiet Tells)

namespace Dialog

/-! ## Dumps -/

/-- Consecutive addresses, wrapping at the top. -/
def addressesFrom (address : UInt16) (count : Nat) : List UInt16 :=
  (List.range count).map fun i => address + UInt16.ofNat i

/-- The warnings of read cycles in a row. -/
def readWarnings (memory : Memory) (host : Host) (addresses : List UInt16) : List Event :=
  addresses.flatMap fun address => Event.warnings (memory.read host address).events

/-- The addresses that an answer has read on the bus: 256 for a dump, and else none. -/
def dumped : Prompt × String → List UInt16
  | (.address, text) =>
    match Numeral.word? text with
    | .ok start => addressesFrom start 256
    | .error _ => []
  | _ => []

/-- The warnings of all the read cycles that answers lead to, when each of them is obeyed before the
next. -/
def dumpWarnings (machine : Machine) (host : Host) : List (Prompt × String) → List Event
  | [] => []
  | answer :: rest =>
    readWarnings machine.memory host (dumped answer) ++
      dumpWarnings (machine.performAll host (request? answer).toList).1
        (machine.performAll host (request? answer).toList).2 rest

theorem addressesFrom_succ (address : UInt16) (count : Nat) :
    addressesFrom address (count + 1) = address :: addressesFrom (address + 1) count := by
  simp [addressesFrom, List.range_succ_eq_map, Memory.add_one_add_ofNat, Function.comp_def]

theorem addressesFrom_add (address : UInt16) (first second : Nat) :
    addressesFrom address (first + second) =
      addressesFrom address first ++ addressesFrom (address + UInt16.ofNat first) second := by
  induction first generalizing address with
  | zero => simp [addressesFrom]
  | succ first ih =>
    rw [Nat.succ_add_eq_add_succ, Nat.add_succ, addressesFrom_succ, addressesFrom_succ, ih,
      Memory.add_one_add_ofNat]
    rfl

theorem readWarnings_append (memory : Memory) (host : Host) (first second : List UInt16) :
    readWarnings memory host (first ++ second) =
      readWarnings memory host first ++ readWarnings memory host second :=
  List.flatMap_append

theorem reports_read (memory : Memory) (host : Host) (address : UInt16) :
    Reports (memory.read host address) (readWarnings memory host [address]) [] :=
  ⟨by simp [readWarnings], (memory.tells_read host address).statuses⟩

theorem reports_readBlock (memory : Memory) (host : Host) (address : UInt16) (count : Nat) :
    Reports (readBlock memory host address count)
      (readWarnings memory host (addressesFrom address count)) [] := by
  induction count generalizing address with
  | zero => exact ⟨rfl, rfl⟩
  | succ count ih =>
    rw [addressesFrom_succ, ← List.singleton_append, readWarnings_append]
    exact (reports_read memory host address).bind ((ih (address + 1)).bind_pure _)

theorem reports_dumpRows (memory : Memory) (host : Host) (address : UInt16) (rows : Nat) :
    Reports (dumpRows memory host address rows)
      (readWarnings memory host (addressesFrom address (16 * rows))) [] := by
  induction rows generalizing address with
  | zero => exact ⟨rfl, rfl⟩
  | succ rows ih =>
    have hcount : 16 * (rows + 1) = 16 + 16 * rows := by omega
    rw [hcount, addressesFrom_add, readWarnings_append]
    refine (reports_readBlock memory host address rowLength).bind ?_
    exact (ih (address + UInt16.ofNat rowLength)).bind_pure _

theorem reports_dump (memory : Memory) (host : Host) (start : UInt16) :
    Reports (dump memory host start) (readWarnings memory host (addressesFrom start 256)) [] :=
  (reports_dumpRows memory host start rowCount).bind_pure _

end Dialog

/-! ## Operations -/

namespace Disk.Controller

theorem quiet_unmount (controller : Controller) (number : Nat) :
    Quiet (controller.unmount number) := by
  unfold unmount
  split
  · exact .pure _
  · rename_i drive _
    cases controller.drives.get drive <;> exact ⟨rfl, rfl⟩

theorem quiet_mount (controller : Controller) (host : Host) (number : Nat) (name : String) :
    Quiet (controller.mount host number name) := by
  unfold mount
  split
  · exact .pure _
  · split
    · exact controller.quiet_unmount number
    · split
      · exact .pure _
      · split <;> exact ⟨rfl, rfl⟩

end Disk.Controller

namespace Machine

variable (machine : Machine) (host : Host)

theorem quiet_mount (number : Nat) (name : String) : Quiet (machine.mount host number name) :=
  (machine.controller.quiet_mount host number name).bind fun _ => .pure _

theorem quiet_unmount (number : Nat) : Quiet (machine.unmount number) :=
  (machine.controller.quiet_unmount number).bind fun _ => .pure _

theorem quiet_loadProgram (name : String) : Quiet (machine.loadProgram host name) := by
  unfold loadProgram
  split
  · exact .pure _
  · split
    · exact .pure _
    · obtain ⟨config, memory, ports, console, led, controller, frontPanel⟩ := machine
      dsimp only
      split
      · exact .pure _
      · exact Quiet.bind ⟨rfl, rfl⟩ fun _ => .pure _

theorem quiet_setFrontPanel (value : UInt8) : Quiet (machine.setFrontPanel value) :=
  Quiet.bind ⟨rfl, rfl⟩ fun _ => .pure _

theorem quiet_lookup (ports : PortTable) (port : UInt8) : Quiet (ports.lookup port) := by
  unfold PortTable.lookup
  split
  · exact .pure _
  · exact Quiet.bind ⟨rfl, rfl⟩ fun _ => .pure _

theorem quiet_input (port : UInt8) : Quiet (machine.input port) := by
  refine (quiet_lookup machine.ports port).bind fun found => ?_
  cases found <;> exact .pure _

/-- What is written to a register that is not the controller's reports nothing that counts. -/
theorem quiet_outputTo {binding : Binding} (h : binding.device ≠ .controller) (value : UInt8) :
    Quiet (machine.outputTo host binding value) := by
  obtain ⟨config, memory, ports, console, led, controller, frontPanel⟩ := machine
  obtain ⟨device, register⟩ := binding
  cases device with
  | console =>
    have hconsole : Quiet (console.output register value) := by
      unfold Console.output
      split
      · exact .pure _
      · exact Quiet.bind ⟨rfl, rfl⟩ fun _ => .pure _
    exact hconsole.bind fun _ => .pure _
  | led =>
    have hled : Quiet (led.output value) := by
      unfold Led.output
      dsimp only
      split
      · exact Quiet.bind ⟨rfl, rfl⟩ fun _ => .pure _
      · exact (Quiet.pure _).bind fun _ => .pure _
    exact hled.bind fun _ => .pure _
  | controller => exact absurd rfl h
  | frontPanel => exact .pure _

theorem events_output_of_bound {port : UInt8} {binding : Binding}
    (h : machine.ports.binding? port = some binding) (value : UInt8) :
    (machine.output host port value).events = (machine.outputTo host binding value).events := by
  simp [output, PortTable.lookup, h]

theorem quiet_output {port value : UInt8}
    (h : Disk.delivered? machine (.output port value) = none) :
    Quiet (machine.output host port value) := by
  cases hbinding : machine.ports.binding? port with
  | none =>
    have hevents : (machine.output host port value).events = [.unassignedPort port] := by
      simp [output, PortTable.lookup, hbinding]
    exact (⟨rfl, rfl⟩ : Quiet (Logged.report (.unassignedPort port))).of_events_eq hevents
  | some binding =>
    obtain ⟨device, register⟩ := binding
    have hdevice : device ≠ .controller := by
      rintro rfl
      exact Disk.not_controller_of_delivered? h register hbinding
    exact (machine.quiet_outputTo host hdevice value).of_events_eq
      (machine.events_output_of_bound host hbinding value)

/-- A byte that reaches the controller reports what writing its register does. -/
theorem events_perform_of_delivered {operation : Operation} {value : UInt8}
    (h : Disk.delivered? machine operation = some value) :
    (machine.perform host operation).events =
      (machine.controller.output machine.memory host value).events := by
  cases operation with
  | output port sent =>
    simp only [Disk.delivered?] at h
    split at h
    · rename_i register hbinding
      obtain rfl := Option.some.inj h
      simp [perform, machine.events_output_of_bound host hbinding, outputTo]
    · exact absurd h (by simp)
  | _ => simp [Disk.delivered?] at h

/-- An operation that is no bus cycle and no dialog, and delivers no byte to the controller. -/
theorem quiet_perform {operation : Operation} (hread : ∀ address, operation ≠ .read address)
    (hwrite : ∀ address value, operation ≠ .write address value) (hdialog : operation ≠ .dialog)
    (h : Disk.delivered? machine operation = none) : Quiet (machine.perform host operation) := by
  cases operation with
  | read address => exact absurd rfl (hread address)
  | write address value => exact absurd rfl (hwrite address value)
  | dialog => exact absurd rfl hdialog
  | load address => exact (machine.memory.quiet_load host address).bind fun _ => .pure _
  | input port => exact (machine.quiet_input port).bind fun _ => .pure _
  | output port value => exact (machine.quiet_output host h).bind fun _ => .pure _
  | mount number name => exact (machine.quiet_mount host number name).bind fun _ => .pure _
  | unmount number => exact (machine.quiet_unmount number).bind fun _ => .pure _
  | loadProgram name => exact (machine.quiet_loadProgram host name).bind fun _ => .pure _
  | setFrontPanel value => exact (machine.quiet_setFrontPanel value).bind fun _ => .pure _
  | assign | unassign | receive | setReady => exact .pure _

/-- Opening a persistent store warns of nothing, however it ends. -/
theorem quiet_openPersistent (path : Path) (size : Nat) :
    Quiet (Store.openPersistent host path size) := by
  have hopened (node : Node) (host : Host) :
      Quiet (Store.openPersistent.opened path size node host) := ⟨rfl, rfl⟩
  unfold Store.openPersistent
  split
  -- The file could not be opened.
  · exact .pure _
  · split
    -- It could not be measured.
    · exact .pure _
    · split
      · split
        -- It could not be made long enough.
        · exact .pure _
        · exact hopened _ _
      · exact hopened _ _

theorem quiet_openWorking (config : Config) : Quiet (openWorking config host) := by
  unfold openWorking
  split
  · exact (quiet_openPersistent host _ _).bind fun _ => .pure _
  · exact .pure _

theorem quiet_build (config : Config) (line : Console.Line) : Quiet (build config line host) := by
  unfold build
  split
  · exact .pure _
  · refine (quiet_openWorking host config).bind fun working => ?_
    rcases working with ⟨_ | _, after⟩
    · exact .pure _
    · dsimp only
      split
      · exact .pure _
      · exact Quiet.bind ⟨rfl, rfl⟩ fun _ => .pure _

end Machine

namespace Dialog

/-! ## Dialogs -/

variable (machine : Machine) (host : Host)

theorem reports_act (prompt : Prompt) (text : String) :
    Reports (act machine host prompt text)
      (readWarnings machine.memory host (dumped (prompt, text))) [] := by
  unfold dumped
  cases prompt with
  | command => exact Quiet.pure _
  | panelValue =>
    unfold act
    dsimp only
    split
    · exact (machine.quiet_setFrontPanel _).bind fun _ => .pure _
    · exact Quiet.pure _
  | programName =>
    refine (machine.quiet_loadProgram host text).bind fun loaded => ?_
    rcases loaded with ⟨_ | _, after, hostAfter⟩ <;> exact .pure _
  | diskName drive =>
    exact (machine.quiet_mount host drive.number text).bind fun _ => .pure _
  | address =>
    -- Only a dump reads memory, and warns of each byte that could not be read.
    unfold act
    dsimp only
    cases Numeral.word? text with
    | ok start => exact (reports_dump machine.memory host start).bind_pure _
    | error _ => exact Quiet.pure _

/-- A complete line reports what the answer does, whatever was said before it. -/
theorem reports_complete (console : Console) (prompt : Prompt) (text : String) :
    Reports (complete (machine.withConsole console) host prompt text)
      (readWarnings machine.memory host (dumped (prompt, text))) [] := by
  cases prompt with
  | command => exact Quiet.pure _
  | _ => exact (reports_act (machine.withConsole console) host _ text).bind_pure _

/-- A session reports what its answers do. -/
theorem reports_run (input : List UInt8) (console : Console) (prompt : Prompt) (text : List UInt8) :
    Reports (Session.run ⟨machine.withConsole console, host, prompt, text⟩ input)
      (dumpWarnings machine host (answers prompt text input)) [] := by
  induction input generalizing machine host console prompt text with
  | nil => exact Quiet.pure _
  | cons key rest ih =>
    simp only [Session.run, Session.feed, answers]
    rcases press prompt.limit text key with ⟨typed, echo, _ | _⟩
    · -- The line goes on, and nothing is asked for.
      exact Reports.bind (Quiet.pure _) (ih machine host _ prompt typed)
    · dsimp only
      refine (reports_complete machine host
        (send (machine.withConsole console) (echo ++ [carriageReturn, lineFeed])).console prompt
        (lineText typed)).bind ?_
      obtain ⟨said, hcomplete⟩ := exists_complete_eq machine host
        (send (machine.withConsole console) (echo ++ [carriageReturn, lineFeed])).console
        prompt (lineText typed)
      rw [hcomplete]
      cases next? prompt (lineText typed) with
      | none => exact Quiet.pure _
      | some next => exact ih _ _ said next []

/-- A dialog reports what the answers on its input do. -/
theorem reports_dialog :
    Reports (run machine host)
      (dumpWarnings machine host (answers .command [] machine.console.line.input)) [] := by
  have hentered : Quiet (Logged.report .dialogEntered) := ⟨rfl, rfl⟩
  have hleft : Quiet (Logged.report .dialogLeft) := ⟨rfl, rfl⟩
  refine Reports.bind hentered ?_
  rw [← List.append_nil (dumpWarnings _ _ _)]
  refine (reports_run machine host machine.console.line.input
    (showMenu (withInput machine []) host).machine.console .command []).bind ?_
  split
  · exact hleft.bind fun _ => .pure _
  · exact Quiet.pure _

end Dialog

/-! ## All operations -/

/-- What memory and a controller report, whatever devices are behind them. -/
structure PartsTell (memory : Memory) (controller : Disk.Controller) (host : Host) : Prop where
  /-- A bus cycle reports the failure of the device behind its address. -/
  read : ∀ address, Tells (memory.read host address) (memory.RefusesLoad host address) []
  write : ∀ address value,
    Tells (memory.write host address value) (memory.RefusesStore host address) []
  /-- An access that is answered with the failure does not report it too. -/
  load : ∀ address, Quiet (memory.load host address)
  store : ∀ address value, Quiet (memory.store host address value)
  /-- A byte for the controller reports the failure of a device, and a transfer its status. -/
  output : ∀ value, Disk.ByteTells controller memory host value
  mount : ∀ number name, Quiet (controller.mount host number name)
  unmount : ∀ number, Quiet (controller.unmount number)

/-- What the operations of a machine report. -/
structure OperationsTell (machine : Machine) (host : Host) : Prop where
  /-- A bus cycle reports the failure of the device behind its address. -/
  read : ∀ address, Tells (machine.perform host (.read address))
    (machine.memory.RefusesLoad host address) []
  write : ∀ address value, Tells (machine.perform host (.write address value))
    (machine.memory.RefusesStore host address) []
  /-- A byte that reaches the controller reports what the controller does, through whichever port.
  -/
  delivered : ∀ operation value, Disk.delivered? machine operation = some value →
    (machine.perform host operation).events =
      (machine.controller.output machine.memory host value).events
  /-- A dialog reports the failures of the read cycles of its dumps. -/
  dialog : Reports (machine.perform host .dialog)
    (Dialog.dumpWarnings machine host (Dialog.answers .command [] machine.console.line.input)) []
  /-- No other operation reports anything that counts, -/
  other : ∀ operation, (∀ address, operation ≠ .read address) →
    (∀ address value, operation ≠ .write address value) → operation ≠ .dialog →
    Disk.delivered? machine operation = none → Quiet (machine.perform host operation)
  /-- and neither does building a machine. -/
  build : ∀ config line, Quiet (Machine.build config line host)

theorem partsTell (memory : Memory) (controller : Disk.Controller) (host : Host) :
    PartsTell memory controller host where
  read := memory.tells_read host
  write := memory.tells_write host
  load := memory.quiet_load host
  store := memory.quiet_store host
  output := Disk.byteTells controller memory host
  mount := controller.quiet_mount host
  unmount := controller.quiet_unmount

theorem operationsTell (machine : Machine) (host : Host) : OperationsTell machine host where
  read address :=
    (machine.memory.tells_read host address).of_events_eq (by simp [Machine.perform, Machine.read])
  write address value :=
    (machine.memory.tells_write host address value).of_events_eq
      (by simp [Machine.perform, Machine.write])
  delivered _ _ h := machine.events_perform_of_delivered host h
  dialog := (Dialog.reports_dialog machine host).bind_pure _
  other _ hread hwrite hdialog h := machine.quiet_perform host hread hwrite hdialog h
  build := Machine.quiet_build host

/-- Whatever the state of memory, controller and machine, and whatever fails there: each failure of
a device is one warning, the only others are the unknown commands, and the only status that is ever
reported is that of a transfer, once, for debugging.  Nothing is assumed of the machine, of its
devices or of the host. -/
theorem failuresLoggedOnce (memory : Memory) (controller : Disk.Controller) (machine : Machine)
    (host : Host) :
    PartsTell memory controller host ∧ OperationsTell machine host ∧
      ∀ event status, Event.status? event = some status → event.level = .debug :=
  ⟨partsTell memory controller host, operationsTell machine host,
    fun _ _ => Event.level_of_status?⟩

end Backplane
