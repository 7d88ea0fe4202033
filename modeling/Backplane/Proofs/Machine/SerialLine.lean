import Backplane.Proofs.Dialog.TypeAhead

/-!
# The serial line over a run

Two readers take bytes off the serial line: the processor, by reading ports that are bound to the
console's data register, and the dialog.  `traffic` collects what goes over the line in a run: the
bytes that arrive, the bytes that are taken, each with its reader, and the bytes that are sent.
What the processor takes is what its reads answered, and what a dialog takes is what its session
was fed.

`Carries` ties the traffic between two states of the console to the states.  It is closed under
composition (`Carries.trans`), so it is enough to see what one step does (`carries_step`), and the
line of a machine after any run follows (`lossless_after`): no byte is lost, repeated or moved
before another, whichever reader takes it.  The console's own last byte is not part of the queue.
It follows the processor's reads alone, so a dialog in between does not show in it.

## Status

The status register tells whether a byte waits and whether the line takes one.  It is computed from
the queue and from the line's ready signal at the moment it is read, so it can be read off the
traffic as well: a byte waits if fewer have been taken than have arrived.  What is sent does not
depend on the ready signal, which is for programs to look at.

The console sends seven bits of each byte.  Dialogs send text, and what they send is part of the
same output.
-/

namespace Backplane

namespace Dialog

/-! ## What a dialog takes -/

/-- The keys that a session takes from an input: all of them, or those up to one that ends it. -/
def Session.taken (session : Session) : List UInt8 → List UInt8
  | [] => []
  | key :: rest =>
    key ::
      match (session.feed key).value with
      | .waiting next => next.taken rest
      | .left _ _ => []

/-- The keys that a dialog takes from the queue. -/
def taken (machine : Machine) (host : Host) : List UInt8 :=
  (showMenu (withInput machine []) host).taken machine.console.line.input

theorem taken_append_unread (session : Session) (input : List UInt8) :
    session.taken input ++ (session.run input).value.2 = input := by
  induction input generalizing session with
  | nil => rfl
  | cons key rest ih =>
    simp only [Session.taken, Session.run, Logged.value_bind, List.cons_append]
    cases (session.feed key).value with
    | waiting next => rw [ih next]
    | left machine host => rfl

/-- All that a dialog does to the console is to take keys from the queue and to send bytes. -/
theorem exists_console_dialog (machine : Machine) (host : Host) :
    ∃ unread, ∃ said : List UInt8,
      (run machine host).value.2.1.console =
        { machine.console with
          line :=
            { machine.console.line with
              input := unread, output := machine.console.line.output ++ said } } ∧
        taken machine host ++ unread = machine.console.line.input := by
  obtain ⟨calls, unread, ending, hscript⟩ := exists_spells machine.console.line.input
  obtain ⟨said, hdialog⟩ := exists_dialog_of_spells machine host hscript
  have hconclude := (value_run machine host).symm.trans hdialog
  have hunread : ((showMenu (withInput machine []) host).run
      machine.console.line.input).value.2 = unread := by
    have hqueue := congrArg (fun ended => ended.2.1.console.line.input) hconclude
    generalize ((showMenu (withInput machine []) host).run machine.console.line.input).value =
      ended at hqueue
    rcases ended with ⟨session | ⟨left, hostLeft⟩, rest⟩ <;> exact hqueue
  refine ⟨unread, said, by rw [hdialog]; rfl, ?_⟩
  rw [← hunread]
  exact taken_append_unread _ _

end Dialog

namespace Machine

/-! ## Traffic -/

/-- Who takes a byte off the line. -/
inductive Reader where
  | processor
  | dialog
deriving DecidableEq, Repr

/-- A byte that is taken off the line. -/
structure Taking where
  reader : Reader
  value : UInt8
deriving DecidableEq, Repr

/-- What goes over the line. -/
structure Traffic where
  /-- The bytes that arrive. -/
  arrived : List UInt8 := []
  /-- The bytes that are taken, by either reader. -/
  taken : List Taking := []
  /-- The bytes that are sent. -/
  sent : List UInt8 := []
deriving DecidableEq, Repr

namespace Traffic

/-- Traffic, and more traffic after it. -/
def followedBy (first second : Traffic) : Traffic where
  arrived := first.arrived ++ second.arrived
  taken := first.taken ++ second.taken
  sent := first.sent ++ second.sent

/-- The last byte that the processor took. -/
def lastRead? (traffic : Traffic) : Option UInt8 :=
  (traffic.taken.reverse.find? fun taking => taking.reader = .processor).map Taking.value

theorem lastRead?_followedBy (first second : Traffic) :
    (first.followedBy second).lastRead? = second.lastRead?.or first.lastRead? := by
  unfold lastRead? followedBy
  rw [List.reverse_append, List.find?_append]
  cases second.taken.reverse.find? fun taking => taking.reader = .processor <;> rfl

end Traffic

/-- The port is bound to the console's data register. -/
def IsDataPort (machine : Machine) (port : UInt8) : Prop :=
  machine.ports.binding? port = some ⟨.console, Console.dataRegister⟩

instance (machine : Machine) (port : UInt8) : Decidable (machine.IsDataPort port) :=
  inferInstanceAs (Decidable (machine.ports.binding? port = some ⟨.console, Console.dataRegister⟩))

/-- The port is bound to the console's status register. -/
def IsStatusPort (machine : Machine) (port : UInt8) : Prop :=
  machine.ports.binding? port = some ⟨.console, Console.statusRegister⟩

/-- What reading a port answers, if that is a byte fresh off the line: the read is one of the data
register, and a byte waits. -/
def freshByte? (machine : Machine) (port : UInt8) : Option UInt8 :=
  if machine.IsDataPort port ∧ machine.console.line.isAvailable then
    some (machine.input port).value.1
  else none

/-- The low seven bits of a byte. -/
def lowSevenBits (value : UInt8) : UInt8 := UInt8.ofNat (value.toNat % 128)

/-- What goes over the line in a step.  A dialog sends what it adds to the output. -/
def trafficOf (machine : Machine) (host : Host) : Step → Traffic
  | .operation (.receive values) => { arrived := values }
  | .operation (.input port) => { taken := (machine.freshByte? port).toList.map (⟨.processor, ·⟩) }
  | .operation (.output port value) =>
    { sent := if machine.IsDataPort port then [lowSevenBits value] else [] }
  | .operation .dialog =>
    { taken := (Dialog.taken machine host).map (⟨.dialog, ·⟩)
      sent := (Dialog.run machine host).value.2.1.console.line.output.toList.drop
        machine.console.line.output.size }
  | _ => {}

/-- What goes over the line in a run. -/
def traffic (machine : Machine) (host : Host) : List Step → Traffic
  | [] => {}
  | step :: rest =>
    (machine.trafficOf host step).followedBy
      ((machine.step host step).1.traffic (machine.step host step).2 rest)

/-- What the traffic between two states of a console makes of it. -/
structure Carries (before : Console) (traffic : Traffic) (after : Console) : Prop where
  /-- What was taken, and what waits, is what waited and what arrived. -/
  queue : traffic.taken.map Taking.value ++ after.line.input =
    before.line.input ++ traffic.arrived
  output : after.line.output.toList = before.line.output.toList ++ traffic.sent
  /-- The last byte is the last that the processor took. -/
  last : after.last = traffic.lastRead?.getD before.last

namespace Carries

variable {first second third : Console}

theorem refl (console : Console) : Carries console {} console :=
  ⟨by simp, by simp, rfl⟩

theorem trans {traffic later : Traffic} (h : Carries first traffic second)
    (h' : Carries second later third) : Carries first (traffic.followedBy later) third := by
  refine ⟨?_, ?_, ?_⟩
  · calc
      (traffic.taken ++ later.taken).map Taking.value ++ third.line.input
        = traffic.taken.map Taking.value ++
            (later.taken.map Taking.value ++ third.line.input) := by simp
      _ = traffic.taken.map Taking.value ++ second.line.input ++ later.arrived := by
          rw [h'.queue, List.append_assoc]
      _ = first.line.input ++ (traffic.arrived ++ later.arrived) := by
          rw [h.queue, List.append_assoc]
  · rw [h'.output, h.output, List.append_assoc]
    rfl
  · rw [h'.last, h.last, Traffic.lastRead?_followedBy]
    cases later.lastRead? <;> rfl

end Carries

/-! ## Reading the registers -/

variable {machine : Machine} {port : UInt8}

theorem value_input_of_bound {binding : Binding}
    (h : machine.ports.binding? port = some binding) :
    (machine.input port).value = machine.inputFrom binding := by
  rw [input, Logged.value_bind, value_lookup, h]
  rfl

theorem value_input_of_data (h : machine.IsDataPort port) :
    (machine.input port).value =
      (machine.console.dataIn.1, machine.withConsole machine.console.dataIn.2) := by
  rw [value_input_of_bound h]
  rfl

theorem value_input_of_status (h : machine.IsStatusPort port) :
    (machine.input port).value = (machine.console.status, machine) := by
  rw [value_input_of_bound h]
  rfl

/-- Only reading the data register can change a machine. -/
theorem input_of_other (h : ¬machine.IsDataPort port) : (machine.input port).value.2 = machine := by
  cases hbinding : machine.ports.binding? port with
  | none =>
    rw [input, Logged.value_bind, value_lookup, hbinding]
    rfl
  | some binding =>
    obtain ⟨device, register⟩ := binding
    rw [value_input_of_bound hbinding]
    cases device with
    | console =>
      have hregister : register ≠ Console.dataRegister := by
        rintro rfl
        exact h hbinding
      simp only [inputFrom, Console.input, if_neg hregister]
      split <;> rfl
    | _ => rfl

theorem dataIn_of_waiting {console : Console} {value : UInt8} {rest : List UInt8}
    (h : console.line.input = value :: rest) :
    console.dataIn = (value, ⟨{ console.line with input := rest }, value⟩) := by
  simp only [Console.dataIn, Console.Line.take, h]

theorem dataIn_of_empty {console : Console} (h : console.line.input = []) :
    console.dataIn = (console.last, console) := by
  simp only [Console.dataIn, Console.Line.take, h]

theorem freshByte?_of_data (h : machine.IsDataPort port) :
    machine.freshByte? port = machine.console.line.input.head? := by
  rw [freshByte?, value_input_of_data h]
  cases hinput : machine.console.line.input with
  | nil => simp [Console.Line.isAvailable, hinput]
  | cons value rest => simp [Console.Line.isAvailable, hinput, h, dataIn_of_waiting hinput]

theorem freshByte?_of_other (h : ¬machine.IsDataPort port) : machine.freshByte? port = none :=
  if_neg fun hfresh => h hfresh.1

/-! ## What a step carries -/

/-- A read takes the byte that it answers, unless that one is stale. -/
theorem carries_input (machine : Machine) (host : Host) (port : UInt8) :
    Carries machine.console (machine.trafficOf host (.operation (.input port)))
      (machine.input port).value.2.console := by
  by_cases hport : machine.IsDataPort port
  · rw [trafficOf, freshByte?_of_data hport, value_input_of_data hport]
    cases hinput : machine.console.line.input with
    | nil =>
      rw [dataIn_of_empty hinput]
      exact .refl machine.console
    | cons value rest =>
      rw [dataIn_of_waiting hinput]
      exact ⟨by simp [withConsole, hinput], by simp [withConsole], rfl⟩
  · rw [trafficOf, freshByte?_of_other hport, input_of_other hport]
    exact .refl machine.console

theorem and_eq_lowSevenBits (value : UInt8) : value &&& 0x7F = lowSevenBits value := by
  apply UInt8.toNat_inj.1
  have hmod : value.toNat &&& 127 = value.toNat % 128 := Nat.and_two_pow_sub_one_eq_mod _ 7
  have hlow : (lowSevenBits value).toNat = value.toNat % 128 := by
    rw [lowSevenBits, UInt8.toNat_ofNat']
    omega
  rw [UInt8.toNat_and, hlow]
  exact hmod

/-- A write sends its low seven bits if it reaches the data register, and else nothing.  The ready
signal is not looked at. -/
theorem carries_output (machine : Machine) (host : Host) (port value : UInt8) :
    Carries machine.console (machine.trafficOf host (.operation (.output port value)))
      (machine.output host port value).value.1.console := by
  rw [trafficOf]
  cases hbinding : machine.ports.binding? port with
  | none =>
    -- An unbound port has no console behind it.
    have hport : ¬machine.IsDataPort port := by simp [IsDataPort, hbinding]
    rw [value_output_of_free machine host hbinding, if_neg hport]
    exact .refl machine.console
  | some binding =>
    obtain ⟨device, register⟩ := binding
    rw [value_output_of_bound machine host hbinding, value_outputTo]
    by_cases hport : machine.IsDataPort port
    · -- The data register sends.
      obtain ⟨rfl, rfl⟩ : device = .console ∧ register = Console.dataRegister := by
        simpa [IsDataPort, hbinding] using hport
      rw [if_pos hport]
      exact ⟨by simp [withConsole, Console.output, Console.dataOut, Console.Line.send],
        by simp [withConsole, Console.output, Console.dataOut, Console.Line.send,
          and_eq_lowSevenBits], rfl⟩
    · -- No other register does, and no other device.
      rw [if_neg hport]
      cases device with
      | console =>
        have hregister : register ≠ Console.dataRegister := by
          rintro rfl
          exact hport hbinding
        have hconsole : (machine.console.output register value).value = machine.console := by
          rw [Console.output, if_neg hregister]
          rfl
        simp only [hconsole]
        exact .refl machine.console
      | _ => exact .refl machine.console

/-- A dialog takes the keys that it reads, and leaves the last byte of the processor alone. -/
theorem carries_dialog (machine : Machine) (host : Host) :
    Carries machine.console (machine.trafficOf host (.operation .dialog))
      (Dialog.run machine host).value.2.1.console := by
  obtain ⟨unread, said, hconsole, htaken⟩ := Dialog.exists_console_dialog machine host
  have hreader (keys : List UInt8) :
      (keys.map (Taking.mk .dialog)).reverse.find? (fun taking => taking.reader = .processor) =
        none := by
    simp
  rw [trafficOf, hconsole]
  refine ⟨?_, ?_, ?_⟩
  · simpa [Function.comp_def] using htaken
  · simp
  · rw [Traffic.lastRead?, hreader]
    rfl

/-- The console after a step is what the traffic of the step makes of it. -/
theorem carries_step (machine : Machine) (host : Host) (step : Step) :
    Carries machine.console (machine.trafficOf host step) (machine.step host step).1.console := by
  cases step with
  | outside other => exact .refl machine.console
  | operation operation =>
    cases operation with
    | input port => exact carries_input machine host port
    | output port value => exact carries_output machine host port value
    | dialog => exact carries_dialog machine host
    | receive values => exact ⟨rfl, (List.append_nil _).symm, rfl⟩
    | setReady ready => exact ⟨(List.append_nil _).symm, (List.append_nil _).symm, rfl⟩
    | loadProgram name =>
      have hconsole : (machine.loadProgram host name).value.2.1.console = machine.console := by
        rw [value_loadProgram]
        rcases machine.findProgram host name with refusal | ⟨path, image⟩ <;> rfl
      simp only [Machine.step, perform, Logged.value_bind, Logged.value_pure, hconsole]
      exact .refl machine.console
    | _ => exact .refl machine.console

theorem carries_after (machine : Machine) (host : Host) (steps : List Step) :
    Carries machine.console (machine.traffic host steps) (machine.after host steps).1.console := by
  induction steps generalizing machine host with
  | nil => exact .refl machine.console
  | cons step rest ih => exact (carries_step machine host step).trans (ih _ _)

/-! ## Status -/

/-- What a status byte says about the line. -/
structure ShowsLine (machine : Machine) (shown : UInt8) : Prop where
  /-- Bit 0 is clear while a byte waits. -/
  queue : shown.toNat.testBit 0 = false ↔ machine.console.line.input ≠ []
  /-- That is when the next read of the data register would be a fresh one. -/
  fresh : ∀ port, machine.IsDataPort port →
    (shown.toNat.testBit 0 = false ↔ (machine.freshByte? port).isSome)
  /-- Bit 7 is clear while the line is ready. -/
  ready : shown.toNat.testBit 7 = false ↔ machine.console.line.isReady
  others : ∀ bit, bit ≠ 0 → bit ≠ 7 → shown.toNat.testBit bit = false

/-- A bit that is set while something is not the case. -/
theorem testBit_flag {mask : UInt8} {position : Nat} (hmask : mask.toNat = 2 ^ position)
    (clear : Bool) (bit : Nat) :
    (if clear then 0 else mask).toNat.testBit bit = true ↔ clear = false ∧ bit = position := by
  cases clear with
  | true => simp
  | false => simp [hmask, Nat.testBit_two_pow, eq_comm]

theorem testBit_status (console : Console) (bit : Nat) :
    console.status.toNat.testBit bit = true ↔
      (console.line.isAvailable = false ∧ bit = 0) ∨
        (console.line.isReady = false ∧ bit = 7) := by
  have hinput : Console.noInput.toNat = 2 ^ 0 := rfl
  have hready : Console.transmitterBusy.toNat = 2 ^ 7 := rfl
  rw [Console.status, UInt8.toNat_or, Nat.testBit_or, Bool.or_eq_true,
    testBit_flag hinput, testBit_flag hready]

theorem showsLine_status (machine : Machine) : ShowsLine machine machine.console.status := by
  have hqueue : machine.console.status.toNat.testBit 0 = false ↔
      machine.console.line.input ≠ [] := by
    rw [← Bool.not_eq_true, testBit_status]
    simp [Console.Line.isAvailable]
  refine ⟨hqueue, ?_, ?_, ?_⟩
  · intro port hport
    rw [hqueue, freshByte?_of_data hport, List.isSome_head?]
  · rw [← Bool.not_eq_true, testBit_status]
    simp
  · intro bit hinput hready
    rw [← Bool.not_eq_true, testBit_status]
    rintro (⟨-, hbit⟩ | ⟨-, hbit⟩)
    · exact hinput hbit
    · exact hready hbit

/-! ## Whole runs -/

/-- The line of a machine, after the given traffic, and what its registers answer then.  A read
with nothing queued shows the byte that the last fresh read answered; those that a dialog took are
not among them. -/
structure Lossless (line : Console.Line) (traffic : Traffic) (machine : Machine) (host : Host) :
    Prop where
  /-- The bytes taken and those still queued are those that arrived, in order. -/
  queue : traffic.taken.map Taking.value ++ machine.console.line.input =
    line.input ++ traffic.arrived
  output : machine.console.line.output.toList = line.output.toList ++ traffic.sent
  /-- A read of the data register delivers the first byte of the queue. -/
  fresh : ∀ port value rest, machine.IsDataPort port →
    machine.console.line.input = value :: rest →
    (machine.perform host (.input port)).value =
      (.byte value,
        machine.withConsole ⟨{ machine.console.line with input := rest }, value⟩, host)
  stale : ∀ port, machine.IsDataPort port → machine.console.line.input = [] →
    (machine.perform host (.input port)).value =
      (.byte (traffic.lastRead?.getD 0), machine, host)
  status : ∀ port, machine.IsStatusPort port →
    ∃ shown, (machine.perform host (.input port)).value = (.byte shown, machine, host) ∧
      ShowsLine machine shown

/-- Console input is a queue that loses nothing, in every run of a machine that was built, through
whatever ports, and however dialogs and reads take turns.  Every byte that has arrived was taken
once, in its turn, or still waits, and output is what was sent, byte after byte. -/
theorem lossless_after {config : Config} {line : Console.Line} {host start : Host}
    (hbuild : (build config line host).value = (.ok machine, start)) {steps : List Step}
    {reached : Machine} {now : Host} (hrun : machine.after start steps = (reached, now)) :
    Lossless line (machine.traffic start steps) reached now := by
  have hconsole : machine.console = { line } := by
    obtain ⟨working, memory, -, -, rfl⟩ := exists_layOut_of_build hbuild
    rfl
  have hcarries := carries_after machine start steps
  rw [hrun, hconsole] at hcarries
  have hinput (port : UInt8) : (reached.perform now (.input port)).value =
      (.byte (reached.input port).value.1, (reached.input port).value.2, now) := rfl
  refine ⟨hcarries.queue, hcarries.output, ?_, ?_, ?_⟩
  · intro port value rest hport hwaiting
    rw [hinput, value_input_of_data hport, dataIn_of_waiting hwaiting]
  · intro port hport hempty
    rw [hinput, value_input_of_data hport, dataIn_of_empty hempty, hcarries.last]
    rfl
  · intro port hport
    refine ⟨reached.console.status, ?_, showsLine_status reached⟩
    rw [hinput, value_input_of_status hport]

/-- A machine on a line with a ready signal. -/
def readyMachine : Machine := small Disk.diskConfig { ready? := some true }

/-- Two bytes arrive.  The processor reads one, a dialog takes the other, and the processor writes
while the line is not ready. -/
def sharedSteps : List Step :=
  [.operation (.assign 7 ⟨.console, Console.dataRegister⟩), .operation (.receive [0x41, 0x42]),
    .operation (.input 7), .operation .dialog, .operation (.setReady false),
    .operation (.output 7 0xC8)]

theorem lossless_after_shared :
    (build Disk.diskConfig { ready? := some true } {}).value = (.ok readyMachine, {}) ∧
      (readyMachine.traffic {} sharedSteps).taken = [⟨.processor, 0x41⟩, ⟨.dialog, 0x42⟩] ∧
      Lossless { ready? := some true } (readyMachine.traffic {} sharedSteps)
        (readyMachine.after {} sharedSteps).1 (readyMachine.after {} sharedSteps).2 ∧
      ((readyMachine.after {} sharedSteps).1.perform
        (readyMachine.after {} sharedSteps).2 (.input 7)).value.1 = .byte 0x41 := by
  have hbuild : (build Disk.diskConfig { ready? := some true } {}).value =
      (.ok readyMachine, {}) := rfl
  have hrun : readyMachine.after {} sharedSteps =
      ((readyMachine.after {} sharedSteps).1, (readyMachine.after {} sharedSteps).2) :=
    (Prod.eta _).symm
  have hlossless := lossless_after hbuild hrun
  obtain ⟨htaken, hport, hempty⟩ : (readyMachine.traffic {} sharedSteps).taken =
        [⟨.processor, 0x41⟩, ⟨.dialog, 0x42⟩] ∧
      (readyMachine.after {} sharedSteps).1.IsDataPort 7 ∧
      (readyMachine.after {} sharedSteps).1.console.line.input = [] := by decide +kernel
  refine ⟨hbuild, htaken, hlossless, ?_⟩
  rw [hlossless.stale 7 hport hempty, Traffic.lastRead?, htaken]
  rfl

end Machine

end Backplane
