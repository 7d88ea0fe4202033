import Backplane.Proofs.Dialog.Requests

/-!
# The controller's byte stream

What is written to the controller is a stream of bytes, whatever happens between them and whichever
ports they come through.  The stream is made of units: a command that asks for an address takes the
two bytes after it, whatever they are, and every other byte is a unit of its own.  So a stream is
cut from the left in one way only (`Splits.unique`), into whole units and at most two bytes of one
that has not ended.

`exists_splits_after` says that this is all the controller remembers.  Its latch is a function of
the units (`latchAfter`), and so is its status (`statusAfter`): the outcome of the last transfer
that was asked for, on the memory and the host as they were at that moment.  The proof goes along
the run.  An operation that delivers no byte to the controller changes neither
(`exists_drives_perform`), and one that does extends the stream at its end by one byte.

## What a unit keeps

A byte by itself does not determine the outcome of the transfer that it asks for.  So the stream is
not one of bytes but of deliveries: a `Delivery` is a byte with the machine and the host as they
were when it reached the controller.  `Delivery.outcome?` runs the transfer on that memory and that
host, and never again, which is how the status keeps an outcome although the image and memory have
changed since.

Mounting a disk and reading the register deliver nothing.  A change of the host from outside
delivers nothing either, and none of the three can be seen in the latch or in the status afterwards.

## How the cut is found

`Splits.append_unit` and `Splits.unique` are about streams alone.  The invariant is `Remembers`: the
stream so far is cut into units and a rest, and latch and status are those of the cut.  The rest is
what the latch is collecting, so the controller's own cases are the cases of the next byte: it goes
behind the rest if there is one, and is a unit or begins one if there is none.
-/

namespace Backplane

namespace Disk

/-! ## Deliveries and units -/

/-- A byte that reaches the controller, with the machine and the host as they were then.  What a
transfer does depends on all three, and statements about a whole stream need them long after they
have changed. -/
structure Delivery where
  machine : Machine
  host : Host
  value : UInt8

namespace Delivery

/-- Whether a byte, as a command, asks for an address. -/
def AsksForAddress (delivery : Delivery) : Prop := delivery.value.toNat / 16 = 1

instance (delivery : Delivery) : Decidable delivery.AsksForAddress :=
  inferInstanceAs (Decidable (delivery.value.toNat / 16 = 1))

/-- How the transfer ends that a byte asks for as a command, if it asks for one. -/
def outcome? (delivery : Delivery) : Option Status :=
  match delivery.value.toNat / 16 with
  | 2 => some (ending .read)
  | 4 => some (ending .write)
  | _ => none
where
  /-- The status of the transfer of a sector at the moment of the delivery. -/
  ending (direction : Direction) : Status :=
    Controller.outcome
      (transfer delivery.machine.controller.drives delivery.machine.controller.latch.address?
        direction (delivery.value.toNat % 16) delivery.machine.memory delivery.host).value.1

end Delivery

/-- A whole unit of the stream. -/
inductive StreamUnit where
  /-- A command that asks for an address, and the two bytes after it. -/
  | address (command low high : Delivery)
  /-- Any other byte. -/
  | single (byte : Delivery)

namespace StreamUnit

/-- The bytes of a unit. -/
def bytes : StreamUnit → List Delivery
  | .address command low high => [command, low, high]
  | .single byte => [byte]

/-- A unit begins with the byte that makes it what it is. -/
def IsProper : StreamUnit → Prop
  | .address command _ _ => command.AsksForAddress
  | .single byte => ¬ byte.AsksForAddress

/-- The address that a unit gives. -/
def address? : StreamUnit → Option UInt16
  | .address _ low high => some (UInt16.ofNat (low.value.toNat + 256 * high.value.toNat))
  | .single _ => none

/-- The outcome of the transfer that a unit asks for. -/
def outcome? : StreamUnit → Option Status
  | .address .. => none
  | .single byte => byte.outcome?

end StreamUnit

/-- A stream cut into whole units and the bytes of one that has not ended.  The unit that has not
ended can only be one that gives an address, so its first byte is a command that asks for one, and
there are two bytes of it at most: with a third it would be whole. -/
structure Splits (stream : List Delivery) (units : List StreamUnit) (rest : List Delivery) :
    Prop where
  bytes : stream = units.flatMap StreamUnit.bytes ++ rest
  proper : ∀ unit ∈ units, unit.IsProper
  begun : ∀ command ∈ rest.head?, command.AsksForAddress
  unended : rest.length ≤ 2

/-- Two units at the head of one stream are the same unit. -/
theorem StreamUnit.eq_of_append_eq {unit other : StreamUnit} {left right : List Delivery}
    (hproper : unit.IsProper) (hother : other.IsProper)
    (h : unit.bytes ++ left = other.bytes ++ right) : unit = other ∧ left = right := by
  cases unit with
  | address command low high =>
    cases other with
    | address command' low' high' =>
      simp only [bytes, List.cons_append, List.nil_append, List.cons.injEq] at h
      obtain ⟨rfl, rfl, rfl, hrest⟩ := h
      exact ⟨rfl, hrest⟩
    | single byte =>
      simp only [bytes, List.cons_append, List.nil_append, List.cons.injEq] at h
      exact absurd (h.1 ▸ hproper) hother
  | single byte =>
    cases other with
    | address command low high =>
      simp only [bytes, List.cons_append, List.nil_append, List.cons.injEq] at h
      exact absurd (h.1 ▸ hother) hproper
    | single byte' =>
      simp only [bytes, List.cons_append, List.nil_append, List.cons.injEq] at h
      obtain ⟨rfl, hrest⟩ := h
      exact ⟨rfl, hrest⟩

namespace Splits

variable {stream rest otherRest : List Delivery} {unit : StreamUnit}
  {units others : List StreamUnit}

/-- A stream that has no whole unit has none at its head. -/
theorem ne_append (h : Splits stream [] rest) (hproper : unit.IsProper)
    (right : List Delivery) : stream ≠ unit.bytes ++ right := by
  intro heq
  have hstream : stream = rest := h.bytes
  subst hstream
  cases unit with
  | address command low high =>
    have hlength := congrArg List.length heq
    have hunended := h.unended
    simp only [StreamUnit.bytes, List.length_append, List.length_cons, List.length_nil] at hlength
    omega
  | single byte =>
    have hhead : stream.head? = some byte := by
      rw [heq]
      rfl
    exact hproper (h.begun byte hhead)

/-- What follows the first unit is cut by the units after it. -/
theorem tail (h : Splits stream (unit :: units) rest) :
    Splits (units.flatMap StreamUnit.bytes ++ rest) units rest :=
  ⟨rfl, fun other hmem => h.proper other (List.mem_cons_of_mem _ hmem), h.begun, h.unended⟩

theorem eq_append (h : Splits stream (unit :: units) rest) :
    stream = unit.bytes ++ (units.flatMap StreamUnit.bytes ++ rest) := by
  rw [h.bytes, List.flatMap_cons, List.append_assoc]

/-- A stream can be cut in one way only. -/
theorem unique (h : Splits stream units rest) (h' : Splits stream others otherRest) :
    units = others ∧ rest = otherRest := by
  induction units generalizing stream others with
  | nil =>
    cases others with
    | nil => exact ⟨rfl, h.bytes.symm.trans h'.bytes⟩
    | cons unit others =>
      exact absurd h'.eq_append (h.ne_append (h'.proper unit List.mem_cons_self) _)
  | cons unit units ih =>
    cases others with
    | nil => exact absurd h.eq_append (h'.ne_append (h.proper unit List.mem_cons_self) _)
    | cons other others =>
      obtain ⟨rfl, htail⟩ := StreamUnit.eq_of_append_eq (h.proper unit List.mem_cons_self)
        (h'.proper other List.mem_cons_self) (h.eq_append.symm.trans h'.eq_append)
      have hother : Splits (units.flatMap StreamUnit.bytes ++ rest) others otherRest :=
        htail ▸ h'.tail
      obtain ⟨rfl, hrest⟩ := ih h.tail hother
      exact ⟨rfl, hrest⟩

end Splits

/-! ## What the controller remembers of a stream -/

/-- The latch after a stream: the bytes of an address that is not complete, or else the last
complete address. -/
def latchAfter (units : List StreamUnit) (rest : List Delivery) : Latch :=
  match rest with
  | [] => ((units.reverse.findSome? StreamUnit.address?).map Latch.pending).getD .idle
  | _ :: low => .collecting (low.head?.map Delivery.value)

/-- The status after a stream: the outcome of the last transfer, or success before the first one.
Addresses and unknown commands have no outcome and are passed over. -/
def statusAfter (units : List StreamUnit) : Status :=
  (units.reverse.findSome? StreamUnit.outcome?).getD .ok

/-- A controller remembers a stream that is cut into the given units. -/
structure Remembers (controller : Controller) (stream : List Delivery) (units : List StreamUnit)
    (rest : List Delivery) : Prop where
  splits : Splits stream units rest
  latch : controller.latch = latchAfter units rest
  status : controller.status = statusAfter units

/-! ## One byte -/

/-- The high half of a command byte says what to do. -/
theorem ofByte_eq (value : UInt8) :
    Controller.Command.ofByte value =
      match value.toNat / 16 with
      | 1 => .setDescriptor
      | 2 => .transfer .read
      | 4 => .transfer .write
      | _ => .unknown := by
  have hall : ∀ n : Fin 256, Controller.Command.ofByte (UInt8.ofNat n) =
      match n.val / 16 with
      | 1 => .setDescriptor
      | 2 => .transfer .read
      | 4 => .transfer .write
      | _ => .unknown := by decide +kernel
  simpa using hall ⟨value.toNat, value.toNat_lt⟩

/-- The low half names a drive. -/
theorem driveNumber_eq (value : UInt8) : Controller.driveNumber value = value.toNat % 16 := by
  have hall : ∀ n : Fin 256, Controller.driveNumber (UInt8.ofNat n) = n.val % 16 := by
    decide +kernel
  simpa using hall ⟨value.toNat, value.toNat_lt⟩

theorem value_runTransfer (controller : Controller) (memory : Memory) (host : Host)
    (direction : Direction) (number : Nat) :
    (controller.runTransfer memory host direction number).value =
      match (transfer controller.drives controller.latch.address? direction number memory
        host).value with
      | (result, memory, host) =>
        ({ controller with status := Controller.outcome result }, memory, host) := rfl

theorem command_of_asks {machine : Machine} {host : Host} {value : UInt8}
    (h : (⟨machine, host, value⟩ : Delivery).AsksForAddress) :
    (machine.controller.command machine.memory host value).value.1 =
      { machine.controller with latch := .collecting none } := by
  have hhigh : value.toNat / 16 = 1 := h
  unfold Controller.command
  rw [ofByte_eq, hhigh]
  rfl

theorem command_of_not_asks {machine : Machine} {host : Host} {value : UInt8}
    (h : ¬ (⟨machine, host, value⟩ : Delivery).AsksForAddress) :
    (machine.controller.command machine.memory host value).value.1 =
      { machine.controller with
        status :=
          (⟨machine, host, value⟩ : Delivery).outcome?.getD machine.controller.status } := by
  have hhigh : value.toNat / 16 ≠ 1 := h
  unfold Controller.command Delivery.outcome?
  rw [ofByte_eq]
  dsimp only
  generalize value.toNat / 16 = high at hhigh
  rcases high with _ | _ | _ | _ | _ | high
  · rfl
  · exact absurd rfl hhigh
  · simp only [value_runTransfer, driveNumber_eq]
    rfl
  · rfl
  · simp only [value_runTransfer, driveNumber_eq]
    rfl
  · rfl

theorem output_of_awaiting {controller : Controller} (h : controller.latch = .collecting none)
    (memory : Memory) (host : Host) (value : UInt8) :
    (controller.output memory host value).value.1 =
      { controller with latch := .collecting (some value) } := by
  rw [Controller.output, h]
  rfl

theorem output_of_halfway {controller : Controller} {low : UInt8}
    (h : controller.latch = .collecting (some low)) (memory : Memory) (host : Host)
    (value : UInt8) :
    (controller.output memory host value).value.1 =
      { controller with latch := .pending (wordOfBytes low value) } := by
  rw [Controller.output, h]
  rfl

theorem output_of_not_collecting {controller : Controller}
    (h : ∀ low, controller.latch ≠ .collecting low) (memory : Memory) (host : Host)
    (value : UInt8) :
    controller.output memory host value = controller.command memory host value := by
  unfold Controller.output
  split
  · exact absurd ‹_› (h _)
  · exact absurd ‹_› (h _)
  · rfl
  · rfl

/-- The high half of a command byte that asks for a transfer. -/
def Direction.code : Direction → Nat
  | .read => 2
  | .write => 4

/-- A command that asks for a transfer runs it and shows how it ended, and changes nothing of the
controller but the status. -/
theorem value_output_of_transfer {controller : Controller} {direction : Direction} {value : UInt8}
    (hready : ∀ low, controller.latch ≠ .collecting low)
    (hasks : value.toNat / 16 = direction.code) (memory : Memory) (host : Host) :
    (controller.output memory host value).value =
      match (transfer controller.drives controller.latch.address? direction (value.toNat % 16)
        memory host).value with
      | (result, memory, host) =>
        ({ controller with status := Controller.outcome result }, memory, host) := by
  rw [output_of_not_collecting hready, Controller.command, ofByte_eq]
  cases direction <;> rw [hasks] <;>
    simp only [Direction.code, value_runTransfer, driveNumber_eq]

/-- A unit that gives no address leaves the latch to those before it. -/
theorem latchAfter_append_single (units : List StreamUnit) (byte : Delivery) :
    latchAfter (units ++ [.single byte]) [] = latchAfter units [] := by
  unfold latchAfter
  rw [List.reverse_append]
  rfl

theorem statusAfter_append (units : List StreamUnit) (unit : StreamUnit) :
    statusAfter (units ++ [unit]) = unit.outcome?.getD (statusAfter units) := by
  unfold statusAfter
  rw [List.reverse_append, List.reverse_singleton, List.singleton_append, List.findSome?_cons]
  cases unit.outcome? <;> rfl

theorem Splits.append_unit {stream rest : List Delivery} {units : List StreamUnit}
    (h : Splits stream units rest) (unit : StreamUnit) (hproper : unit.IsProper)
    {delivery : Delivery} (hbytes : unit.bytes = rest ++ [delivery]) :
    Splits (stream ++ [delivery]) (units ++ [unit]) [] := by
  refine ⟨?_, ?_, by simp, by simp⟩
  · rw [h.bytes, List.flatMap_append, List.append_assoc, ← hbytes]
    simp
  · intro other hmem
    rcases List.mem_append.1 hmem with hmem | hmem
    · exact h.proper other hmem
    · exact List.mem_singleton.1 hmem ▸ hproper

/-- A byte that is delivered extends the stream that the controller remembers. -/
theorem Remembers.output {machine : Machine} {stream rest : List Delivery}
    {units : List StreamUnit} (h : Remembers machine.controller stream units rest) (host : Host)
    (value : UInt8) :
    ∃ units' rest', Remembers (machine.controller.output machine.memory host value).value.1
      (stream ++ [⟨machine, host, value⟩]) units' rest' := by
  obtain ⟨hsplits, hlatch, hstatus⟩ := h
  match rest, hsplits, hlatch with
  | [command], hsplits, hlatch =>
    -- The second byte says nothing by itself.
    rw [output_of_awaiting hlatch]
    refine ⟨units, [command, ⟨machine, host, value⟩], ⟨?_, hsplits.proper, hsplits.begun, by simp⟩,
      rfl, hstatus⟩
    rw [hsplits.bytes, List.append_assoc]
    rfl
  | [command, low], hsplits, hlatch =>
    -- The third byte completes the unit, whatever it is.
    have hhalfway : machine.controller.latch = .collecting (some low.value) := hlatch
    rw [output_of_halfway hhalfway]
    refine ⟨units ++ [.address command low ⟨machine, host, value⟩], [],
      hsplits.append_unit (.address command low ⟨machine, host, value⟩)
        (hsplits.begun command rfl) rfl, ?_, ?_⟩
    · unfold latchAfter
      rw [List.reverse_append]
      rfl
    · rw [statusAfter_append]
      exact hstatus
  | _ :: _ :: _ :: _, hsplits, _ => exact absurd hsplits.unended (by simp)
  | [], hsplits, hlatch =>
    -- A byte between two units is a unit of its own, or begins one of three bytes.
    have hready : ∀ low, machine.controller.latch ≠ .collecting low := by
      intro low
      rw [hlatch, latchAfter]
      cases units.reverse.findSome? StreamUnit.address? <;> simp
    rw [output_of_not_collecting hready]
    by_cases hasks : (⟨machine, host, value⟩ : Delivery).AsksForAddress
    · rw [command_of_asks hasks]
      refine ⟨units, [⟨machine, host, value⟩], ⟨?_, hsplits.proper, ?_, by simp⟩, rfl, hstatus⟩
      · rw [hsplits.bytes, List.append_nil]
      · rintro command hmem
        obtain rfl := Option.some.inj hmem
        exact hasks
    · rw [command_of_not_asks hasks]
      refine ⟨units ++ [.single ⟨machine, host, value⟩], [],
        hsplits.append_unit (.single ⟨machine, host, value⟩) hasks rfl, ?_, ?_⟩
      · rw [latchAfter_append_single]
        exact hlatch
      · rw [statusAfter_append, ← hstatus]
        rfl

/-! ## Operations that deliver no byte -/

/-- The byte that an operation delivers to the controller, through whichever port. -/
def delivered? (machine : Machine) : Operation → Option UInt8
  | .output port value =>
    match machine.ports.binding? port with
    | some ⟨.controller, _⟩ => some value
    | _ => none
  | _ => none

theorem not_controller_of_delivered? {machine : Machine} {port value : UInt8}
    (h : delivered? machine (.output port value) = none) (register : UInt8) :
    machine.ports.binding? port ≠ some ⟨.controller, register⟩ := by
  intro hbinding
  simp [delivered?, hbinding] at h

/-- Delivering a byte is writing the controller's register, and changes nothing beside it. -/
theorem perform_of_delivered {machine : Machine} {operation : Operation} {value : UInt8}
    (h : delivered? machine operation = some value) (host : Host) :
    (machine.perform host operation).value.2 =
      match (machine.controller.output machine.memory host value).value with
      | (controller, memory, host) => ({ machine with controller, memory }, host) := by
  cases operation with
  | output port sent =>
    simp only [delivered?] at h
    split at h
    · rename_i register hbinding
      obtain rfl := Option.some.inj h
      simp only [Machine.perform, Logged.value_bind, Logged.value_pure,
        Machine.value_output_of_controller machine host hbinding]
    · exact absurd h (by simp)
  | _ => simp [delivered?] at h

/-- A request of a dialog changes at most the drives of the controller. -/
theorem exists_drives_perform_of_isRequest {operation : Operation}
    (h : Dialog.IsRequest operation) (machine : Machine) (host : Host) :
    ∃ drives, (machine.perform host operation).value.2.1.controller =
      { machine.controller with drives } := by
  cases h with
  | setFrontPanel value => exact ⟨_, rfl⟩
  | mount number name => exact Machine.exists_drives_mount host machine.controller number name
  | loadProgram name =>
    refine ⟨machine.controller.drives, ?_⟩
    simp only [Machine.perform, Logged.value_bind, Logged.value_pure, Machine.value_loadProgram]
    rcases machine.findProgram host name with refusal | ⟨path, image⟩ <;> rfl

theorem exists_drives_performAll {operations : List Operation}
    (h : ∀ operation ∈ operations, Dialog.IsRequest operation) (machine : Machine)
    (host : Host) :
    ∃ drives, (machine.performAll host operations).1.controller =
      { machine.controller with drives } := by
  induction operations generalizing machine host with
  | nil => exact ⟨machine.controller.drives, rfl⟩
  | cons operation rest ih =>
    obtain ⟨drives, hfirst⟩ := exists_drives_perform_of_isRequest (h operation (by simp)) machine
      host
    obtain ⟨drives', hrest⟩ := ih (fun other hmem => h other (by simp [hmem]))
      (machine.perform host operation).value.2.1 (machine.perform host operation).value.2.2
    refine ⟨drives', ?_⟩
    rw [Machine.performAll, hrest, hfirst]

/-- An operation that delivers no byte to the controller changes at most its drives. -/
theorem exists_drives_perform {machine : Machine} {operation : Operation}
    (h : delivered? machine operation = none) (host : Host) :
    ∃ drives, (machine.perform host operation).value.2.1.controller =
      { machine.controller with drives } := by
  cases operation with
  | output port value =>
    have hsame := machine.output_of_not_controller host (not_controller_of_delivered? h) value
    refine ⟨machine.controller.drives, ?_⟩
    simp only [Machine.perform, Logged.value_bind, Logged.value_pure]
    rw [hsame.2.1]
  | input port =>
    obtain ⟨console, hinput⟩ := machine.exists_console_input port
    refine ⟨machine.controller.drives, ?_⟩
    simp only [Machine.perform, Logged.value_bind, Logged.value_pure, hinput]
    rfl
  | mount number name => exact Machine.exists_drives_mount host machine.controller number name
  | unmount number => exact Machine.exists_drives_unmount machine.controller number
  | loadProgram name =>
    exact exists_drives_perform_of_isRequest (.loadProgram name) machine host
  | dialog =>
    -- A dialog does to the drives what its requests do.
    obtain ⟨said, hdialog⟩ := Dialog.exists_dialog_eq_performAll machine host
    obtain ⟨drives, hall⟩ := exists_drives_performAll
      (fun operation => Dialog.isRequest_of_mem) machine host
    refine ⟨drives, ?_⟩
    simp only [Machine.perform, Logged.value_bind, Logged.value_pure, hdialog]
    exact hall
  | _ => exact ⟨machine.controller.drives, rfl⟩

/-! ## Runs -/

/-- The bytes that reach the controller in a step: one or none. -/
def deliveriesOf (machine : Machine) (host : Host) : Step → List Delivery
  | .operation operation => (delivered? machine operation).toList.map (⟨machine, host, ·⟩)
  | .outside _ => []

/-- The bytes that reach the controller in a run. -/
def deliveries (machine : Machine) (host : Host) : List Step → List Delivery
  | [] => []
  | step :: rest =>
    deliveriesOf machine host step ++
      deliveries (machine.step host step).1 (machine.step host step).2 rest

theorem Remembers.step {machine : Machine} {stream rest : List Delivery}
    {units : List StreamUnit} (h : Remembers machine.controller stream units rest) (host : Host)
    (step : Step) :
    ∃ units' rest', Remembers (machine.step host step).1.controller
      (stream ++ deliveriesOf machine host step) units' rest' := by
  cases step with
  | outside other =>
    refine ⟨units, rest, ?_⟩
    rw [deliveriesOf, List.append_nil]
    exact h
  | operation operation =>
    cases hvalue : delivered? machine operation with
    | none =>
      obtain ⟨drives, hcontroller⟩ := exists_drives_perform hvalue host
      refine ⟨units, rest, ?_⟩
      rw [deliveriesOf, hvalue, Option.toList_none, List.map_nil, List.append_nil, Machine.step,
        hcontroller]
      exact ⟨h.splits, h.latch, h.status⟩
    | some value =>
      obtain ⟨units', rest', hnext⟩ := h.output host value
      refine ⟨units', rest', ?_⟩
      rw [deliveriesOf, hvalue, Machine.step, perform_of_delivered hvalue]
      exact hnext

theorem Remembers.after {machine : Machine} {stream rest : List Delivery}
    {units : List StreamUnit} (h : Remembers machine.controller stream units rest) (host : Host)
    (steps : List Step) :
    ∃ units' rest', Remembers (machine.after host steps).1.controller
      (stream ++ deliveries machine host steps) units' rest' := by
  induction steps generalizing machine host stream units rest with
  | nil =>
    refine ⟨units, rest, ?_⟩
    rw [deliveries, List.append_nil]
    exact h
  | cons step steps ih =>
    obtain ⟨units', rest', hstep⟩ := h.step host step
    obtain ⟨units'', rest'', hafter⟩ := ih hstep (machine.step host step).2
    refine ⟨units'', rest'', ?_⟩
    rw [deliveries, ← List.append_assoc]
    exact hafter

/-- After any run of a machine whose controller starts out idle, the bytes that reached the
controller are cut into units in exactly one way, and its latch and its status are those of the
units.  The run may contain any operations and any changes of the host by others, and the bytes may
come through any ports that are bound to the controller.  So nothing else that happens in a run can
be told from the latch or from the status. -/
theorem exists_splits_after {machine : Machine} (hlatch : machine.controller.latch = .idle)
    (hstatus : machine.controller.status = .ok) (host : Host) (steps : List Step) :
    ∃ units rest,
      Splits (deliveries machine host steps) units rest ∧
        (∀ units' rest', Splits (deliveries machine host steps) units' rest' →
          units' = units ∧ rest' = rest) ∧
        (machine.after host steps).1.controller.latch = latchAfter units rest ∧
        (machine.after host steps).1.controller.status = statusAfter units := by
  have hstart : Remembers machine.controller [] [] [] :=
    ⟨⟨rfl, by simp, by simp, by simp⟩, hlatch, hstatus⟩
  obtain ⟨units, rest, hafter⟩ := hstart.after host steps
  exact ⟨units, rest, hafter.splits, fun units' rest' hother => hother.unique hafter.splits,
    hafter.latch, hafter.status⟩

/-- A machine with four bytes of each storage and the standard directories. -/
def smallMachine : Machine := .small {} {}

/-- An address whose bytes look like commands, a command that is none, and half of an address. -/
def smallSteps : List Step :=
  [.operation (.output 4 0x12), .operation (.output 4 0x20), .operation (.mount 0 ""),
    .operation (.output 4 0x41), .operation (.output 4 0x33), .operation (.output 4 0x10)]

theorem exists_splits_after_small :
    smallMachine.controller.latch = .idle ∧ smallMachine.controller.status = .ok ∧
      ∃ units rest,
        Splits (deliveries smallMachine {} smallSteps) units rest ∧
          (∀ units' rest', Splits (deliveries smallMachine {} smallSteps) units' rest' →
            units' = units ∧ rest' = rest) ∧
          (smallMachine.after {} smallSteps).1.controller.latch = latchAfter units rest ∧
          (smallMachine.after {} smallSteps).1.controller.status = statusAfter units :=
  ⟨rfl, rfl, exists_splits_after rfl rfl {} _⟩

end Disk

end Backplane
