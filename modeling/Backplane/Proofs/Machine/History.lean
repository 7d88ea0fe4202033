import Backplane.Proofs.Disk.ByteStream

/-!
# Histories of runs

A statement about a whole run often needs to say what happened in it: which disk was mounted last,
which image was written to.  `Moment` is one operation with the machine and the host it was carried
out on, and `Machine.history` lists the moments of a run.  A dialog does nothing but what its input
asks for, so it stands in a history as the requests it made.

`IsKept` is how facts about a machine and its history are proved.  It asks for what one operation
does, where the operation is never a dialog: that a dialog is a sequence of requests, made over a
console that it uses up, is dealt with once here, and so is the induction on the run
(`IsKept.after`).

## Dialogs

What happens in a dialog is not found in the step that runs it.  Its moments are those of the
operations that its input spells out, each with the machine and the host as they were when the
dialog came to it, and for them the console is that of the operations alone.  The console of the
dialog itself differs, since it has sent menus and taken keys; that is why a fact that is to be kept
must not depend on the console (`IsKept.withConsole`).
-/

namespace Backplane

/-- An operation, with the machine and the host that it is carried out on. -/
structure Moment where
  machine : Machine
  host : Host
  operation : Operation

namespace Machine

/-- The moments of operations in a row. -/
def momentsOf (machine : Machine) (host : Host) : List Operation → List Moment
  | [] => []
  | operation :: rest =>
    ⟨machine, host, operation⟩ ::
      (machine.perform host operation).value.2.1.momentsOf
        (machine.perform host operation).value.2.2 rest

/-- The moments of a step; those of a dialog are the moments of what its input asks for. -/
def momentsOfStep (machine : Machine) (host : Host) : Step → List Moment
  | .operation .dialog =>
    machine.momentsOf host (Dialog.requests machine.console.line.input)
  | .operation operation => [⟨machine, host, operation⟩]
  | .outside _ => []

/-- The moments of a run. -/
def history (machine : Machine) (host : Host) : List Step → List Moment
  | [] => []
  | step :: rest =>
    machine.momentsOfStep host step ++
      (machine.step host step).1.history (machine.step host step).2 rest

/-- A fact about a machine, its host and the moments so far that every operation other than a dialog
keeps, whatever is on the console.  Such a fact is kept by every run (`IsKept.after`), whatever
dialogs it contains and however the host changes. -/
structure IsKept (fact : Machine → Host → List Moment → Prop) : Prop where
  withConsole : ∀ {machine host past}, fact machine host past →
    ∀ console, fact (machine.withConsole console) host past
  perform : ∀ {machine host past}, fact machine host past → ∀ {operation}, operation ≠ .dialog →
    fact (machine.perform host operation).value.2.1 (machine.perform host operation).value.2.2
      (past ++ [⟨machine, host, operation⟩])

variable {fact : Machine → Host → List Moment → Prop} {machine : Machine} {host : Host}
  {past : List Moment}

theorem ne_dialog_of_isRequest {operation : Operation} (h : Dialog.IsRequest operation) :
    operation ≠ .dialog := by
  cases h <;> simp

theorem IsKept.performAll (h : IsKept fact) (hstart : fact machine host past)
    {operations : List Operation} (hplain : ∀ operation ∈ operations, operation ≠ .dialog) :
    fact (machine.performAll host operations).1 (machine.performAll host operations).2
      (past ++ machine.momentsOf host operations) := by
  induction operations generalizing machine host past with
  | nil =>
    rw [momentsOf, List.append_nil]
    exact hstart
  | cons operation rest ih =>
    have hfirst := h.perform hstart (hplain operation List.mem_cons_self)
    have hrest := ih hfirst fun later hmem => hplain later (List.mem_cons_of_mem _ hmem)
    rwa [List.append_assoc, List.singleton_append] at hrest

/-- A dialog keeps what its requests keep. -/
theorem IsKept.dialog (h : IsKept fact) (hstart : fact machine host past) :
    fact (machine.perform host .dialog).value.2.1 (machine.perform host .dialog).value.2.2
      (past ++ machine.momentsOfStep host (.operation .dialog)) := by
  obtain ⟨said, hdialog⟩ := Dialog.exists_dialog_eq_performAll machine host
  have hplain : ∀ operation ∈ Dialog.requests machine.console.line.input, operation ≠ .dialog :=
    fun operation hmem => ne_dialog_of_isRequest (Dialog.isRequest_of_mem hmem)
  have hrequests := h.performAll hstart hplain
  simp only [Machine.perform, Logged.value_bind, Logged.value_pure, hdialog]
  exact h.withConsole hrequests said

/-- Every operation keeps it, dialogs included. -/
theorem IsKept.operate (h : IsKept fact) (hstart : fact machine host past)
    (operation : Operation) :
    fact (machine.perform host operation).value.2.1 (machine.perform host operation).value.2.2
      (past ++ machine.momentsOfStep host (.operation operation)) := by
  by_cases hdialog : operation = .dialog
  · subst hdialog
    exact h.dialog hstart
  · have hmoments : machine.momentsOfStep host (.operation operation) =
        [⟨machine, host, operation⟩] := by
      cases operation with
      | dialog => exact absurd rfl hdialog
      | _ => rfl
    rw [hmoments]
    exact h.perform hstart hdialog

/-- A fact that operations and changes from outside keep holds after every run. -/
theorem IsKept.after (h : IsKept fact)
    (houtside : ∀ {machine host past}, fact machine host past →
      ∀ other, fact machine other past)
    (hstart : fact machine host past) (steps : List Step) :
    fact (machine.after host steps).1 (machine.after host steps).2
      (past ++ machine.history host steps) := by
  induction steps generalizing machine host past with
  | nil =>
    rw [history, List.append_nil]
    exact hstart
  | cons step rest ih =>
    rw [history, ← List.append_assoc]
    apply ih
    cases step with
    | outside other =>
      rw [momentsOfStep, List.append_nil]
      exact houtside hstart other
    | operation operation => exact h.operate hstart operation

/-! ## Settings -/

/-- A machine that goes by a configuration. -/
structure Configured (config : Config) (machine : Machine) : Prop where
  volumes : machine.controller.volumesDirectory = config.volumesDirectory
  config : machine.config = config

theorem configured_of_build {config : Config} {line : Console.Line} {host start : Host}
    {machine : Machine} (h : (build config line host).value = (.ok machine, start)) :
    Configured config machine := by
  obtain ⟨working, memory, -, -, rfl⟩ := exists_layOut_of_build h
  exact ⟨rfl, rfl⟩

/-- Writing the controller's register changes at most the latch and the status. -/
theorem exists_latch_status_output (controller : Disk.Controller) (memory : Memory) (host : Host)
    (value : UInt8) :
    ∃ latch status,
      (controller.output memory host value).value.1 = { controller with latch, status } := by
  have hcommand : ∃ latch status,
      (controller.command memory host value).value.1 = { controller with latch, status } := by
    unfold Disk.Controller.command
    split <;> exact ⟨_, _, rfl⟩
  unfold Disk.Controller.output
  split
  · exact ⟨_, _, rfl⟩
  · exact ⟨_, _, rfl⟩
  · exact hcommand
  · exact hcommand

theorem config_perform_of_ne_dialog (machine : Machine) (host : Host) {operation : Operation}
    (h : operation ≠ .dialog) :
    (machine.perform host operation).value.2.1.config = machine.config := by
  cases operation with
  | input port =>
    obtain ⟨console, hinput⟩ := machine.exists_console_input port
    simp only [perform, Logged.value_bind, Logged.value_pure, hinput]
    rfl
  | output port value =>
    simp only [perform, Logged.value_bind, Logged.value_pure]
    cases hbinding : machine.ports.binding? port with
    | none => rw [value_output_of_free machine host hbinding]
    | some binding =>
      rw [value_output_of_bound machine host hbinding, value_outputTo]
      obtain ⟨device, register⟩ := binding
      cases device <;> rfl
  | loadProgram name =>
    simp only [perform, Logged.value_bind, Logged.value_pure, value_loadProgram]
    rcases machine.findProgram host name with refusal | ⟨path, image⟩ <;> rfl
  | dialog => exact absurd rfl h
  | _ => rfl

theorem volumes_perform (machine : Machine) (host : Host) (operation : Operation) :
    (machine.perform host operation).value.2.1.controller.volumesDirectory =
      machine.controller.volumesDirectory := by
  cases hvalue : Disk.delivered? machine operation with
  | none =>
    obtain ⟨drives, hcontroller⟩ := Disk.exists_drives_perform hvalue host
    rw [hcontroller]
  | some value =>
    obtain ⟨latch, status, hcontroller⟩ :=
      exists_latch_status_output machine.controller machine.memory host value
    rw [Disk.perform_of_delivered hvalue]
    dsimp only
    rw [hcontroller]

theorem isKept_configured (config : Config) :
    IsKept fun machine _ _ => Configured config machine := by
  constructor
  · exact fun h _ => ⟨h.volumes, h.config⟩
  · intro machine host past h operation hplain
    exact ⟨(volumes_perform machine host operation).trans h.volumes,
      (config_perform_of_ne_dialog machine host hplain).trans h.config⟩

/-- No operation changes what a machine was configured with. -/
theorem Configured.perform {config : Config} (h : Configured config machine) (host : Host)
    (operation : Operation) :
    Configured config (machine.perform host operation).value.2.1 :=
  @IsKept.operate _ _ host [] (isKept_configured config) h operation

end Machine

end Backplane
