import Backplane.Proofs.Dialog.Lockstep
import Backplane.Proofs.Disk.Completed

/-!
# Transfers that fail

A transfer that fails shows in the status register and nowhere else, as long as working storage
takes every byte, which an array does.  So a run in which such transfers are left out goes like the
whole run: the same answers, the same files, the same machine but for the status, and even the
status is the same again once a transfer has been carried out that was not left out.
`after_leaving_out` says so for any run and for any of its failed transfers.

Two facts make it true.  A failed transfer changes nothing but the status (`perform_of_fails`): it
has either stopped before anything was moved, or a device has refused a byte.  And no operation
looks at the status, apart from reading the controller's register (`SameButStatus.perform`), so
the difference that a left-out transfer makes stays where it is.

## Which transfers are left out

Any of those that fail, and as many of them as one likes.  `LeavesOut` builds the shorter run from
the front: a step is kept or, if it asks for a transfer that fails at that point of the *whole* run,
it is left out.  It also keeps account of whether the status is `stale`, that is, whether the last
transfer of the whole run was one of those left out.

A transfer that ended well is never left out.  It has changed memory or an image, so the rest of the
run could not go the same way without it.

## Why working storage is an array

Bytes that are read are stored one after the other, and a device that refuses one of them ends the
transfer with the others in place.  An array refuses none.  For working storage in a file there
would be failed reads that have changed something, if the host stops to take bytes half way through
a sector, and then they could not be left out.
-/

namespace Backplane

namespace Disk

namespace Controller

/-- The same controller with another status. -/
def withStatus (controller : Controller) (status : Status) : Controller :=
  { controller with status }

end Controller

end Disk

namespace Machine

/-- The same machine with another status in its controller. -/
def withStatus (machine : Machine) (status : Disk.Status) : Machine :=
  { machine with controller := machine.controller.withStatus status }

end Machine

namespace Disk

variable {machine other : Machine} {host otherHost : Host} {operation : Operation}

/-! ## Operations and the status -/

namespace Controller

variable (controller : Controller) (status : Status)

theorem unmount_withStatus (number : Nat) :
    ((controller.withStatus status).unmount number).value =
      ((controller.unmount number).value.1,
        (controller.unmount number).value.2.withStatus status) := by
  unfold unmount
  cases Drive.ofNumber? number <;> rfl

theorem mount_withStatus (host : Host) (number : Nat) (name : String) :
    ((controller.withStatus status).mount host number name).value =
      ((controller.mount host number name).value.1,
        (controller.mount host number name).value.2.withStatus status) := by
  unfold mount
  cases Drive.ofNumber? number with
  | none => rfl
  | some drive =>
    dsimp only
    split
    · exact unmount_withStatus controller status number
    · rw [show (controller.withStatus status).volumesDirectory =
        controller.volumesDirectory from rfl]
      split
      · rfl
      · split <;> rfl

/-- What is written to the controller acts alike whatever the status is. -/
theorem exists_output_withStatus (memory : Memory) (host : Host) (value : UInt8) :
    ∃ shown, ((controller.withStatus status).output memory host value).value =
      ((controller.output memory host value).value.1.withStatus shown,
        (controller.output memory host value).value.2) := by
  have hcommand : ∃ shown, ((controller.withStatus status).command memory host value).value =
      ((controller.command memory host value).value.1.withStatus shown,
        (controller.command memory host value).value.2) := by
    unfold command
    cases Command.ofByte value with
    | transfer direction => exact ⟨_, rfl⟩
    | _ => exact ⟨status, rfl⟩
  unfold output
  rw [show (controller.withStatus status).latch = controller.latch from rfl]
  split
  · exact ⟨status, rfl⟩
  · exact ⟨status, rfl⟩
  · exact hcommand
  · exact hcommand

end Controller

/-- Two machines on the same host that differ in the status at most. -/
def SameButStatus (machine : Machine) (host : Host) (other : Machine) (otherHost : Host) : Prop :=
  otherHost = host ∧ ∃ status, other = machine.withStatus status

/-- An operation that reads the status, through whichever port. -/
def ReadsStatus (machine : Machine) : Operation → Prop
  | .input port => ∃ register, machine.ports.binding? port = some ⟨.controller, register⟩
  | _ => False

/-- The requests of a dialog have nothing to do with the status. -/
theorem perform_withStatus_of_isRequest (h : Dialog.IsRequest operation) (machine : Machine)
    (host : Host) (status : Status) :
    ((machine.withStatus status).perform host operation).value =
      ((machine.perform host operation).value.1,
        (machine.perform host operation).value.2.1.withStatus status,
        (machine.perform host operation).value.2.2) := by
  cases h with
  | setFrontPanel value => rfl
  | mount number name =>
    have hmount := machine.controller.mount_withStatus status host number name
    simp only [Machine.perform, Machine.mount, Logged.value_bind, Logged.value_pure]
    rw [show (machine.withStatus status).controller = machine.controller.withStatus status from rfl,
      hmount]
    rfl
  | loadProgram name =>
    have hfind : (machine.withStatus status).findProgram host name =
        machine.findProgram host name := rfl
    simp only [Machine.perform, Logged.value_bind, Logged.value_pure, Machine.value_loadProgram,
      hfind]
    rcases machine.findProgram host name with refusal | ⟨path, image⟩ <;> rfl

theorem lockstep_sameButStatus : Dialog.Lockstep (fun _ => True) SameButStatus := by
  constructor
  · rintro machine host other otherHost ⟨rfl, status, rfl⟩
    exact ⟨rfl, rfl, rfl, fun _ => rfl⟩
  · rintro machine host other otherHost ⟨rfl, status, rfl⟩ console
    exact ⟨rfl, status, rfl⟩
  · rintro machine host other otherHost ⟨rfl, status, rfl⟩ operation hrequest -
    rw [perform_withStatus_of_isRequest hrequest]
    exact ⟨rfl, rfl, status, rfl⟩

theorem sameButStatus_output (machine : Machine) (host : Host) (status : Status)
    (port value : UInt8) :
    SameButStatus (machine.output host port value).value.1 (machine.output host port value).value.2
      ((machine.withStatus status).output host port value).value.1
      ((machine.withStatus status).output host port value).value.2 := by
  rcases hbinding : machine.ports.binding? port with _ | ⟨device, register⟩
  · have hother : (machine.withStatus status).ports.binding? port = none := hbinding
    rw [Machine.value_output_of_free _ _ hbinding, Machine.value_output_of_free _ _ hother]
    exact ⟨rfl, status, rfl⟩
  · have hother : (machine.withStatus status).ports.binding? port = some ⟨device, register⟩ :=
      hbinding
    rw [Machine.value_output_of_bound _ _ hbinding, Machine.value_output_of_bound _ _ hother,
      Machine.value_outputTo, Machine.value_outputTo]
    cases device with
    | controller =>
      obtain ⟨shown, houtput⟩ :=
        machine.controller.exists_output_withStatus status machine.memory host value
      have hother : ((machine.withStatus status).controller.output
          (machine.withStatus status).memory host value).value = _ := houtput
      simp only [hother]
      exact ⟨rfl, shown, rfl⟩
    | _ => exact ⟨rfl, status, rfl⟩

/-- Machines that differ in the status at most answer alike, unless the status is read, and go on
to differ in the status at most. -/
theorem SameButStatus.perform (h : SameButStatus machine host other otherHost)
    (operation : Operation) :
    (¬ ReadsStatus machine operation →
      (other.perform otherHost operation).value.1 = (machine.perform host operation).value.1) ∧
      SameButStatus (machine.perform host operation).value.2.1
        (machine.perform host operation).value.2.2
        (other.perform otherHost operation).value.2.1
        (other.perform otherHost operation).value.2.2 := by
  have hdialog := lockstep_sameButStatus.run h fun _ _ => trivial
  obtain ⟨rfl, status, rfl⟩ := h
  cases operation with
  | dialog =>
    -- A dialog asks for requests, and none of them looks at the status.
    simp only [Machine.perform, Logged.value_bind, Logged.value_pure]
    exact ⟨fun _ => congrArg Answer.ended hdialog.1, hdialog.2⟩
  | mount number name =>
    rw [perform_withStatus_of_isRequest (.mount number name)]
    exact ⟨fun _ => rfl, rfl, status, rfl⟩
  | loadProgram name =>
    rw [perform_withStatus_of_isRequest (.loadProgram name)]
    exact ⟨fun _ => rfl, rfl, status, rfl⟩
  | unmount number =>
    have hunmount := machine.controller.unmount_withStatus status number
    simp only [Machine.perform, Machine.unmount, Logged.value_bind, Logged.value_pure]
    rw [show (machine.withStatus status).controller = machine.controller.withStatus status from rfl,
      hunmount]
    exact ⟨fun _ => rfl, rfl, status, rfl⟩
  | input port =>
    -- Only the register of the controller shows the status.
    simp only [Machine.perform, Machine.input, Logged.value_bind, Logged.value_pure,
      Machine.value_lookup]
    rw [show (machine.withStatus status).ports = machine.ports from rfl]
    rcases hbinding : machine.ports.binding? port with _ | ⟨device, register⟩
    · exact ⟨fun _ => rfl, rfl, status, rfl⟩
    · cases device with
      | controller => exact ⟨fun hreads => absurd ⟨register, hbinding⟩ hreads, rfl, status, rfl⟩
      | _ => exact ⟨fun _ => rfl, rfl, status, rfl⟩
  | output port value =>
    -- A byte for the controller may set a new status, which is the same on both.
    exact ⟨fun _ => rfl, sameButStatus_output machine otherHost status port value⟩
  | _ => exact ⟨fun _ => rfl, rfl, status, rfl⟩

/-- A transfer sets the status, whatever it was. -/
theorem SameButStatus.perform_of_asks (h : SameButStatus machine host other otherHost)
    (hasks : (asksFor? machine operation).isSome) :
    (other.perform otherHost operation).value.2 = (machine.perform host operation).value.2 := by
  obtain ⟨rfl, status, rfl⟩ := h
  obtain ⟨⟨direction, number⟩, hasks⟩ := Option.isSome_iff_exists.1 hasks
  have hother : asksFor? (machine.withStatus status) operation = some (direction, number) := hasks
  rw [perform_of_asksFor hasks, perform_of_asksFor hother]
  rfl

/-! ## Failed transfers -/

/-- The operation asks for a transfer, and the status after it is not that of success. -/
def Fails (machine : Machine) (host : Host) (operation : Operation) : Prop :=
  (asksFor? machine operation).isSome ∧
    (machine.perform host operation).value.2.1.controller.status ≠ .ok

instance (machine : Machine) (host : Host) (operation : Operation) :
    Decidable (Fails machine host operation) :=
  inferInstanceAs (Decidable (_ ∧ _))

/-- A failed transfer changes nothing but the status. -/
theorem perform_of_fails (htakes : machine.memory.TakesAll host)
    (hfails : Fails machine host operation) :
    SameButStatus machine host (machine.perform host operation).value.2.1
      (machine.perform host operation).value.2.2 := by
  obtain ⟨hasks, hstatus⟩ := hfails
  obtain ⟨⟨direction, number⟩, hasks⟩ := Option.isSome_iff_exists.1 hasks
  have hcases := transferred machine.controller.drives machine.controller.latch.address? direction
    number machine.memory host
  rw [perform_of_asksFor hasks] at hstatus ⊢
  generalize (transfer machine.controller.drives machine.controller.latch.address? direction number
    machine.memory host).value = ended at hstatus hcases
  cases hcases with
  | refused failure => exact ⟨rfl, _, rfl⟩
  | stopped descriptor path node bytes address fault reads selects sector stored =>
    rw [htakes.value_storeBlock] at stored
    exact absurd stored (by simp)
  | read => exact absurd rfl hstatus
  | wrote => exact absurd rfl hstatus

/-! ## Runs without them -/

/-- Whether a step asks for a transfer. -/
def asksInStep (machine : Machine) : Step → Bool
  | .operation operation => (asksFor? machine operation).isSome
  | .outside _ => false

/-- `kept` is what is left of `steps` when some of the transfers that fail in the run of `steps`
are left out.  The status is `stale` if no other transfer was asked for since. -/
inductive LeavesOut (machine : Machine) (start : Host) : List Step → List Step → Bool → Prop
  | nothing : LeavesOut machine start [] [] false
  | keep {steps kept : List Step} {stale : Bool} (before : LeavesOut machine start steps kept stale)
    (step : Step) :
    LeavesOut machine start (steps ++ [step]) (kept ++ [step])
      (stale && !asksInStep (machine.after start steps).1 step)
  | leaveOut {steps kept : List Step} {stale : Bool}
    (before : LeavesOut machine start steps kept stale) {operation : Operation}
    (fails : Fails (machine.after start steps).1 (machine.after start steps).2 operation) :
    LeavesOut machine start (steps ++ [.operation operation]) kept true

/-- The state of a run from which failed transfers were left out: that of the whole run, but for the
status while it is stale.  This is the invariant, and it says nothing about how the two runs have
come to this point. -/
structure Follows (machine : Machine) (start : Host) (steps kept : List Step) (stale : Bool) :
    Prop where
  same : SameButStatus (machine.after start steps).1 (machine.after start steps).2
    (machine.after start kept).1 (machine.after start kept).2
  status : stale = false → (machine.after start kept).1 = (machine.after start steps).1

variable {start : Host} {steps kept : List Step} {stale : Bool}

theorem Follows.keep (h : Follows machine start steps kept stale) (step : Step) :
    Follows machine start (steps ++ [step]) (kept ++ [step])
      (stale && !asksInStep (machine.after start steps).1 step) := by
  have hhost := h.same.1
  constructor
  · rw [Machine.after_append_singleton, Machine.after_append_singleton]
    cases step with
    | outside host => exact ⟨rfl, h.same.2⟩
    | operation operation => exact (h.same.perform operation).2
  · intro hstale
    rw [Machine.after_append_singleton, Machine.after_append_singleton]
    cases hbefore : stale with
    | false => rw [h.status hbefore, hhost]
    | true =>
      rw [hbefore] at hstale
      cases step with
      | outside host => exact absurd hstale (by simp [asksInStep])
      | operation operation =>
        have hasks : (asksFor? (machine.after start steps).1 operation).isSome := by
          simpa [asksInStep] using hstale
        exact congrArg Prod.fst (h.same.perform_of_asks hasks)

/-- Storage that takes every byte on any host goes on doing so. -/
theorem takesAll_after (htakes : ∀ host, machine.memory.TakesAll host) (start : Host)
    (steps : List Step) (host : Host) : (machine.after start steps).1.memory.TakesAll host := by
  induction steps generalizing machine start with
  | nil => exact htakes host
  | cons step rest ih =>
    apply ih
    cases step with
    | outside _ => exact htakes
    | operation operation =>
      intro other
      exact (htakes other).of_sameDevices (Machine.sameDevices_perform machine start operation)
        fun _ _ => rfl

theorem Follows.leaveOut (htakes : ∀ host, machine.memory.TakesAll host)
    (h : Follows machine start steps kept stale)
    (hfails : Fails (machine.after start steps).1 (machine.after start steps).2 operation) :
    Follows machine start (steps ++ [.operation operation]) kept true := by
  obtain ⟨hhost, status, hmachine⟩ := h.same
  obtain ⟨hsame, shown, hfailed⟩ := perform_of_fails (takesAll_after htakes start steps _) hfails
  refine ⟨?_, by simp⟩
  rw [Machine.after_append_singleton]
  refine ⟨hhost.trans hsame.symm, status, ?_⟩
  show _ = ((machine.after start steps).1.perform (machine.after start steps).2
    operation).value.2.1.withStatus status
  rw [hmachine, hfailed]
  rfl

theorem follows_of_leavesOut (htakes : ∀ host, machine.memory.TakesAll host)
    (h : LeavesOut machine start steps kept stale) :
    Follows machine start steps kept stale := by
  induction h with
  | nothing => exact ⟨⟨rfl, machine.controller.status, rfl⟩, fun _ => rfl⟩
  | keep before step ih => exact ih.keep step
  | leaveOut before fails ih => exact ih.leaveOut htakes fails

/-- On a machine whose working storage is an array, a run from which any failed transfers are left
out reaches the same files and the same machine but for the status, and the same status too once
another transfer was carried out.  Whatever is done next is answered as in the whole run, unless it
reads a stale status.  Nothing is assumed of the host, which may also change during the run, and
nothing of why the transfers fail. -/
theorem after_leaving_out {data : Content} (hworking : machine.memory.working = .array data)
    (h : LeavesOut machine start steps kept stale) :
    (machine.after start kept).2 = (machine.after start steps).2 ∧
      (∃ status, (machine.after start kept).1 =
        (machine.after start steps).1.withStatus status) ∧
      (stale = false → (machine.after start kept).1 = (machine.after start steps).1) ∧
      ∀ operation,
        stale = false ∨ ¬ ReadsStatus (machine.after start steps).1 operation →
        ((machine.after start kept).1.perform (machine.after start kept).2 operation).value.1 =
          ((machine.after start steps).1.perform (machine.after start steps).2
            operation).value.1 := by
  have htakes : ∀ host, machine.memory.TakesAll host := by
    intro host
    apply Memory.takesAll_of_working
    intro offset _
    rw [hworking]
    rfl
  have hfollows := follows_of_leavesOut htakes h
  refine ⟨hfollows.same.1, hfollows.same.2, hfollows.status, ?_⟩
  rintro operation (hstale | hreads)
  · rw [hfollows.status hstale, hfollows.same.1]
  · exact (hfollows.same.perform operation).1 hreads

/-- A host with an image of ten bytes. -/
def shortImageHost : Host :=
  .ofContents [(["D", "A.DSK"], .regular 0), (["D"], .directory)] [.zeros 10]

/-- A machine that is about to move the first sector of the image. -/
def latchedMachine : Machine := latchedOn ⟨"D"⟩ ⟨"D/A.DSK"⟩

theorem after_leaving_out_read :
    LeavesOut latchedMachine shortImageHost
        [.operation (.write 9 7), .operation (.output 4 0x20), .operation (.output 4 0x40)]
        [.operation (.write 9 7), .operation (.output 4 0x40)] false ∧
      (latchedMachine.after shortImageHost
          [.operation (.write 9 7), .operation (.output 4 0x40)]).1 =
        (latchedMachine.after shortImageHost [.operation (.write 9 7),
          .operation (.output 4 0x20), .operation (.output 4 0x40)]).1 := by
  have hfails : Fails
      (latchedMachine.after shortImageHost [.operation (.write 9 7)]).1
      (latchedMachine.after shortImageHost [.operation (.write 9 7)]).2 (.output 4 0x20) := by
    decide +kernel
  have hasks : asksInStep (latchedMachine.after shortImageHost
      [.operation (.write 9 7), .operation (.output 4 0x20)]).1
      (.operation (.output 4 0x40)) = true := by
    decide +kernel
  have hnothing : LeavesOut latchedMachine shortImageHost [] [] false := .nothing
  have hleaves := ((hnothing.keep (.operation (.write 9 7))).leaveOut hfails).keep
    (.operation (.output 4 0x40))
  simp only [List.nil_append, List.cons_append, hasks, Bool.not_true, Bool.and_false] at hleaves
  exact ⟨hleaves, (after_leaving_out rfl hleaves).2.2.1 rfl⟩

end Disk

end Backplane
