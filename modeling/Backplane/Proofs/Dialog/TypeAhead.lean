import Backplane.Proofs.Dialog.Script

/-!
# Type-ahead

A dialog cannot tell bytes that waited for it from bytes that arrive while it waits.  The reason is
that all it knows at any point is a session, and that a session on two inputs in a row is the
session on the first, gone on with on the second (`value_run_append`).  The point where the input
is cut may lie anywhere: in a value, in a name, or between a character and the key that erases it.

`dialog_typeAhead` says it for whole dialogs.  A dialog that was left leaves the bytes behind its
last one where they are.  One that still waits has read everything, and with more input it goes on
from the session it waits in, so whatever it sent before stays sent (`exists_output_run`).

## Scope

Nothing is assumed of the machine or of the host.  The host is the same for both inputs, and nobody
changes it while the dialog runs.  How long a dialog has to wait for a byte is not a part of the
model: a session that has no byte to read simply stands where it is.
-/

namespace Backplane

namespace Dialog

variable {session next : Session} {input unread : List UInt8}

/-! ## Inputs in a row -/

/-- How a dialog ends whose session got as far, with the input that was not read. -/
def conclude : Progress × List UInt8 → Ending × Machine × Host
  | (.left machine host, unread) => (.left, withInput machine unread, host)
  | (.waiting session, unread) => (.waiting, withInput session.machine unread, session.host)

theorem value_run (machine : Machine) (host : Host) :
    (run machine host).value =
      conclude ((showMenu (withInput machine []) host).run machine.console.line.input).value := by
  simp only [run, Logged.value_bind]
  generalize ((showMenu (withInput machine []) host).run machine.console.line.input).value = ended
  rcases ended with ⟨session | ⟨machine, host⟩, unread⟩ <;> rfl

theorem output_conclude (ended : Progress × List UInt8) :
    (conclude ended).2.1.console.line.output = ended.1.machine.console.line.output := by
  rcases ended with ⟨session | ⟨machine, host⟩, unread⟩ <;> rfl

/-- On two inputs in a row a session does on the second what it does when it waits after the first;
one that is left does not read the second. -/
theorem value_run_append (session : Session) (first second : List UInt8) :
    (session.run (first ++ second)).value =
      match (session.run first).value with
      | (.waiting next, _) => (next.run second).value
      | (.left machine host, unread) => (.left machine host, unread ++ second) := by
  induction first generalizing session with
  | nil => rfl
  | cons key rest ih =>
    simp only [List.cons_append, Session.run, Logged.value_bind]
    cases (session.feed key).value with
    | waiting next => exact ih next
    | left machine host => rfl

/-- A session waits only when it has read everything. -/
theorem unread_of_waiting (h : (session.run input).value = (.waiting next, unread)) :
    unread = [] := by
  induction input generalizing session with
  | nil => exact (Prod.mk.inj h).2.symm
  | cons key rest ih =>
    simp only [Session.run, Logged.value_bind] at h
    cases hfeed : (session.feed key).value with
    | waiting later =>
      rw [hfeed] at h
      exact ih h
    | left machine host =>
      rw [hfeed] at h
      exact absurd (congrArg Prod.fst h) (by simp)

/-! ## What was sent stays sent -/

theorem append_append_list (output : Array UInt8) (first second : List UInt8) :
    output ++ first ++ second = output ++ (first ++ second) :=
  Array.ext' (by simp)

theorem send_nil (machine : Machine) : send machine [] = machine := by
  have houtput (output : Array UInt8) : output ++ ([] : List UInt8) = output := Array.ext' (by simp)
  simp only [send, Console.Line.sendAll, houtput]

/-- Requests say nothing and read nothing. -/
theorem console_performAll (machine : Machine) (host : Host) {operations : List Operation}
    (h : ∀ operation ∈ operations, IsRequest operation) :
    (machine.performAll host operations).1.console = machine.console := by
  have hsame : machine.performAll host operations =
      ((machine.performAll host operations).1.withConsole machine.console,
        (machine.performAll host operations).2) :=
    performAll_withConsole machine host h machine.console
  rw [hsame]
  rfl

/-- What is said about a complete line comes behind what was sent before. -/
theorem exists_output_complete (machine : Machine) (host : Host) (prompt : Prompt)
    (text : String) :
    ∃ said : List UInt8,
      (complete machine host prompt text).value.machine.console.line.output =
        machine.console.line.output ++ said := by
  have hrequest : ∀ operation ∈ (request? (prompt, text)).toList, IsRequest operation :=
    fun operation hmem => isRequest_of_request? (Option.mem_toList.1 hmem)
  have hconsole := console_performAll machine host hrequest
  obtain ⟨said, hcomplete⟩ := exists_complete_send machine host [] prompt text
  have hsaid : (send (machine.performAll host (request? (prompt, text)).toList).1
      said).console.line.output = machine.console.line.output ++ said := by
    rw [send_eq_withConsole, hconsole]
    rfl
  rw [send_nil] at hcomplete
  rw [hcomplete]
  cases next? prompt text <;> exact ⟨said, hsaid⟩

theorem exists_output_feed (session : Session) (key : UInt8) :
    ∃ said : List UInt8,
      (session.feed key).value.machine.console.line.output =
        session.machine.console.line.output ++ said := by
  obtain ⟨machine, host, prompt, typed⟩ := session
  simp only [Session.feed]
  rcases press prompt.limit typed key with ⟨text, echo, _ | _⟩
  · exact ⟨echo, rfl⟩
  · obtain ⟨said, hsaid⟩ := exists_output_complete
      (send machine (echo ++ [carriageReturn, lineFeed])) host prompt (lineText text)
    exact ⟨echo ++ [carriageReturn, lineFeed] ++ said, hsaid.trans (append_append_list _ _ _)⟩

/-- Whatever is typed, a session sends bytes behind those it has sent. -/
theorem exists_output_run (session : Session) (input : List UInt8) :
    ∃ said : List UInt8,
      (session.run input).value.1.machine.console.line.output =
        session.machine.console.line.output ++ said := by
  induction input generalizing session with
  | nil => exact ⟨[], by simp [Session.run, Progress.machine]⟩
  | cons key rest ih =>
    obtain ⟨first, hfirst⟩ := exists_output_feed session key
    simp only [Session.run, Logged.value_bind]
    cases hfeed : (session.feed key).value with
    | waiting next =>
      rw [hfeed] at hfirst
      obtain ⟨later, hlater⟩ := ih next
      refine ⟨first ++ later, ?_⟩
      rw [hlater, show next.machine.console.line.output = _ from hfirst]
      exact append_append_list _ _ _
    | left machine host =>
      rw [hfeed] at hfirst
      exact ⟨first, hfirst⟩

/-! ## Whole dialogs -/

/-- A dialog on a queue goes as on any longer one.  If it was left, it leaves the same machine and
the rest of the longer queue too.  If it still waits, it has read all there was; on the longer queue
it goes on from the session it waits in, and what it sent is the beginning of what it sends. -/
theorem dialog_typeAhead (machine : Machine) (host : Host) (first second : List UInt8) :
    (∀ final after, (run (withInput machine first) host).value = (.left, final, after) →
      (run (withInput machine (first ++ second)) host).value =
        (.left, withInput final (final.console.line.input ++ second), after)) ∧
    (∀ final after, (run (withInput machine first) host).value = (.waiting, final, after) →
      final.console.line.input = [] ∧
      ∃ session : Session,
        ((showMenu (withInput machine []) host).run first).value = (.waiting session, []) ∧
        final = withInput session.machine [] ∧ after = session.host ∧
        (run (withInput machine (first ++ second)) host).value =
          conclude (session.run second).value ∧
        ∃ said : List UInt8,
          (run (withInput machine (first ++ second)) host).value.2.1.console.line.output =
            final.console.line.output ++ said) := by
  have hrun (queue : List UInt8) : (run (withInput machine queue) host).value =
      conclude ((showMenu (withInput machine []) host).run queue).value :=
    value_run (withInput machine queue) host
  have hlonger := value_run_append (showMenu (withInput machine []) host) first second
  rw [hrun, hrun, hlonger]
  rcases hfirst : ((showMenu (withInput machine []) host).run first).value with
    ⟨session | ⟨left, hostLeft⟩, unread⟩
  · -- It still waits: the session goes on when the second part arrives.
    obtain rfl := unread_of_waiting hfirst
    obtain ⟨said, hsaid⟩ := exists_output_run session second
    refine ⟨fun final after hleft => absurd (congrArg Prod.fst hleft) (by simp [conclude]), ?_⟩
    rintro final after hwaiting
    obtain ⟨-, rfl, rfl⟩ : Ending.waiting = Ending.waiting ∧
        withInput session.machine [] = final ∧ session.host = after := by
      simpa [conclude] using hwaiting
    exact ⟨rfl, session, rfl, rfl, rfl, rfl, said, (output_conclude _).trans hsaid⟩
  · -- It was left: whatever comes behind stays in the queue.
    refine ⟨?_, fun final after hwaiting =>
      absurd (congrArg Prod.fst hwaiting) (by simp [conclude])⟩
    rintro final after hleft
    obtain ⟨rfl, rfl⟩ : withInput left unread = final ∧ hostLeft = after := by
      simpa [conclude] using hleft
    rfl

/-- A dialog that is left with a key to spare, and one that waits in the middle of a value whose
first character was erased. -/
theorem dialog_typeAhead_value :
    (∃ final, (run (withInput Disk.diskMachine [0x36, 0x78]) {}).value = (.left, final, {}) ∧
      (run (withInput Disk.diskMachine [0x36, 0x78, 0x79]) {}).value =
        (.left, withInput final [0x78, 0x79], {})) ∧
    ∃ final, ∃ session : Session, ∃ said : List UInt8,
      (run (withInput Disk.diskMachine [0x31, 0x34, 0x08]) {}).value = (.waiting, final, {}) ∧
      final.console.line.input = [] ∧
      (run (withInput Disk.diskMachine [0x31, 0x34, 0x08, 0x41, 0x0D]) {}).value =
        conclude (session.run [0x41, 0x0D]).value ∧
      (conclude (session.run [0x41, 0x0D]).value).2.1.console.line.output =
        final.console.line.output ++ said := by
  have hleave : Spells (withInput Disk.diskMachine [0x36, 0x78]).console.line.input [] [0x78]
      .left := .left rfl
  have hvalue : Spells (withInput Disk.diskMachine [0x31, 0x34, 0x08]).console.line.input [] []
      .waiting := @Spells.unanswered _ [0x34, 0x08] "1" 2 rfl rfl rfl
  obtain ⟨_, hleft⟩ := exists_dialog_of_spells (withInput Disk.diskMachine [0x36, 0x78]) {} hleave
  obtain ⟨_, hwaiting⟩ :=
    exists_dialog_of_spells (withInput Disk.diskMachine [0x31, 0x34, 0x08]) {} hvalue
  refine ⟨⟨_, hleft, (dialog_typeAhead Disk.diskMachine {} [0x36, 0x78] [0x79]).1 _ _ hleft⟩, ?_⟩
  obtain ⟨hread, session, -, -, -, hlonger, said, hsaid⟩ :=
    (dialog_typeAhead Disk.diskMachine {} [0x31, 0x34, 0x08] [0x41, 0x0D]).2 _ _ hwaiting
  exact ⟨_, session, said, hwaiting, hread, hlonger, hlonger ▸ hsaid⟩

end Dialog

end Backplane
