import Backplane.Proofs.Machine.Operation

/-!
# What a dialog asks for

A dialog is a conversation, but all it does to the machine is what its answers spell out.  This
file reads the answers off the input alone: the editor cuts the input into lines, and each line
decides which prompt comes next (`answers`).  An answer that asks for something stands for one
operation, and the others for none (`request?`).

`exists_dialog_eq_performAll` then says that a dialog leaves the machine and the host as those
operations would have left them, apart from the console, which the conversation itself went
through.  It rests on the fact that the operations do not look at the console
(`perform_withConsole`), so what was said before an answer makes no difference to what the answer
does.

## Answers

`answers` reads the input with the editor, and needs the prompts only for the lengths of their lines
and for which prompt follows.  Neither depends on the machine.  So what a dialog is going to ask for
is known before it begins, and it does not matter to this how the requests turn out: a program that
is not found does not change which line is read next.
-/

namespace Backplane

namespace Dialog

/-! ## Reading the input -/

/-- The prompt after an answer, unless the answer ends the dialog. -/
def next? (prompt : Prompt) (text : String) : Option Prompt :=
  match prompt with
  | .command =>
    match Choice.ofText text with
    | .prompt next => some next
    | .leave => none
    | .again => some .command
  | _ => some .command

/-- The answers that are complete within the input, each with its prompt, when a prompt is being
answered and some of the answer has been typed. -/
def answers (prompt : Prompt) (text : List UInt8) : List UInt8 → List (Prompt × String)
  | [] => []
  | value :: rest =>
    match press prompt.limit text value with
    | ⟨text, _, false⟩ => answers prompt text rest
    | ⟨text, _, true⟩ =>
      (prompt, lineText text) ::
        match next? prompt (lineText text) with
        | some next => answers next [] rest
        | none => []

/-- The operation that an answer asks for, if it asks for one. -/
def request? : Prompt × String → Option Operation
  | (.panelValue, text) =>
    match Numeral.byte? text with
    | .ok value => some (.setFrontPanel value)
    | .error _ => none
  | (.programName, text) => some (.loadProgram text)
  | (.diskName drive, text) => some (.mount drive.number text)
  | (.command, _) | (.address, _) => none

/-- The operations that a dialog on the given input asks for, in order. -/
def requests (input : List UInt8) : List Operation :=
  (answers .command [] input).filterMap request?

/-- The machine of a session, or the one that was left. -/
def Progress.machine : Progress → Machine
  | .waiting session => session.machine
  | .left machine _ => machine

/-- The host of a session, or the one that was left. -/
def Progress.host : Progress → Host
  | .waiting session => session.host
  | .left _ host => host

/-! ## Operations of a dialog and the console -/

/-- The operations that a dialog can ask for. -/
inductive IsRequest : Operation → Prop where
  | setFrontPanel (value : UInt8) : IsRequest (.setFrontPanel value)
  | loadProgram (name : String) : IsRequest (.loadProgram name)
  | mount (number : Nat) (name : String) : IsRequest (.mount number name)

theorem isRequest_of_request? {answer : Prompt × String} {operation : Operation}
    (h : request? answer = some operation) : IsRequest operation := by
  obtain ⟨prompt, text⟩ := answer
  cases prompt with
  | command => simp [request?] at h
  | panelValue =>
    unfold request? at h
    cases hvalue : Numeral.byte? text with
    | error fault => simp [hvalue] at h
    | ok value =>
      simp only [hvalue, Option.some.injEq] at h
      exact h ▸ .setFrontPanel value
  | programName => exact Option.some.inj h ▸ .loadProgram text
  | diskName drive => exact Option.some.inj h ▸ .mount drive.number text
  | address => simp [request?] at h

theorem isRequest_of_mem {input : List UInt8} {operation : Operation}
    (h : operation ∈ requests input) : IsRequest operation := by
  obtain ⟨answer, -, hanswer⟩ := List.mem_filterMap.1 h
  exact isRequest_of_request? hanswer

variable (machine : Machine) (host : Host)

/-- A request neither looks at the console nor changes it. -/
theorem perform_withConsole {operation : Operation} (h : IsRequest operation)
    (console : Console) :
    ((machine.withConsole console).perform host operation).value =
      ((machine.perform host operation).value.1,
        (machine.perform host operation).value.2.1.withConsole console,
        (machine.perform host operation).value.2.2) := by
  cases h with
  | setFrontPanel value => rfl
  | mount number name => rfl
  | loadProgram name =>
    have hfind : (machine.withConsole console).findProgram host name =
        machine.findProgram host name := rfl
    simp only [Machine.perform, Logged.value_bind, Logged.value_pure, Machine.value_loadProgram,
      hfind]
    rcases machine.findProgram host name with refusal | ⟨path, image⟩ <;> rfl

theorem performAll_withConsole {operations : List Operation}
    (h : ∀ operation ∈ operations, IsRequest operation) (console : Console) :
    (machine.withConsole console).performAll host operations =
      ((machine.performAll host operations).1.withConsole console,
        (machine.performAll host operations).2) := by
  induction operations generalizing machine host with
  | nil => rfl
  | cons operation rest ih =>
    have hfirst := perform_withConsole machine host (h operation List.mem_cons_self) console
    have hrest : ∀ other ∈ rest, IsRequest other := fun other hmem =>
      h other (List.mem_cons_of_mem _ hmem)
    rw [Machine.performAll, Machine.performAll, hfirst]
    exact ih _ _ hrest

/-! ## Sessions -/

/-- Acting on an answer is performing what it asks for. -/
theorem value_act (prompt : Prompt) (text : String) :
    (act machine host prompt text).value.2 =
      machine.performAll host (request? (prompt, text)).toList := by
  cases prompt with
  | command => rfl
  | panelValue =>
    simp only [act, request?]
    cases Numeral.byte? text <;> rfl
  | programName =>
    simp only [act, request?, Option.toList_some, Machine.performAll, Machine.perform,
      Logged.value_bind]
    rcases (machine.loadProgram host text).value with ⟨_ | _, after, hostAfter⟩ <;> rfl
  | diskName drive => rfl
  | address =>
    simp only [act, request?]
    cases Numeral.word? text <;> rfl

/-- After a complete line the session goes on with the prompt that the line leads to, on a
machine to which was done what the line asks for. -/
theorem exists_complete_eq (console : Console) (prompt : Prompt) (text : String) :
    ∃ said,
      (complete (machine.withConsole console) host prompt text).value =
        match next? prompt text with
        | some next =>
          .waiting
            ⟨(machine.performAll host (request? (prompt, text)).toList).1.withConsole said,
              (machine.performAll host (request? (prompt, text)).toList).2, next, []⟩
        | none =>
          .left ((machine.performAll host (request? (prompt, text)).toList).1.withConsole said)
            (machine.performAll host (request? (prompt, text)).toList).2 := by
  have hrequest : ∀ operation ∈ (request? (prompt, text)).toList, IsRequest operation :=
    fun operation hmem => isRequest_of_request? (Option.mem_toList.1 hmem)
  cases prompt with
  | command =>
    -- A command makes no request, and leads to a question, to the menu or out of the dialog.
    simp only [complete, Logged.value_pure, obey, next?, request?, Option.toList_none,
      Machine.performAll]
    rcases Choice.ofText text with next | _ | _ <;> exact ⟨_, rfl⟩
  | _ =>
    -- An answer makes its request, and the menu is shown again.
    simp only [complete, Logged.value_bind, Logged.value_pure, value_act, next?,
      performAll_withConsole machine host hrequest]
    exact ⟨_, rfl⟩

theorem performAll_filterMap_cons (answer : Prompt × String) (rest : List (Prompt × String)) :
    machine.performAll host ((answer :: rest).filterMap request?) =
      (machine.performAll host (request? answer).toList).1.performAll
        (machine.performAll host (request? answer).toList).2 (rest.filterMap request?) := by
  cases hanswer : request? answer with
  | none =>
    rw [List.filterMap_cons_none hanswer]
    rfl
  | some operation =>
    rw [List.filterMap_cons_some hanswer]
    rfl

/-- A session leaves the machine and the host as the operations that its answers ask for do,
apart from the console. -/
theorem exists_run_eq_performAll (input : List UInt8) (console : Console) (prompt : Prompt)
    (text : List UInt8) :
    ∃ said,
      (Session.run ⟨machine.withConsole console, host, prompt, text⟩ input).value.1.machine =
          (machine.performAll host
            ((answers prompt text input).filterMap request?)).1.withConsole said ∧
        (Session.run ⟨machine.withConsole console, host, prompt, text⟩ input).value.1.host =
          (machine.performAll host ((answers prompt text input).filterMap request?)).2 := by
  induction input generalizing machine host console prompt text with
  | nil => exact ⟨console, rfl, rfl⟩
  | cons value rest ih =>
    simp only [Session.run, Session.feed, answers, Logged.value_bind]
    rcases press prompt.limit text value with ⟨typed, echo, _ | _⟩
    · -- The line goes on, and only the echo was sent.
      exact ih machine host _ prompt typed
    · -- The line is complete, and its request comes before those of the rest.
      obtain ⟨said, hcomplete⟩ := exists_complete_eq machine host
        (send (machine.withConsole console) (echo ++ [carriageReturn, lineFeed])).console
        prompt (lineText typed)
      have hsent : send (machine.withConsole console) (echo ++ [carriageReturn, lineFeed]) =
          machine.withConsole
            (send (machine.withConsole console) (echo ++ [carriageReturn, lineFeed])).console :=
        rfl
      dsimp only
      rw [hsent, hcomplete, performAll_filterMap_cons]
      cases next? prompt (lineText typed) with
      | none => exact ⟨said, rfl, rfl⟩
      | some next => exact ih _ _ said next []

/-- A dialog leaves the machine and the host as the operations that its input asks for do, apart
from the console. -/
theorem exists_dialog_eq_performAll :
    ∃ said,
      (run machine host).value.2 =
        ((machine.performAll host (requests machine.console.line.input)).1.withConsole said,
          (machine.performAll host (requests machine.console.line.input)).2) := by
  obtain ⟨said, hmachine, hhost⟩ := exists_run_eq_performAll machine host
    machine.console.line.input (showMenu (withInput machine []) host).machine.console .command []
  have hstart : showMenu (withInput machine []) host =
      ⟨machine.withConsole (showMenu (withInput machine []) host).machine.console, host,
        .command, []⟩ := rfl
  rw [← hstart] at hmachine hhost
  simp only [run, Logged.value_bind]
  rcases hended : ((showMenu (withInput machine []) host).run machine.console.line.input).value with
    ⟨session | ⟨left, hostLeft⟩, unread⟩
  all_goals
    simp only [hended, Progress.machine, Progress.host] at hmachine hhost
    refine ⟨{ said with line := { said.line with input := unread } }, ?_⟩
    simp only [Logged.value_bind, Logged.value_pure, hmachine, hhost]
    rfl

end Dialog

end Backplane
