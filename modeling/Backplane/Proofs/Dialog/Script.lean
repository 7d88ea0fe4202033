import Backplane.Proofs.Disk.Drives
import Backplane.Proofs.Machine.ProgramStorage

/-!
# The dialog as a script

What is typed at the dialog is a script of calls.  This file reads the script off the bytes alone,
as a person would: cut a command line of at most one character, and if the command asks for
something, cut the line that answers it (`editLine`, `Spells`).  The keys, the lengths of the lines
and the calls are written out here once more, so that nothing of the dialog itself is needed to
read a script.

`exists_spells_dialog` says that the dialog does what the script spells out, and nothing else.  All
else that it does to the machine is to send bytes and to take those of the script out of the queue.
The proof goes along the script: one line takes a session from prompt to prompt (`exists_run_line`).

What the dialog does and says depends on little of the machine.  `Hidden` lists parts that it does
not look at, and `value_run_withHidden` says that it would have gone the same with any others.

## Scripts and answers

`Spells` and `Dialog.requests` say the same thing in two ways (`requests_of_spells`).  The second
uses the dialog's own definitions, and is good for proofs about dialogs.  The first is written for a
reader who wants to know what a key does: its constructors are the five things that can happen at a
menu.
-/

namespace Backplane

namespace Dialog

/-! ## Scripts -/

/-- Cuts the first line off the input, when some of it has been typed already: its text, and what
follows.  A line ends at a carriage return, or with the key that fills it. -/
def editLine (limit : Nat) : (typed : List Char) → List UInt8 → Option (String × List UInt8)
  | _, [] => none
  | typed, key :: rest =>
    if key = 0x0D then some (String.ofList typed, rest)
    else if key = 0x08 ∨ key = 0x7F then editLine limit typed.dropLast rest
    else if 0x20 ≤ key ∧ key ≤ 0x7E then
      if limit ≤ typed.length + 1 then
        some (String.ofList (typed ++ [Char.ofNat key.toNat]), rest)
      else editLine limit (typed ++ [Char.ofNat key.toNat]) rest
    else editLine limit typed rest

/-- The most characters of the line that a command asks for, if it asks for one. -/
def lineLimit? : String → Option Nat
  | "1" => some 2
  | "2" | "3" | "4" => some 8
  | "5" => some 4
  | _ => none

/-- The call that a command and its line spell out, if they spell out one. -/
def call? (command text : String) : Option Operation :=
  match command with
  | "1" => (Numeral.byte? text).toOption.map .setFrontPanel
  | "2" => some (.loadProgram text)
  | "3" => some (.mount 0 text)
  | "4" => some (.mount 1 text)
  | _ => none

/-- The calls that an input spells out, what it leaves unread, and how it ends.  It is read from the
front, one command at a time with the line that answers it, and each input has exactly one such
reading. -/
inductive Spells : List UInt8 → List Operation → List UInt8 → Ending → Prop
  /-- No command is complete. -/
  | waiting {input : List UInt8} (command : editLine 1 [] input = none) :
    Spells input [] [] .waiting
  /-- The command to leave. -/
  | left {input rest : List UInt8} (command : editLine 1 [] input = some ("6", rest)) :
    Spells input [] rest .left
  /-- A command that asks for nothing. -/
  | skipped {input rest unread : List UInt8} {name : String} {calls : List Operation}
    {ending : Ending} (command : editLine 1 [] input = some (name, rest)) (stays : name ≠ "6")
    (bare : lineLimit? name = none) (later : Spells rest calls unread ending) :
    Spells input calls unread ending
  /-- A command whose line is not complete. -/
  | unanswered {input rest : List UInt8} {name : String} {limit : Nat}
    (command : editLine 1 [] input = some (name, rest)) (asks : lineLimit? name = some limit)
    (line : editLine limit [] rest = none) :
    Spells input [] [] .waiting
  /-- A command with its line. -/
  | answered {input rest after unread : List UInt8} {name text : String} {limit : Nat}
    {calls : List Operation} {ending : Ending}
    (command : editLine 1 [] input = some (name, rest)) (asks : lineLimit? name = some limit)
    (line : editLine limit [] rest = some (text, after))
    (later : Spells after calls unread ending) :
    Spells input ((call? name text).toList ++ calls) unread ending

theorem length_lt_of_editLine {limit : Nat} {typed : List Char} {input rest : List UInt8}
    {text : String} (h : editLine limit typed input = some (text, rest)) :
    rest.length < input.length := by
  induction input generalizing typed with
  | nil => exact absurd h (by simp [editLine])
  | cons key keys ih =>
    unfold editLine at h
    rw [List.length_cons]
    split at h
    · obtain ⟨-, rfl⟩ := Prod.mk.inj (Option.some.inj h)
      omega
    · split at h
      · have hrest := ih h
        omega
      · split at h
        · split at h
          · obtain ⟨-, rfl⟩ := Prod.mk.inj (Option.some.inj h)
            omega
          · have hrest := ih h
            omega
        · have hrest := ih h
          omega

/-- Every input is a script. -/
theorem exists_spells (input : List UInt8) :
    ∃ calls unread ending, Spells input calls unread ending := by
  induction hlength : input.length using Nat.strongRecOn generalizing input with
  | _ length ih =>
    subst hlength
    cases hcommand : editLine 1 [] input with
    | none => exact ⟨_, _, _, .waiting hcommand⟩
    | some cut =>
      obtain ⟨name, rest⟩ := cut
      have hrest := length_lt_of_editLine hcommand
      cases hasks : lineLimit? name with
      | none =>
        by_cases hleave : name = "6"
        · subst hleave
          exact ⟨_, _, _, .left hcommand⟩
        · obtain ⟨calls, unread, ending, hlater⟩ := ih _ hrest rest rfl
          exact ⟨_, _, _, .skipped hcommand hleave hasks hlater⟩
      | some limit =>
        cases hline : editLine limit [] rest with
        | none => exact ⟨_, _, _, .unanswered hcommand hasks hline⟩
        | some cut =>
          obtain ⟨text, after⟩ := cut
          have hafter := length_lt_of_editLine hline
          obtain ⟨calls, unread, ending, hlater⟩ := ih _ (by omega) after rfl
          exact ⟨_, _, _, .answered hcommand hasks hline hlater⟩

/-! ## One line of a session -/

/-- Typed bytes as characters. -/
def typedChars (typed : List UInt8) : List Char := typed.map fun value => Char.ofNat value.toNat

/-- One key, for a script and for the editor. -/
theorem editLine_cons (limit : Nat) (typed : List UInt8) (key : UInt8) (rest : List UInt8) :
    editLine limit (typedChars typed) (key :: rest) =
      if (press limit typed key).isComplete then
        some (lineText (press limit typed key).text, rest)
      else editLine limit (typedChars (press limit typed key).text) rest := by
  have hdrop : (typedChars typed).dropLast = typedChars typed.dropLast := List.map_dropLast.symm
  have hpush : typedChars typed ++ [Char.ofNat key.toNat] = typedChars (typed ++ [key]) := by
    simp [typedChars]
  rw [editLine, hdrop, hpush]
  unfold press
  by_cases hreturn : key = carriageReturn
  · -- A carriage return completes the line.
    rw [if_pos hreturn, if_pos (by exact hreturn)]
    rfl
  · rw [if_neg hreturn, if_neg (by exact hreturn)]
    by_cases herase : key = backspace ∨ key = delete
    · -- An erasing key, which does nothing on an empty line.
      rw [if_pos herase, if_pos (by exact herase)]
      cases typed <;> rfl
    · rw [if_neg herase, if_neg (by exact herase)]
      by_cases hprintable : isPrintable key = true
      · -- A printable key, which may complete the line.
        have hrange : 0x20 ≤ key ∧ key ≤ 0x7E := by simpa [isPrintable] using hprintable
        rw [if_pos hprintable, if_pos hrange]
        simp only [decide_eq_true_eq, typedChars, List.length_map]
        rfl
      · -- Any other key is ignored.
        have hrange : ¬ (0x20 ≤ key ∧ key ≤ 0x7E) := by simpa [isPrintable] using hprintable
        rw [if_neg hprintable, if_neg hrange]
        rfl

variable (machine : Machine) (host : Host)

theorem send_eq_withConsole (bytes : List UInt8) :
    send machine bytes =
      machine.withConsole
        { machine.console with line := machine.console.line.sendAll bytes } := rfl

theorem send_send (first second : List UInt8) :
    send (send machine first) second = send machine (first ++ second) := by
  have houtput (output : Array UInt8) : output ++ first ++ second = output ++ (first ++ second) :=
    Array.ext' (by simp)
  simp only [send, Console.Line.sendAll, houtput]

/-- Requests go the same whatever was said before, and they say nothing. -/
theorem performAll_send {operations : List Operation}
    (h : ∀ operation ∈ operations, IsRequest operation) (bytes : List UInt8) :
    (send machine bytes).performAll host operations =
      (send (machine.performAll host operations).1 bytes,
        (machine.performAll host operations).2) := by
  have hsame : (machine.performAll host operations).1 =
      (machine.performAll host operations).1.withConsole machine.console :=
    congrArg Prod.fst (performAll_withConsole machine host h machine.console)
  have hconsole : (machine.performAll host operations).1.console = machine.console := by
    rw [hsame]
    rfl
  rw [send_eq_withConsole, performAll_withConsole machine host h, send_eq_withConsole, hconsole]

variable (before : List UInt8) (prompt : Prompt)

/-- A complete line takes a session to the next prompt, on a machine to which was done what the line
asks for. -/
theorem exists_complete_send (text : String) :
    ∃ said,
      (complete (send machine before) host prompt text).value =
        match next? prompt text with
        | some next =>
          .waiting
            ⟨send (machine.performAll host (request? (prompt, text)).toList).1 said,
              (machine.performAll host (request? (prompt, text)).toList).2, next, []⟩
        | none =>
          .left (send (machine.performAll host (request? (prompt, text)).toList).1 said)
            (machine.performAll host (request? (prompt, text)).toList).2 := by
  have hrequest : ∀ operation ∈ (request? (prompt, text)).toList, IsRequest operation :=
    fun operation hmem => isRequest_of_request? (Option.mem_toList.1 hmem)
  cases prompt with
  | command =>
    simp only [complete, Logged.value_pure, obey, next?, request?, Option.toList_none,
      Machine.performAll, ask, showMenu, say, send_send]
    rcases Choice.ofText text with next | _ | _ <;> exact ⟨_, rfl⟩
  | _ =>
    simp only [complete, Logged.value_bind, Logged.value_pure, value_act, next?, showMenu, say,
      performAll_send machine host hrequest, send_send]
    exact ⟨_, rfl⟩

/-- One line of a session: it goes on waiting with something typed, or it goes on behind the line
with the next prompt. -/
theorem exists_run_line (typed input : List UInt8) :
    ∃ said left,
      (Session.run ⟨send machine before, host, prompt, typed⟩ input).value =
        match editLine prompt.limit (typedChars typed) input with
        | none => (.waiting ⟨send machine said, host, prompt, left⟩, [])
        | some (text, rest) =>
          match next? prompt text with
          | some next =>
            (Session.run ⟨send (machine.performAll host (request? (prompt, text)).toList).1 said,
              (machine.performAll host (request? (prompt, text)).toList).2, next, []⟩ rest).value
          | none =>
            (.left (send (machine.performAll host (request? (prompt, text)).toList).1 said)
              (machine.performAll host (request? (prompt, text)).toList).2, rest) := by
  induction input generalizing before typed with
  | nil => exact ⟨before, typed, rfl⟩
  | cons key rest ih =>
    simp only [editLine_cons, Session.run, Session.feed, Logged.value_bind]
    rcases press prompt.limit typed key with ⟨text, echo, _ | _⟩
    · -- The line goes on, and only the echo was sent.
      obtain ⟨said, left, hrun⟩ := ih (before ++ echo) text
      refine ⟨said, left, ?_⟩
      simpa only [Logged.value_pure, send_send, Bool.false_eq_true, if_false] using hrun
    · -- The line is complete, and its answer is acted on.
      obtain ⟨said, hcomplete⟩ := exists_complete_send machine host
        (before ++ (echo ++ [carriageReturn, lineFeed])) prompt (lineText text)
      refine ⟨said, text, ?_⟩
      simp only [send_send, hcomplete, if_true]
      cases next? prompt (lineText text) <;> rfl

/-! ## Whole dialogs -/

theorem choice_of_bare {name : String} (hstays : name ≠ "6") (hbare : lineLimit? name = none) :
    Choice.ofText name = .again := by
  unfold Choice.ofText
  unfold lineLimit? at hbare
  split at hbare <;> simp_all

/-- A command that asks for nothing leads back to the menu. -/
theorem next?_of_bare {name : String} (hstays : name ≠ "6") (hbare : lineLimit? name = none) :
    next? .command name = some .command := by
  unfold next?
  rw [choice_of_bare hstays hbare]

/-- A command that asks for a line leads to a prompt for it, and the answer to that is the call. -/
theorem exists_prompt_of_asks {name : String} {limit : Nat} (hasks : lineLimit? name = some limit) :
    ∃ prompt, next? .command name = some prompt ∧ prompt.limit = limit ∧
      ∀ text, next? prompt text = some .command ∧ request? (prompt, text) = call? name text := by
  unfold lineLimit? at hasks
  split at hasks
  · obtain rfl := Option.some.inj hasks
    refine ⟨.panelValue, rfl, rfl, fun text => ⟨rfl, ?_⟩⟩
    simp only [request?, call?]
    cases Numeral.byte? text <;> rfl
  · exact ⟨.programName, rfl, Option.some.inj hasks, fun text => ⟨rfl, rfl⟩⟩
  · exact ⟨.diskName .first, rfl, Option.some.inj hasks, fun text => ⟨rfl, rfl⟩⟩
  · exact ⟨.diskName .second, rfl, Option.some.inj hasks, fun text => ⟨rfl, rfl⟩⟩
  · exact ⟨.address, rfl, Option.some.inj hasks, fun text => ⟨rfl, rfl⟩⟩
  · exact absurd hasks (by simp)

/-- How a session that got as far has ended. -/
def Progress.ending : Progress → Ending
  | .waiting _ => .waiting
  | .left _ _ => .left

/-- A session at the menu, when the input has a whole command. -/
theorem exists_run_command {name : String} {input rest : List UInt8}
    (hcut : editLine 1 [] input = some (name, rest)) :
    ∃ said,
      (Session.run ⟨send machine before, host, .command, []⟩ input).value =
        match next? .command name with
        | some next => (Session.run ⟨send machine said, host, next, []⟩ rest).value
        | none => (.left (send machine said) host, rest) := by
  obtain ⟨said, left, hrun⟩ := exists_run_line machine host before .command [] input
  have hline : editLine Prompt.command.limit (typedChars []) input = some (name, rest) := hcut
  rw [hline] at hrun
  exact ⟨said, hrun⟩

/-- A session at the menu does what the script spells out, and says something. -/
theorem exists_run_of_spells {input unread : List UInt8} {calls : List Operation} {ending : Ending}
    (h : Spells input calls unread ending) :
    ∃ said progress,
      (Session.run ⟨send machine before, host, .command, []⟩ input).value = (progress, unread) ∧
        progress.ending = ending ∧
        progress.machine = send (machine.performAll host calls).1 said ∧
        progress.host = (machine.performAll host calls).2 := by
  induction h generalizing machine host before with
  | @waiting input command =>
    -- The input ends in the command.
    obtain ⟨said, left, hrun⟩ := exists_run_line machine host before .command [] input
    have hnone : editLine Prompt.command.limit (typedChars []) input = none := command
    rw [hrun, hnone]
    exact ⟨said, _, rfl, rfl, rfl, rfl⟩
  | left command =>
    -- The command leaves the dialog.
    obtain ⟨said, hrun⟩ := exists_run_command machine host before command
    exact ⟨said, _, hrun, rfl, rfl, rfl⟩
  | skipped command stays bare later ih =>
    -- The command asks for nothing, and the menu is shown again.
    obtain ⟨said, hrun⟩ := exists_run_command machine host before command
    rw [hrun, next?_of_bare stays bare]
    exact ih machine host said
  | @unanswered input rest name limit command asks line =>
    -- The input ends in the answer to a question.
    obtain ⟨said, hrun⟩ := exists_run_command machine host before command
    obtain ⟨prompt, hprompt, rfl, -⟩ := exists_prompt_of_asks asks
    obtain ⟨said', left, hrun'⟩ := exists_run_line machine host said prompt [] rest
    have hnone : editLine prompt.limit (typedChars []) rest = none := line
    rw [hrun, hprompt]
    rw [hnone] at hrun'
    exact ⟨said', _, hrun', rfl, rfl, rfl⟩
  | @answered input rest after unread name text limit calls ending command asks line later ih =>
    -- The question is answered, its call is carried out, and the menu is shown again.
    obtain ⟨said, hrun⟩ := exists_run_command machine host before command
    obtain ⟨prompt, hprompt, rfl, hcall⟩ := exists_prompt_of_asks asks
    obtain ⟨said', left, hrun'⟩ := exists_run_line machine host said prompt [] rest
    have hline : editLine prompt.limit (typedChars []) rest = some (text, after) := line
    rw [hrun, hprompt]
    simp only [hline, (hcall text).1, (hcall text).2] at hrun'
    simp only [hrun', Machine.performAll_append]
    exact ih _ _ said'

/-- What requests leave as it was. -/
structure LeavesAlone (before after : Machine) : Prop where
  config : after.config = before.config
  working : after.memory.working = before.memory.working
  reservedPage : after.memory.reservedPage = before.memory.reservedPage
  ports : after.ports = before.ports
  led : after.led = before.led
  volumes : after.controller.volumesDirectory = before.controller.volumesDirectory
  latch : after.controller.latch = before.controller.latch
  status : after.controller.status = before.controller.status

theorem LeavesAlone.trans {first second third : Machine} (h : LeavesAlone first second)
    (h' : LeavesAlone second third) : LeavesAlone first third :=
  ⟨h'.config.trans h.config, h'.working.trans h.working, h'.reservedPage.trans h.reservedPage,
    h'.ports.trans h.ports, h'.led.trans h.led, h'.volumes.trans h.volumes,
    h'.latch.trans h.latch, h'.status.trans h.status⟩

/-- A request leaves all that alone, and all files, when program storage is in none of them. -/
theorem leavesAlone_of_isRequest {operation : Operation} (h : IsRequest operation)
    {data : Content} (hprogram : machine.memory.program = .array data) :
    LeavesAlone machine (machine.perform host operation).value.2.1 ∧
      (machine.perform host operation).value.2.2 = host ∧
      ∃ filled, (machine.perform host operation).value.2.1.memory.program = .array filled := by
  cases h with
  | setFrontPanel value => exact ⟨by constructor <;> rfl, rfl, data, hprogram⟩
  | mount number name =>
    obtain ⟨drives, hcontroller⟩ := Machine.exists_drives_mount host machine.controller number name
    simp only [Machine.perform, Machine.mount, Logged.value_bind, Logged.value_pure, hcontroller]
    exact ⟨by constructor <;> rfl, trivial, data, hprogram⟩
  | loadProgram name =>
    simp only [Machine.perform, Logged.value_bind, Logged.value_pure]
    rcases Machine.loadProgram_cases hprogram host name with
      ⟨refusal, hload⟩ | ⟨image, filled, hsize, -, hload, -⟩
    · rw [hload]
      exact ⟨by constructor <;> rfl, rfl, data, hprogram⟩
    · rw [hload]
      exact ⟨by constructor <;> rfl, rfl, filled, rfl⟩

theorem leavesAlone_performAll {operations : List Operation}
    (h : ∀ operation ∈ operations, IsRequest operation) {data : Content}
    (hprogram : machine.memory.program = .array data) :
    LeavesAlone machine (machine.performAll host operations).1 ∧
      (machine.performAll host operations).2 = host := by
  induction operations generalizing machine data with
  | nil => exact ⟨by constructor <;> rfl, rfl⟩
  | cons operation rest ih =>
    obtain ⟨hfirst, hhost, filled, hfilled⟩ :=
      leavesAlone_of_isRequest machine host (h operation List.mem_cons_self) hprogram
    rw [Machine.performAll, hhost]
    obtain ⟨hrest, hsame⟩ := ih _ (fun later hmem => h later (List.mem_cons_of_mem _ hmem)) hfilled
    exact ⟨hfirst.trans hrest, hsame⟩

/-! ## One reading of the input -/

omit machine host before in
/-- The answers that an input gives, line by line. -/
theorem answers_eq (prompt : Prompt) (typed input : List UInt8) :
    answers prompt typed input =
      match editLine prompt.limit (typedChars typed) input with
      | none => []
      | some (text, rest) =>
        (prompt, text) ::
          match next? prompt text with
          | some next => answers next [] rest
          | none => [] := by
  induction input generalizing typed with
  | nil => rfl
  | cons key rest ih =>
    simp only [editLine_cons, answers]
    rcases press prompt.limit typed key with ⟨text, echo, _ | _⟩
    · exact ih text
    · rfl

/-- The calls of a script are the requests of a dialog on the same input, so no other script spells
out the same input. -/
theorem requests_of_spells {input unread : List UInt8} {calls : List Operation} {ending : Ending}
    (h : Spells input calls unread ending) : requests input = calls := by
  -- The first answer of an input with a command in front is the command.
  have hcommand {input rest : List UInt8} {name : String}
      (hcut : editLine 1 [] input = some (name, rest)) :
      answers .command [] input =
        (.command, name) ::
          match next? .command name with
          | some next => answers next [] rest
          | none => [] := by
    have hline : editLine Prompt.command.limit (typedChars []) input = some (name, rest) := hcut
    rw [answers_eq, hline]
  have hskip (name : String) (rest : List (Prompt × String)) :
      ((Prompt.command, name) :: rest).filterMap request? = rest.filterMap request? := rfl
  induction h with
  | @waiting input command =>
    have hnone : editLine Prompt.command.limit (typedChars []) input = none := command
    rw [requests, answers_eq, hnone]
    rfl
  | left command =>
    rw [requests, hcommand command]
    rfl
  | skipped command stays bare later ih =>
    rw [requests, hcommand command, hskip, next?_of_bare stays bare]
    exact ih
  | @unanswered input rest name limit command asks line =>
    obtain ⟨prompt, hprompt, rfl, -⟩ := exists_prompt_of_asks asks
    have hnone : editLine prompt.limit (typedChars []) rest = none := line
    have hanswers := answers_eq prompt [] rest
    rw [hnone] at hanswers
    rw [requests, hcommand command, hskip, hprompt]
    simp only [hanswers, List.filterMap_nil]
  | @answered input rest after unread name text limit calls ending command asks line later ih =>
    -- A command makes no request by itself, and its answer makes the one of the call.
    obtain ⟨prompt, hprompt, rfl, hcall⟩ := exists_prompt_of_asks asks
    have hline : editLine prompt.limit (typedChars []) rest = some (text, after) := line
    have hanswers := answers_eq prompt [] rest
    simp only [hline, (hcall text).1] at hanswers
    rw [requests, hcommand command, hskip, hprompt]
    simp only [hanswers]
    rw [List.filterMap_cons, (hcall text).2, ← ih, requests]
    cases call? name text <;> rfl

/-! ## What a dialog does not look at -/

/-- Parts of a machine that the dialog has no use for. -/
structure Hidden where
  ports : PortTable
  led : Led
  latch : Disk.Latch
  status : Disk.Status
  ready? : Option Bool

/-- The same machine with other such parts. -/
def withHidden (machine : Machine) (hidden : Hidden) : Machine :=
  { machine with
    ports := hidden.ports
    led := hidden.led
    controller := { machine.controller with latch := hidden.latch, status := hidden.status }
    console :=
      { machine.console with line := { machine.console.line with ready? := hidden.ready? } } }

/-- The same point of a dialog on such a machine. -/
def Progress.withHidden (hidden : Hidden) : Progress → Progress
  | .waiting ⟨machine, host, prompt, text⟩ =>
    .waiting ⟨Dialog.withHidden machine hidden, host, prompt, text⟩
  | .left machine host => .left (Dialog.withHidden machine hidden) host

variable (hidden : Hidden)

theorem say_withHidden (text : String) :
    say (withHidden machine hidden) text = withHidden (say machine text) hidden := rfl

theorem showMenu_withHidden :
    .waiting (showMenu (withHidden machine hidden) host) =
      (Progress.waiting (showMenu machine host)).withHidden hidden := by
  have hmenu : menu (withHidden machine hidden).frontPanel.value
      (withHidden machine hidden).controller.drives =
        menu machine.frontPanel.value machine.controller.drives := rfl
  unfold showMenu
  rw [hmenu, say_withHidden]
  rfl

theorem value_loadProgram_withHidden (name : String) :
    ((withHidden machine hidden).loadProgram host name).value =
      ((machine.loadProgram host name).value.1,
        withHidden (machine.loadProgram host name).value.2.1 hidden,
        (machine.loadProgram host name).value.2.2) := by
  have hfind : (withHidden machine hidden).findProgram host name = machine.findProgram host name :=
    rfl
  rw [Machine.value_loadProgram, Machine.value_loadProgram, hfind]
  rcases machine.findProgram host name with refusal | ⟨path, image⟩ <;> rfl

theorem value_mount_withHidden (number : Nat) (name : String) :
    ((withHidden machine hidden).mount host number name).value =
      ((machine.mount host number name).value.1,
        withHidden (machine.mount host number name).value.2 hidden) := by
  have hvolumes : (withHidden machine hidden).controller.volumesDirectory =
      machine.controller.volumesDirectory := rfl
  rw [Machine.value_mount, Machine.value_mount, hvolumes]
  cases Disk.Drive.ofNumber? number with
  | none => rfl
  | some drive =>
    dsimp only
    split
    · rfl
    · split
      · rfl
      · split <;> rfl

/-- An answer is acted on alike, and the same is said about it. -/
theorem value_act_withHidden (prompt : Prompt) (text : String) :
    (act (withHidden machine hidden) host prompt text).value =
      ((act machine host prompt text).value.1,
        withHidden (act machine host prompt text).value.2.1 hidden,
        (act machine host prompt text).value.2.2) := by
  cases prompt with
  | command => rfl
  | panelValue =>
    simp only [act]
    cases Numeral.byte? text <;> rfl
  | programName =>
    simp only [act, Logged.value_bind, value_loadProgram_withHidden]
    rcases (machine.loadProgram host text).value with ⟨_ | _, _, _⟩ <;> rfl
  | diskName drive =>
    simp only [act, Logged.value_bind, Logged.value_pure, value_mount_withHidden]
  | address =>
    simp only [act]
    cases Numeral.word? text <;> rfl

theorem value_complete_withHidden (prompt : Prompt) (text : String) :
    (complete (withHidden machine hidden) host prompt text).value =
      (complete machine host prompt text).value.withHidden hidden := by
  cases prompt with
  | command =>
    simp only [complete, Logged.value_pure, obey, say_withHidden]
    cases Choice.ofText text with
    | again => exact showMenu_withHidden _ _ _
    | _ => rfl
  | _ =>
    simp only [complete, Logged.value_bind, Logged.value_pure, value_act_withHidden,
      say_withHidden, showMenu_withHidden]

theorem value_session_withHidden (prompt : Prompt) (text input : List UInt8) :
    (Session.run ⟨withHidden machine hidden, host, prompt, text⟩ input).value =
      ((Session.run ⟨machine, host, prompt, text⟩ input).value.1.withHidden hidden,
        (Session.run ⟨machine, host, prompt, text⟩ input).value.2) := by
  induction input generalizing machine host prompt text with
  | nil => rfl
  | cons key rest ih =>
    simp only [Session.run, Session.feed, Logged.value_bind]
    rcases press prompt.limit text key with ⟨typed, echo, _ | _⟩
    · exact ih (send machine echo) host prompt typed
    · have hcomplete := value_complete_withHidden
        (send machine (echo ++ [carriageReturn, lineFeed])) host hidden prompt (lineText typed)
      have hsend : send (withHidden machine hidden) (echo ++ [carriageReturn, lineFeed]) =
          withHidden (send machine (echo ++ [carriageReturn, lineFeed])) hidden := rfl
      dsimp only
      rw [hsend, hcomplete]
      cases (complete (send machine (echo ++ [carriageReturn, lineFeed])) host prompt
        (lineText typed)).value with
      | waiting next => exact ih next.machine next.host next.prompt next.text
      | left machine host => rfl

/-- A dialog goes the same with any other parts that it does not look at. -/
theorem value_run_withHidden :
    (run (withHidden machine hidden) host).value =
      ((run machine host).value.1, withHidden (run machine host).value.2.1 hidden,
        (run machine host).value.2.2) := by
  have hinput : (withHidden machine hidden).console.line.input = machine.console.line.input := rfl
  have hempty : withInput (withHidden machine hidden) [] =
      withHidden (withInput machine []) hidden := rfl
  have hmenu : showMenu (withHidden (withInput machine []) hidden) host =
      ⟨withHidden (showMenu (withInput machine []) host).machine hidden, host, .command, []⟩ :=
    Progress.waiting.inj (showMenu_withHidden (withInput machine []) host hidden)
  have hsession := value_session_withHidden (showMenu (withInput machine []) host).machine host
    hidden .command [] machine.console.line.input
  simp only [run, Logged.value_bind, hinput, hempty, hmenu, hsession]
  have hsame : showMenu (withInput machine []) host =
      ⟨(showMenu (withInput machine []) host).machine, host, .command, []⟩ := rfl
  rw [← hsame]
  generalize ((showMenu (withInput machine []) host).run machine.console.line.input).value = ended
  rcases ended with ⟨⟨_, _, _, _⟩ | ⟨_, _⟩, unread⟩ <;> rfl

/-! ## What a dialog does -/

theorem isRequest_of_spells {input unread : List UInt8} {calls : List Operation} {ending : Ending}
    (h : Spells input calls unread ending) : ∀ call ∈ calls, IsRequest call := by
  rw [← requests_of_spells h]
  exact fun call => isRequest_of_mem

/-- A dialog carries out the calls of its script, takes the script out of the queue, and sends
bytes. -/
theorem exists_dialog_of_spells {unread : List UInt8} {calls : List Operation} {ending : Ending}
    (h : Spells machine.console.line.input calls unread ending) :
    ∃ said : List UInt8,
      (run machine host).value =
        (ending,
          (machine.performAll host calls).1.withConsole
            { machine.console with
              line :=
                { machine.console.line with
                  input := unread, output := machine.console.line.output ++ said } },
          (machine.performAll host calls).2) := by
  obtain ⟨said, progress, hrun, hending, hmachine, hhost⟩ :=
    exists_run_of_spells (withInput machine []) host
      (menu machine.frontPanel.value machine.controller.drives).toUTF8.data.toList h
  have hmenu : showMenu (withInput machine []) host =
      ⟨send (withInput machine [])
        (menu machine.frontPanel.value machine.controller.drives).toUTF8.data.toList, host,
        .command, []⟩ := rfl
  have hempty : withInput machine [] =
      machine.withConsole
        { machine.console with line := { machine.console.line with input := [] } } := rfl
  -- The calls do not depend on the queue, so they can be carried out with the whole queue.
  rw [hempty, performAll_withConsole machine host (isRequest_of_spells h)] at hmachine hhost
  refine ⟨said, ?_⟩
  simp only [run, Logged.value_bind, hmenu, hrun]
  cases progress with
  | waiting session =>
    have hsession : session.machine = _ := hmachine
    have hsessionHost : session.host = _ := hhost
    simp only [Logged.value_pure, hsession, hsessionHost, ← hending]
    rfl
  | left last lastHost =>
    have hlast : last = _ := hmachine
    have hlastHost : lastHost = _ := hhost
    simp only [Logged.value_bind, Logged.value_pure, hlast, hlastHost, ← hending]
    rfl

/-- Whatever was done to a machine since it was built, a dialog on it carries out the calls that
its input spells out, in one way only, and nothing else: the front panel, program storage and the
drives are those that the calls leave, the line has lost what was read and has more to send, and
all other parts and all files are what they were.  It would have gone the same with any other port
table, lamp, latch, status and ready signal. -/
theorem exists_spells_dialog {config : Config} {line : Console.Line} {host start : Host}
    {machine : Machine} (hbuild : (Machine.build config line host).value = (.ok machine, start))
    {steps : List Step} {reached : Machine} {now : Host}
    (hrun : machine.after start steps = (reached, now)) :
    ∃ calls unread ending final, ∃ said : List UInt8,
      Spells reached.console.line.input calls unread ending ∧
      (∀ calls' unread' ending', Spells reached.console.line.input calls' unread' ending' →
        calls' = calls ∧ unread' = unread ∧ ending' = ending) ∧
      (run reached now).value = (ending, final, now) ∧
      final =
        (reached.performAll now calls).1.withConsole
          { reached.console with
            line :=
              { reached.console.line with
                input := unread, output := reached.console.line.output ++ said } } ∧
      LeavesAlone reached final ∧
      ∀ hidden, (run (withHidden reached hidden) now).value =
        (ending, withHidden final hidden, now) := by
  obtain ⟨calls, unread, ending, hscript⟩ := exists_spells reached.console.line.input
  obtain ⟨said, hdialog⟩ := exists_dialog_of_spells reached now hscript
  have hshows := (Machine.shows_of_build hbuild).after start steps
  rw [hrun] at hshows
  obtain ⟨data, hprogram, -⟩ := hshows
  obtain ⟨halone, hhost⟩ :=
    leavesAlone_performAll reached now (isRequest_of_spells hscript) hprogram
  rw [hhost] at hdialog
  refine ⟨calls, unread, ending, _, said, hscript, ?_, hdialog, rfl, ?_, ?_⟩
  · -- There is no other script: its calls are the requests of the same dialog, and a session has
    -- one end.
    intro calls' unread' ending' hother
    have hcalls : calls' = calls :=
      (requests_of_spells hother).symm.trans (requests_of_spells hscript)
    obtain ⟨_, progress, hfirst, rfl, -⟩ := exists_run_of_spells reached now [] hscript
    obtain ⟨_, progress', hsecond, rfl, -⟩ := exists_run_of_spells reached now [] hother
    obtain ⟨rfl, rfl⟩ := Prod.mk.inj (hfirst.symm.trans hsecond)
    exact ⟨hcalls, rfl, rfl⟩
  · -- What the calls leave alone.
    exact ⟨halone.config, halone.working, halone.reservedPage, halone.ports, halone.led,
      halone.volumes, halone.latch, halone.status⟩
  · -- A dialog does not see what is hidden from it.
    intro hidden
    rw [value_run_withHidden, hdialog]

/-- The keys of a script: a value is set, a disk is asked for under a name that fills its line, and
the machine is left with one key unread.  The name's return was taken for an empty command. -/
def scriptKeys : List UInt8 :=
  [0x31, 0x34, 0x08, 0x41, 0x0D, 0x34, 0x41, 0x42, 0x43, 0x44, 0x45, 0x46, 0x47, 0x48, 0x0D, 0x36,
    0x78]

/-- A machine on whose line the keys wait. -/
def scriptMachine : Machine :=
  (Disk.diskMachine.after {} [.operation (.receive scriptKeys)]).1

theorem exists_spells_dialog_script :
    (Machine.build Disk.diskConfig {} {}).value = (.ok Disk.diskMachine, {}) ∧
      Disk.diskMachine.after {} [.operation (.receive scriptKeys)] = (scriptMachine, {}) ∧
      Spells scriptKeys [.setFrontPanel 0x0A, .mount 1 "ABCDEFGH"] [0x78] .left ∧
      ∃ final, (run scriptMachine {}).value = (.left, final, {}) ∧
        final.frontPanel.value = 0x0A ∧ final.console.line.input = [0x78] := by
  have hbuild : (Machine.build Disk.diskConfig {} {}).value = (.ok Disk.diskMachine, {}) := rfl
  have hreceive : Disk.diskMachine.after {} [.operation (.receive scriptKeys)] =
      (scriptMachine, {}) := rfl
  have hscript : Spells scriptKeys [.setFrontPanel 0x0A, .mount 1 "ABCDEFGH"] [0x78] .left := by
    have hleft : Spells [0x36, 0x78] [] [0x78] .left := .left rfl
    have hempty : Spells [0x0D, 0x36, 0x78] [] [0x78] .left := .skipped rfl (by decide) rfl hleft
    have hmount : Spells (scriptKeys.drop 5) [.mount 1 "ABCDEFGH"] [0x78] .left :=
      @Spells.answered _ (scriptKeys.drop 6) _ _ "4" "ABCDEFGH" 8 _ _ rfl rfl rfl hempty
    exact @Spells.answered _ (scriptKeys.drop 1) _ _ "1" "A" 2 _ _ rfl rfl rfl hmount
  obtain ⟨calls, unread, ending, final, said, -, hunique, hrun, hfinal, -⟩ :=
    exists_spells_dialog hbuild hreceive
  obtain ⟨rfl, rfl, rfl⟩ := hunique _ _ _ hscript
  exact ⟨hbuild, hreceive, hscript, final, hrun, by rw [hfinal]; rfl, by rw [hfinal]; rfl⟩

end Dialog

end Backplane
