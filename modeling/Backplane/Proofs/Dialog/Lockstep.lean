import Backplane.Proofs.Dialog.Requests

/-!
# Dialogs in lockstep

Two machines, each on a host of its own, can differ in ways that no dialog shows.  `Lockstep` says
what that takes of a relation between them.  Related machines have the same face (`SameFace`): the
console, the front panel, the drives and what the bus reads.  And the requests that a dialog can
make are answered alike by related machines and leave them related.  Then whole dialogs on the same
input go alike (`Lockstep.run`): they say the same, end the same way and leave related machines.

Some relations are kept by some requests only, those that are `allowed`, and then the input must
not ask for others.
-/

namespace Backplane

namespace Dialog

/-- What a dialog can show of a machine, it shows of the other. -/
structure SameFace (machine : Machine) (host : Host) (other : Machine) (otherHost : Host) :
    Prop where
  console : other.console = machine.console
  frontPanel : other.frontPanel = machine.frontPanel
  drives : other.controller.drives = machine.controller.drives
  read : ∀ address,
    (other.memory.read otherHost address).value = (machine.memory.read host address).value

/-- A relation between machines, each on a host of its own, that no dialog can look behind. -/
structure Lockstep (allowed : Operation → Prop)
    (related : Machine → Host → Machine → Host → Prop) : Prop where
  face : ∀ {machine host other otherHost}, related machine host other otherHost →
    SameFace machine host other otherHost
  withConsole : ∀ {machine host other otherHost}, related machine host other otherHost →
    ∀ console, related (machine.withConsole console) host (other.withConsole console) otherHost
  request : ∀ {machine host other otherHost}, related machine host other otherHost →
    ∀ {operation}, IsRequest operation → allowed operation →
    (other.perform otherHost operation).value.1 = (machine.perform host operation).value.1 ∧
      related (machine.perform host operation).value.2.1
        (machine.perform host operation).value.2.2
        (other.perform otherHost operation).value.2.1
        (other.perform otherHost operation).value.2.2

/-- Two sessions that wait at the same point, or two dialogs that are both over. -/
inductive Abreast (related : Machine → Host → Machine → Host → Prop) :
    Progress → Progress → Prop
  | waiting {machine host other otherHost} (prompt : Prompt) (text : List UInt8)
    (machines : related machine host other otherHost) :
    Abreast related (.waiting ⟨machine, host, prompt, text⟩)
      (.waiting ⟨other, otherHost, prompt, text⟩)
  | left {machine host other otherHost} (machines : related machine host other otherHost) :
    Abreast related (.left machine host) (.left other otherHost)

/-- After a complete line a session waits at the prompt that the line leads to. -/
theorem next?_of_complete {machine : Machine} {host : Host} {prompt : Prompt} {text : String}
    {session : Session} (h : (complete machine host prompt text).value = .waiting session) :
    next? prompt text = some session.prompt ∧ session.text = [] := by
  obtain ⟨said, hcomplete⟩ := exists_complete_eq machine host machine.console prompt text
  have hsame : (complete (machine.withConsole machine.console) host prompt text).value =
      .waiting session := h
  rw [hcomplete] at hsame
  cases hnext : next? prompt text with
  | none => simp [hnext] at hsame
  | some next =>
    rw [hnext] at hsame
    obtain rfl := Progress.waiting.inj hsame
    exact ⟨rfl, rfl⟩

namespace Lockstep

variable {allowed : Operation → Prop} {related : Machine → Host → Machine → Host → Prop}
  {machine other : Machine} {host otherHost : Host} {prompt : Prompt} {text : String}

/-! ## What is said -/

/-- The consoles of related machines may change alike. -/
theorem changeConsole (h : Lockstep allowed related)
    (hrelated : related machine host other otherHost)
    (change : Console → Console) :
    related (machine.withConsole (change machine.console)) host
      (other.withConsole (change other.console)) otherHost := by
  rw [(h.face hrelated).console]
  exact h.withConsole hrelated _

theorem send (h : Lockstep allowed related) (hrelated : related machine host other otherHost)
    (bytes : List UInt8) :
    related (send machine bytes) host (Dialog.send other bytes) otherHost :=
  h.changeConsole hrelated fun console =>
    { console with line := console.line.sendAll bytes }

theorem say (h : Lockstep allowed related) (hrelated : related machine host other otherHost)
    (text : String) : related (say machine text) host (Dialog.say other text) otherHost :=
  h.send hrelated _

theorem withInput (h : Lockstep allowed related)
    (hrelated : related machine host other otherHost) (input : List UInt8) :
    related (withInput machine input) host (Dialog.withInput other input) otherHost :=
  h.changeConsole hrelated fun console =>
    { console with line := { console.line with input } }

theorem readBlock (h : Lockstep allowed related) (hrelated : related machine host other otherHost)
    (address : UInt16) (count : Nat) :
    (readBlock other.memory otherHost address count).value =
      (Dialog.readBlock machine.memory host address count).value := by
  induction count generalizing address with
  | zero => rfl
  | succ count ih =>
    simp only [Dialog.readBlock, Logged.value_bind, Logged.value_pure, ih,
      (h.face hrelated).read]

theorem dump (h : Lockstep allowed related) (hrelated : related machine host other otherHost)
    (start : UInt16) :
    (dump other.memory otherHost start).value =
      (Dialog.dump machine.memory host start).value := by
  have hrows (address : UInt16) (rows : Nat) :
      (dumpRows other.memory otherHost address rows).value =
        (dumpRows machine.memory host address rows).value := by
    induction rows generalizing address with
    | zero => rfl
    | succ rows ih =>
      simp only [dumpRows, Logged.value_bind, Logged.value_pure, h.readBlock hrelated, ih]
  simp only [Dialog.dump, Logged.value_bind, Logged.value_pure, hrows]

/-! ## Answers -/

theorem performAll (h : Lockstep allowed related)
    (hrelated : related machine host other otherHost) {operations : List Operation}
    (hrequests : ∀ operation ∈ operations, IsRequest operation)
    (hallowed : ∀ operation ∈ operations, allowed operation) :
    related (machine.performAll host operations).1 (machine.performAll host operations).2
      (other.performAll otherHost operations).1 (other.performAll otherHost operations).2 := by
  induction operations generalizing machine host other otherHost with
  | nil => exact hrelated
  | cons operation rest ih =>
    have hfirst := h.request hrelated (hrequests operation List.mem_cons_self)
      (hallowed operation List.mem_cons_self)
    exact ih hfirst.2 (fun later hmem => hrequests later (List.mem_cons_of_mem _ hmem))
      (fun later hmem => hallowed later (List.mem_cons_of_mem _ hmem))

theorem value_act_programName (machine : Machine) (host : Host) (text : String) :
    (Dialog.act machine host .programName text).value.1 =
      match (machine.loadProgram host text).value.1 with
      | .ok size => s!"Loaded {size} bytes.\r\n"
      | .error refusal => refusal.message ++ "\r\n" := by
  simp only [Dialog.act, Logged.value_bind]
  rcases (machine.loadProgram host text).value with ⟨_ | _, _, _⟩ <;> rfl

/-- Related machines act alike on an answer, and the same is said about it. -/
theorem act (h : Lockstep allowed related) (hrelated : related machine host other otherHost)
    (hallowed : ∀ operation ∈ (request? (prompt, text)).toList, allowed operation) :
    (act other otherHost prompt text).value.1 = (Dialog.act machine host prompt text).value.1 ∧
      related (Dialog.act machine host prompt text).value.2.1
        (Dialog.act machine host prompt text).value.2.2
        (Dialog.act other otherHost prompt text).value.2.1
        (Dialog.act other otherHost prompt text).value.2.2 := by
  refine ⟨?_, ?_⟩
  · -- What is said depends on what the request answers, and the answers are the same.
    cases prompt with
    | command => rfl
    | panelValue =>
      simp only [Dialog.act]
      cases Numeral.byte? text <;> rfl
    | programName =>
      have hanswer := h.request hrelated (.loadProgram text) (hallowed _ (by simp [request?]))
      have hresult : (other.loadProgram otherHost text).value.1 =
          (machine.loadProgram host text).value.1 := Answer.loaded.inj hanswer.1
      rw [value_act_programName, value_act_programName, hresult]
    | diskName drive =>
      have hanswer := h.request hrelated (.mount drive.number text)
        (hallowed _ (by simp [request?]))
      have hresult : (other.mount otherHost drive.number text).value.1 =
          (machine.mount host drive.number text).value.1 := Answer.mounted.inj hanswer.1
      simp only [Dialog.act, Logged.value_bind, Logged.value_pure, hresult]
    | address =>
      simp only [Dialog.act]
      cases Numeral.word? text with
      | error fault => rfl
      | ok start => exact h.dump hrelated start
  · -- What is done is the request alone.
    have hrequests : ∀ operation ∈ (request? (prompt, text)).toList, IsRequest operation :=
      fun operation hmem => isRequest_of_request? (Option.mem_toList.1 hmem)
    rw [value_act, value_act]
    exact h.performAll hrelated hrequests hallowed

/-! ## Sessions -/

theorem showMenu (h : Lockstep allowed related)
    (hrelated : related machine host other otherHost) :
    Abreast related (.waiting (showMenu machine host))
      (.waiting (Dialog.showMenu other otherHost)) := by
  have hmenu : menu other.frontPanel.value other.controller.drives =
      menu machine.frontPanel.value machine.controller.drives := by
    rw [(h.face hrelated).frontPanel, (h.face hrelated).drives]
  unfold Dialog.showMenu
  rw [hmenu]
  exact .waiting .command [] (h.say hrelated _)

/-- A complete line takes related machines to the same point of the dialog. -/
theorem complete (h : Lockstep allowed related) (hrelated : related machine host other otherHost)
    (hallowed : ∀ operation ∈ (request? (prompt, text)).toList, allowed operation) :
    Abreast related (complete machine host prompt text).value
      (Dialog.complete other otherHost prompt text).value := by
  have hanswer := h.act hrelated hallowed
  cases prompt with
  | command =>
    have hsaid := h.say hrelated "\r\n"
    simp only [Dialog.complete, Logged.value_pure, obey]
    cases Choice.ofText text with
    | prompt next => exact .waiting next [] (h.say hsaid next.question)
    | leave => exact .left hsaid
    | again => exact h.showMenu (h.say hsaid "\r\n")
  | _ =>
    simp only [Dialog.complete, Logged.value_bind, Logged.value_pure, hanswer.1]
    exact h.showMenu (h.say (h.say hanswer.2 _) "\r\n")

/-- Sessions that wait at the same point stay abreast on the same input, as long as it asks for
allowed requests only. -/
theorem session (h : Lockstep allowed related) (input : List UInt8) (prompt : Prompt)
    (text : List UInt8) (hrelated : related machine host other otherHost)
    (hallowed : ∀ operation ∈ (answers prompt text input).filterMap request?, allowed operation) :
    Abreast related
        ((⟨machine, host, prompt, text⟩ : Session).run input).value.1
        ((⟨other, otherHost, prompt, text⟩ : Session).run input).value.1 ∧
      ((⟨other, otherHost, prompt, text⟩ : Session).run input).value.2 =
        ((⟨machine, host, prompt, text⟩ : Session).run input).value.2 := by
  induction input generalizing machine host other otherHost prompt text with
  | nil => exact ⟨.waiting prompt text hrelated, rfl⟩
  | cons value rest ih =>
    simp only [Session.run, Session.feed, Logged.value_bind]
    rcases hpress : press prompt.limit text value with ⟨typed, echo, _ | _⟩
    all_goals
      rw [answers, hpress] at hallowed
      dsimp only at hallowed
    · -- The line goes on with the same text.
      exact ih prompt typed (h.send hrelated echo) hallowed
    · -- The line is complete, and both act on it.
      have hline : ∀ operation ∈ (request? (prompt, lineText typed)).toList,
          allowed operation := by
        intro operation hmem
        apply hallowed operation
        rw [List.mem_filterMap]
        exact ⟨_, List.mem_cons_self, Option.mem_toList.1 hmem⟩
      have habreast := h.complete (h.send hrelated (echo ++ [carriageReturn, lineFeed])) hline
      have hnext := @next?_of_complete
        (Dialog.send machine (echo ++ [carriageReturn, lineFeed])) host prompt (lineText typed)
      dsimp only
      generalize (Dialog.complete (Dialog.send machine (echo ++ [carriageReturn, lineFeed])) host
        prompt (lineText typed)).value = progress at habreast hnext
      generalize (Dialog.complete (Dialog.send other (echo ++ [carriageReturn, lineFeed]))
        otherHost prompt (lineText typed)).value = otherProgress at habreast
      cases habreast with
      | left machines => exact ⟨.left machines, rfl⟩
      | waiting prompt' text' machines =>
        obtain ⟨hprompt, htext⟩ := hnext rfl
        obtain rfl : text' = [] := htext
        -- The rest of the input asks for no more than the whole did.
        refine ih prompt' [] machines ?_
        intro operation hmem
        obtain ⟨answer, hanswer, hrequest⟩ := List.mem_filterMap.1 hmem
        apply hallowed operation
        rw [hprompt, List.mem_filterMap]
        exact ⟨answer, List.mem_cons_of_mem _ hanswer, hrequest⟩

/-- Dialogs of related machines on the same input end the same way and leave related machines. -/
theorem run (h : Lockstep allowed related) (hrelated : related machine host other otherHost)
    (hallowed : ∀ operation ∈ requests machine.console.line.input, allowed operation) :
    (run other otherHost).value.1 = (Dialog.run machine host).value.1 ∧
      related (Dialog.run machine host).value.2.1 (Dialog.run machine host).value.2.2
        (Dialog.run other otherHost).value.2.1 (Dialog.run other otherHost).value.2.2 := by
  have hmenu := h.showMenu (h.withInput hrelated [])
  simp only [Dialog.run, Logged.value_bind, (h.face hrelated).console]
  unfold Dialog.showMenu at hmenu ⊢
  cases hmenu with
  | waiting prompt text machines =>
    obtain ⟨habreast, hunread⟩ := h.session machine.console.line.input .command [] machines
      hallowed
    generalize (Session.run _ machine.console.line.input).value = ended at habreast hunread ⊢
    generalize (Session.run _ machine.console.line.input).value = otherEnded at habreast hunread ⊢
    obtain ⟨progress, unread⟩ := ended
    obtain ⟨otherProgress, otherUnread⟩ := otherEnded
    obtain rfl : otherUnread = unread := hunread
    cases habreast with
    | waiting prompt text machines => exact ⟨rfl, h.withInput machines otherUnread⟩
    | left machines => exact ⟨rfl, h.withInput machines otherUnread⟩

end Lockstep

end Dialog

end Backplane
