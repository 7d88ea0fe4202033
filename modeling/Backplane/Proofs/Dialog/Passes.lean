import Backplane.Proofs.Dialog.TypeAhead

/-!
# Passes of the menu

A dialog is a loop in a loop in a loop: the menu is shown until it is left, a line is read until it
is complete, and a byte is waited for until one comes.  Nothing that is typed measures how far they
have got, since a line can be erased again and some keys do nothing at all.  What does is the queue:
every key is taken from it for good.

So the input of a dialog is cut into the *passes* of the menu that are complete, each of which is at
least one key and takes the dialog from one showing of the menu to the next (`exists_run_pass`), and
what follows them (`Ends`).  That is the key to leave with, with keys before it that a command line
takes no notice of, or else a pass that is not complete, and then there is no key left.  The same
key does not end the dialog where it stands in a value, a name or an address, because there it is
part of a pass.

## How a dialog can end

In two ways, and `Ends` has a constructor for each.  A dialog that was left has found the key to
leave with as the first printable key of a command line, and leaves all behind it unread for whoever
reads the line next.  A dialog that waits has read everything, and more keys would take it on.

There is no third way: no key makes a dialog fail, and none makes it go on without reading.
-/

namespace Backplane

namespace Dialog

variable {limit : Nat} {typed : List Char} {input rest tail unread : List UInt8} {text : String}

/-! ## Lines of the input -/

/-- A key completes a line, or the line goes on with something else typed; what follows the key has
no part in it. -/
theorem editLine_key (limit : Nat) (typed : List Char) (key : UInt8) :
    (∃ text, ∀ rest, editLine limit typed (key :: rest) = some (text, rest)) ∨
      ∃ typed', ∀ rest, editLine limit typed (key :: rest) = editLine limit typed' rest := by
  simp only [editLine]
  split
  · exact .inl ⟨_, fun _ => rfl⟩
  · split
    · exact .inr ⟨_, fun _ => rfl⟩
    · split
      · split
        · exact .inl ⟨_, fun _ => rfl⟩
        · exact .inr ⟨_, fun _ => rfl⟩
      · exact .inr ⟨_, fun _ => rfl⟩

/-- A line that is cut off the input is there at its head, with at least the key that completes
it. -/
theorem exists_line_of_editLine (h : editLine limit typed input = some (text, rest)) :
    ∃ line, input = line ++ rest ∧ line ≠ [] ∧ editLine limit typed line = some (text, []) := by
  induction input generalizing typed with
  | nil => exact absurd h (by simp [editLine])
  | cons key keys ih =>
    rcases editLine_key limit typed key with ⟨complete, hkey⟩ | ⟨typed', hkey⟩
    · rw [hkey] at h
      obtain ⟨rfl, rfl⟩ := Prod.mk.inj (Option.some.inj h)
      exact ⟨[key], rfl, List.cons_ne_nil _ _, hkey []⟩
    · rw [hkey] at h
      obtain ⟨line, rfl, -, hline⟩ := ih h
      exact ⟨key :: line, rfl, List.cons_ne_nil _ _, (hkey line).trans hline⟩

/-- More input does not change a line that is complete. -/
theorem editLine_append (h : editLine limit typed input = some (text, rest))
    (more : List UInt8) : editLine limit typed (input ++ more) = some (text, rest ++ more) := by
  induction input generalizing typed with
  | nil => exact absurd h (by simp [editLine])
  | cons key keys ih =>
    rw [List.cons_append]
    rcases editLine_key limit typed key with ⟨complete, hkey⟩ | ⟨typed', hkey⟩
    · rw [hkey] at h ⊢
      obtain ⟨rfl, rfl⟩ := Prod.mk.inj (Option.some.inj h)
      rfl
    · rw [hkey] at h ⊢
      exact ih h

/-- A key that a command line takes no notice of. -/
def IsDropped (key : UInt8) : Prop := key ≠ 0x0D ∧ ¬ (0x20 ≤ key ∧ key ≤ 0x7E)

/-- A command line has room for one character, so the first key that is not dropped completes it. -/
theorem editLine_command (key : UInt8) (rest : List UInt8) :
    editLine 1 [] (key :: rest) =
      if key = 0x0D then some ("", rest)
      else if 0x20 ≤ key ∧ key ≤ 0x7E then
        some (String.ofList [Char.ofNat key.toNat], rest)
      else editLine 1 [] rest := by
  rw [editLine]
  by_cases herase : key = 0x08 ∨ key = 0x7F
  · have hprintable : ¬ (0x20 ≤ key ∧ key ≤ 0x7E) := by
      rcases herase with rfl | rfl <;> decide
    rw [if_pos herase, if_neg hprintable]
    rfl
  · rw [if_neg herase]
    rfl

/-- The character to leave with is that of one key. -/
theorem ofList_eq_six_iff (key : UInt8) :
    String.ofList [Char.ofNat key.toNat] = "6" ↔ key = 0x36 := by
  have hall : ∀ n : Fin 256, String.ofList [Char.ofNat n.val] = "6" ↔ n.val = 0x36 := by
    decide +kernel
  rw [hall ⟨key.toNat, key.toNat_lt⟩]
  exact ⟨fun h => UInt8.toNat_inj.1 h, fun h => h ▸ rfl⟩

/-- The command to leave is its key, with dropped keys before it. -/
theorem editLine_eq_six_iff :
    editLine 1 [] input = some ("6", unread) ↔
      ∃ dropped, input = dropped ++ 0x36 :: unread ∧ ∀ key ∈ dropped, IsDropped key := by
  induction input with
  | nil => simp [editLine]
  | cons key rest ih =>
    rw [editLine_command]
    by_cases hdropped : IsDropped key
    · -- A dropped key in front, and the rest decides.
      have hnot : key ≠ 0x36 := by
        rintro rfl
        exact hdropped.2 (by decide)
      rw [if_neg hdropped.1, if_neg hdropped.2, ih]
      constructor
      · rintro ⟨dropped, rfl, hall⟩
        exact ⟨key :: dropped, rfl, List.forall_mem_cons.2 ⟨hdropped, hall⟩⟩
      · rintro ⟨_ | ⟨first, dropped⟩, heq, hall⟩
        · exact absurd (List.cons.inj heq).1 hnot
        · exact ⟨dropped, (List.cons.inj heq).2, fun other hmem =>
            hall other (List.mem_cons_of_mem _ hmem)⟩
    · -- Any other key completes the command, and has to be the right one.
      have hright : (∃ dropped, key :: rest = dropped ++ 0x36 :: unread ∧
          ∀ other ∈ dropped, IsDropped other) ↔ key = 0x36 ∧ rest = unread := by
        constructor
        · rintro ⟨_ | ⟨first, dropped⟩, heq, hall⟩
          · exact List.cons.inj heq
          · have hfirst : key = first := (List.cons.inj heq).1
            exact absurd (hall first List.mem_cons_self) (hfirst ▸ hdropped)
        · rintro ⟨rfl, rfl⟩
          exact ⟨[], rfl, by simp⟩
      rw [hright]
      by_cases hreturn : key = 0x0D
      · rw [if_pos hreturn, hreturn]
        simp
      · have hprintable : 0x20 ≤ key ∧ key ≤ 0x7E := not_not.1 fun h => hdropped ⟨hreturn, h⟩
        rw [if_neg hreturn, if_pos hprintable, Option.some.injEq, Prod.mk.injEq,
          ofList_eq_six_iff]

/-! ## Passes -/

/-- The keys of a pass that is complete: a command line that does not leave, and the line that
answers it, if it asks for one. -/
inductive IsPass : List UInt8 → Prop
  | bare {line : List UInt8} {name : String} (command : editLine 1 [] line = some (name, []))
    (stays : name ≠ "6") (bare : lineLimit? name = none) : IsPass line
  | asking {line answer : List UInt8} {name text : String} {limit : Nat}
    (command : editLine 1 [] line = some (name, [])) (asks : lineLimit? name = some limit)
    (answered : editLine limit [] answer = some (text, [])) : IsPass (line ++ answer)

/-- The keys of a pass that is not complete. -/
inductive IsPartial : List UInt8 → Prop
  | command {keys : List UInt8} (line : editLine 1 [] keys = none) : IsPartial keys
  | answer {line keys : List UInt8} {name : String} {limit : Nat}
    (command : editLine 1 [] line = some (name, [])) (asks : lineLimit? name = some limit)
    (unanswered : editLine limit [] keys = none) : IsPartial (line ++ keys)

/-- What follows the passes of an input, with what it leaves unread and how it ends. -/
inductive Ends : List UInt8 → List UInt8 → Ending → Prop
  /-- The key to leave with, read as a command line. -/
  | left {dropped : List UInt8} (unread : List UInt8)
    (drops : ∀ key ∈ dropped, IsDropped key) : Ends (dropped ++ 0x36 :: unread) unread .left
  /-- A pass that is not complete. -/
  | waiting {keys : List UInt8} (begun : IsPartial keys) : Ends keys [] .waiting

theorem IsPass.ne_nil {pass : List UInt8} (h : IsPass pass) : pass ≠ [] := by
  have hline {line : List UInt8} {name : String} (command : editLine 1 [] line = some (name, [])) :
      line ≠ [] := by
    rintro rfl
    exact absurd command (by simp [editLine])
  cases h with
  | bare command => exact hline command
  | asking command => exact List.append_ne_nil_of_left_ne_nil (hline command) _

/-- A script is cut into passes and what follows them. -/
theorem exists_passes_of_spells {calls : List Operation} {ending : Ending}
    (h : Spells input calls unread ending) :
    ∃ passes : List (List UInt8), ∃ tail, input = passes.flatten ++ tail ∧
      (∀ pass ∈ passes, IsPass pass) ∧ Ends tail unread ending := by
  induction h with
  | @waiting input command =>
    exact ⟨[], input, rfl, by simp, .waiting (.command command)⟩
  | @left input rest command =>
    obtain ⟨dropped, rfl, hdropped⟩ := editLine_eq_six_iff.1 command
    exact ⟨[], _, rfl, by simp, .left rest hdropped⟩
  | skipped command stays bare _ ih =>
    obtain ⟨line, rfl, -, hline⟩ := exists_line_of_editLine command
    obtain ⟨passes, tail, rfl, hpasses, hends⟩ := ih
    exact ⟨line :: passes, tail, by simp, List.forall_mem_cons.2 ⟨.bare hline stays bare, hpasses⟩,
      hends⟩
  | unanswered command asks unanswered =>
    obtain ⟨line, rfl, -, hline⟩ := exists_line_of_editLine command
    exact ⟨[], _, rfl, by simp, .waiting (.answer hline asks unanswered)⟩
  | answered command asks answered _ ih =>
    obtain ⟨line, rfl, -, hline⟩ := exists_line_of_editLine command
    obtain ⟨answer, rfl, -, hanswer⟩ := exists_line_of_editLine answered
    obtain ⟨passes, tail, rfl, hpasses, hends⟩ := ih
    exact ⟨(line ++ answer) :: passes, tail, by simp,
      List.forall_mem_cons.2 ⟨.asking hline asks hanswer, hpasses⟩, hends⟩

/-- Passes before a script are part of a script that ends the same way. -/
theorem exists_spells_append {passes : List (List UInt8)} {calls : List Operation}
    {ending : Ending} (hpasses : ∀ pass ∈ passes, IsPass pass)
    (h : Spells rest calls unread ending) :
    ∃ calls', Spells (passes.flatten ++ rest) calls' unread ending := by
  induction passes with
  | nil => exact ⟨calls, h⟩
  | cons pass passes ih =>
    obtain ⟨hpass, hpasses⟩ := List.forall_mem_cons.1 hpasses
    obtain ⟨later, hlater⟩ := ih hpasses
    rw [List.flatten_cons, List.append_assoc]
    cases hpass with
    | bare command stays bare =>
      exact ⟨later, .skipped (editLine_append command _) stays bare hlater⟩
    | asking command asks answered =>
      rw [List.append_assoc]
      exact ⟨_, .answered (editLine_append command _) asks (editLine_append answered _) hlater⟩

/-! ## What a pass does -/

variable (machine : Machine) (host : Host)

/-- A session whose line becomes complete goes on from there with the rest of the input. -/
theorem exists_run_complete {prompt : Prompt} {typed : List UInt8}
    (h : editLine prompt.limit (typedChars typed) input = some (text, rest)) :
    ∃ said,
      (Session.run ⟨machine, host, prompt, typed⟩ input).value =
        match (complete (send machine said) host prompt text).value with
        | .waiting next => (next.run rest).value
        | .left machine host => (.left machine host, rest) := by
  induction input generalizing machine typed with
  | nil => exact absurd h (by simp [editLine])
  | cons key keys ih =>
    rw [editLine_cons] at h
    simp only [Session.run, Session.feed, Logged.value_bind]
    rcases hpress : press prompt.limit typed key with ⟨later, echo, _ | _⟩
    · rw [hpress] at h
      obtain ⟨said, hrun⟩ := ih (send machine echo) h
      rw [send_send] at hrun
      exact ⟨echo ++ said, hrun⟩
    · rw [hpress] at h
      obtain ⟨rfl, rfl⟩ := Prod.mk.inj (Option.some.inj h)
      refine ⟨echo ++ [carriageReturn, lineFeed], ?_⟩
      dsimp only
      cases (complete (send machine (echo ++ [carriageReturn, lineFeed])) host prompt
        (lineText later)).value <;> rfl

/-- A command that asks for nothing leads back to the menu. -/
theorem exists_complete_bare {name : String} (hstays : name ≠ "6")
    (hbare : lineLimit? name = none) :
    ∃ reached, (complete machine host .command name).value = .waiting (showMenu reached host) := by
  simp only [complete, Logged.value_pure, obey, choice_of_bare hstays hbare]
  exact ⟨_, rfl⟩

/-- A command that asks for a line leads to a prompt for it. -/
theorem exists_complete_asking {name : String} (hasks : lineLimit? name = some limit) :
    ∃ reached prompt, (complete machine host .command name).value =
        .waiting ⟨reached, host, prompt, []⟩ ∧
      prompt.limit = limit ∧ prompt ≠ .command := by
  obtain ⟨prompt, hnext, hlimit, hanswers⟩ := exists_prompt_of_asks hasks
  obtain ⟨said, hcomplete⟩ := exists_complete_send machine host [] .command name
  rw [send_nil, hnext] at hcomplete
  refine ⟨_, prompt, hcomplete, hlimit, ?_⟩
  rintro rfl
  exact absurd (hanswers "6").1 (by simp [next?, Choice.ofText])

/-- An answer leads back to the menu. -/
theorem exists_complete_answer {prompt : Prompt} (hprompt : prompt ≠ .command) (text : String) :
    ∃ reached now, (complete machine host prompt text).value = .waiting (showMenu reached now) := by
  cases prompt with
  | command => exact absurd rfl hprompt
  | _ => exact ⟨_, _, rfl⟩

/-- A pass takes the dialog from the menu to the menu. -/
theorem exists_run_pass {pass : List UInt8} (h : IsPass pass) :
    ∃ reached now, ((showMenu machine host).run pass).value =
      (.waiting (showMenu reached now), []) := by
  have hcommand {line rest : List UInt8} {name : String}
      (hline : editLine 1 [] line = some (name, rest)) :
      ∃ said, ((showMenu machine host).run line).value =
        match (complete (send (showMenu machine host).machine said) host .command name).value with
        | .waiting next => (next.run rest).value
        | .left machine host => (.left machine host, rest) :=
    @exists_run_complete _ _ _ (showMenu machine host).machine host .command [] hline
  cases h with
  | bare command stays bare =>
    obtain ⟨said, hrun⟩ := hcommand command
    obtain ⟨reached, hcomplete⟩ := exists_complete_bare _ host stays bare
    rw [hcomplete] at hrun
    exact ⟨reached, host, hrun⟩
  | @asking line answer name text limit command asks answered =>
    obtain ⟨said, hrun⟩ := hcommand (editLine_append command answer)
    obtain ⟨asking, prompt, hcomplete, rfl, hprompt⟩ := exists_complete_asking _ host asks
    obtain ⟨told, hanswer⟩ := @exists_run_complete _ _ _ asking host prompt [] answered
    obtain ⟨reached, now, hmenu⟩ := exists_complete_answer (send asking told) host hprompt text
    rw [hcomplete] at hrun
    rw [hmenu] at hanswer
    exact ⟨reached, now, hrun.trans hanswer⟩

theorem exists_run_passes {passes : List (List UInt8)} (h : ∀ pass ∈ passes, IsPass pass) :
    ∃ reached now, ((showMenu machine host).run passes.flatten).value =
      (.waiting (showMenu reached now), []) := by
  induction passes generalizing machine host with
  | nil => exact ⟨machine, host, rfl⟩
  | cons pass passes ih =>
    obtain ⟨hpass, hpasses⟩ := List.forall_mem_cons.1 h
    obtain ⟨reached, now, hrun⟩ := exists_run_pass machine host hpass
    obtain ⟨last, lastNow, hlater⟩ := ih reached now hpasses
    refine ⟨last, lastNow, ?_⟩
    rw [List.flatten_cons, value_run_append, hrun]
    exact hlater

/-! ## Whole dialogs -/

/-- What a dialog has made of its queue when it ends. -/
structure Finished (machine : Machine) (host : Host) (passes : List (List UInt8))
    (tail : List UInt8) (ending : Ending) (final : Machine) : Prop where
  /-- The queue is cut into passes and what follows them. -/
  queue : machine.console.line.input = passes.flatten ++ tail
  /-- Each pass took at least one key. -/
  taken : ∀ pass ∈ passes, IsPass pass ∧ 0 < pass.length
  /-- The passes take the dialog from the menu to the menu. -/
  menus : ∀ count, ∃ reached now,
    ((showMenu (withInput machine []) host).run (passes.take count).flatten).value =
      (.waiting (showMenu reached now), [])
  /-- Behind them it is left, or nothing is left to read. -/
  ends : Ends tail final.console.line.input ending
  /-- A key to leave with that is read as a command line does leave, with all behind it unread. -/
  leaves : ∀ (others : List (List UInt8)) (dropped unread : List UInt8),
    (∀ pass ∈ others, IsPass pass) → (∀ key ∈ dropped, IsDropped key) →
    machine.console.line.input = others.flatten ++ (dropped ++ 0x36 :: unread) →
    ending = .left ∧ final.console.line.input = unread
  /-- Wherever the dialog waits, it has read all there was. -/
  waits : ∀ front session unread, front <+: machine.console.line.input →
    ((showMenu (withInput machine []) host).run front).value = (.waiting session, unread) →
    unread = []

/-- Every dialog on a finite queue ends: with the first key to leave with that is read as a command
line, or with nothing left to read. -/
theorem exists_finished_dialog :
    ∃ passes tail ending final after, (run machine host).value = (ending, final, after) ∧
      Finished machine host passes tail ending final := by
  obtain ⟨calls, unread, ending, hscript⟩ := exists_spells machine.console.line.input
  obtain ⟨passes, tail, hqueue, hpasses, hends⟩ := exists_passes_of_spells hscript
  obtain ⟨said, hdialog⟩ := exists_dialog_of_spells machine host hscript
  refine ⟨passes, tail, ending, _, _, hdialog, hqueue, ?_, ?_, hends, ?_, ?_⟩
  · exact fun pass hmem => ⟨hpasses pass hmem, List.length_pos_iff.2 (hpasses pass hmem).ne_nil⟩
  · intro count
    exact exists_run_passes _ host fun pass hmem => hpasses pass (List.mem_of_mem_take hmem)
  · intro others dropped rest hothers hdropped hcut
    obtain ⟨calls', hleft⟩ := exists_spells_append hothers
      (.left (editLine_eq_six_iff.2 ⟨dropped, rfl, hdropped⟩))
    rw [← hcut] at hleft
    obtain ⟨said', hsame⟩ := exists_dialog_of_spells machine host hleft
    obtain ⟨hending, hfinal⟩ := Prod.mk.inj (hdialog.symm.trans hsame)
    have hunread := congrArg (fun ended => ended.1.console.line.input) hfinal
    exact ⟨hending, hunread⟩
  · exact fun front session unread _ hwaits => unread_of_waiting hwaits

end Dialog

end Backplane
