import Backplane.Proofs.Dialog.Display
import Backplane.Proofs.Disk.Drives
import Backplane.Proofs.Host.Stems

/-!
# Names on the menu

The menu labels a drive with the name of its disk, and nothing in the machine holds that name.
There is only the path of the image, which the label is taken from.  This file says that it is
nevertheless the name that was typed, or otherwise given, for the last disk that was mounted in the
drive.

Three things come together.  `Disk.lastName` finds that name in the history, and the drive holds its
path (`Disk.HoldsLast.get_eq`).  The stem of that path is the name again (`Name.Resolved`).  And
whenever a session waits for a command, the menu is what it sent last, for the drives as they are
then: one key keeps that, whatever it does (`menuShown_feed`), and so do all the keys of a dialog
(`menuShown_run`).

## Other texts

The name that a drive is labelled with is exactly the one that was typed, in the case it was typed
in.  A label cannot be mistaken for another, since two names have two paths.  The text of the menu
is written out here as it is sent (`labelledMenu`), byte for byte, so that nothing of the dialog's
own text is taken on trust.
-/

namespace Backplane

namespace Disk

/-! ## Names of disks -/

/-- What a request leaves a drive known by. -/
structure Naming where
  drive : Drive
  name : Option String

/-- The name that a moment leaves a drive with, if it is a request to mount or unmount that
succeeds.  Mounting under the empty name is unmounting. -/
def naming? (moment : Moment) : Option Naming :=
  match moment.operation,
    (moment.machine.perform moment.host moment.operation).value.1 with
  | .mount number name, .mounted (.ok ()) =>
    (Drive.ofNumber? number).map (⟨·, if name = "" then none else some name⟩)
  | .unmount number, .mounted (.ok ()) => (Drive.ofNumber? number).map (⟨·, none⟩)
  | _, _ => none

/-- The name that the disk in a drive was mounted under, unless the drive was emptied since or never
had one. -/
def lastName (past : List Moment) (drive : Drive) : Option String :=
  ((past.filterMap naming?).reverse.find? (·.drive = drive)).bind (·.name)

variable {volumes : Path} {config : Config} {machine : Machine} {moment : Moment}
  {past : List Moment} {drive : Drive} {name : String}

/-- A drive that is given a name is given its path. -/
theorem driveChange?_eq_map (volumes : Path) (moment : Moment) :
    driveChange? volumes moment =
      (naming? moment).map fun named => ⟨named.drive, named.name.map (diskPath volumes)⟩ := by
  have hnamed (number : Nat) (name : Option String) :
      (Drive.ofNumber? number).map
          (fun drive => (⟨drive, name.map (diskPath volumes)⟩ : DriveChange)) =
        ((Drive.ofNumber? number).map fun drive => (⟨drive, name⟩ : Naming)).map
          fun named => ⟨named.drive, named.name.map (diskPath volumes)⟩ := by
    rw [Option.map_map]
    rfl
  obtain ⟨machine, host, operation⟩ := moment
  unfold driveChange? naming?
  dsimp only
  generalize (machine.perform host operation).value.1 = answer
  cases operation with
  | mount number name =>
    -- Only a mount that is accepted names a disk, and the empty name takes one away.
    cases answer with
    | mounted result =>
      cases result with
      | ok _ =>
        have himage : (if name = "" then none else some (diskPath volumes name)) =
            (if name = "" then none else some name).map (diskPath volumes) := by
          split <;> rfl
        simp only [himage]
        exact hnamed number _
      | error _ => rfl
    | _ => rfl
  | unmount number =>
    -- So does an unmount.
    cases answer with
    | mounted result =>
      cases result with
      | ok _ => exact hnamed number none
      | error _ => rfl
    | _ => rfl
  | _ => rfl

theorem lastImage_eq_map (past : List Moment) (drive : Drive) :
    lastImage (past.filterMap (driveChange? volumes)) drive =
      (lastName past drive).map (diskPath volumes) := by
  have hchanges : past.filterMap (driveChange? volumes) =
      (past.filterMap naming?).map fun named =>
        ⟨named.drive, named.name.map (diskPath volumes)⟩ := by
    rw [List.map_filterMap]
    exact congrArg past.filterMap (funext (driveChange?_eq_map volumes))
  rw [lastImage, hchanges, ← List.map_reverse, List.find?_map, lastName]
  have hfound (found : Option Naming) :
      (found.map fun named : Naming =>
          (⟨named.drive, named.name.map (diskPath volumes)⟩ : DriveChange)).bind (·.image) =
        (found.bind (·.name)).map (diskPath volumes) := by
    cases found <;> rfl
  exact hfound _

/-- A disk is mounted under a bare name only. -/
theorem isBare_of_naming? (h : naming? moment = some ⟨drive, some name⟩) : Name.IsBare name := by
  obtain ⟨machine, host, operation⟩ := moment
  unfold naming? at h
  split at h
  · rename_i number given hoperation hanswer
    dsimp only at hoperation
    subst hoperation
    obtain ⟨named, -, heq⟩ := Option.map_eq_some_iff.1 h
    have hgiven : (if given = "" then none else some given) = some name :=
      (Naming.mk.inj heq).2
    split at hgiven
    · exact absurd hgiven (by simp)
    · rename_i hne
      have hok : (machine.mount host number given).value.1 = .ok () := Answer.mounted.inj hanswer
      have hbare := (((mounting rfl host number given).ok_iff hne).1 hok).2.1
      rwa [Option.some.inj hgiven] at hbare
  · obtain ⟨named, -, heq⟩ := Option.map_eq_some_iff.1 h
    exact absurd (Naming.mk.inj heq).2 (by simp)
  · exact absurd h (by simp)

theorem isBare_of_lastName (h : lastName past drive = some name) : Name.IsBare name := by
  obtain ⟨⟨named, given⟩, hfind, hname⟩ := Option.bind_eq_some_iff.1 h
  dsimp only at hname
  subst hname
  have hmem := List.mem_of_find?_eq_some hfind
  obtain ⟨moment, -, hnaming⟩ := List.mem_filterMap.1 (List.mem_reverse.1 hmem)
  exact isBare_of_naming? hnaming

theorem HoldsLast.get_eq (h : HoldsLast config machine past) (drive : Drive) :
    machine.controller.drives.get drive =
      (lastName past drive).map (diskPath config.volumesDirectory) := by
  rw [h.get, lastImage_eq_map]

/-- A machine is built with empty drives, and its history begins there. -/
theorem holdsLast_of_build {line : Console.Line} {host start : Host}
    (h : (Machine.build config line host).value = (.ok machine, start)) :
    HoldsLast config machine [] := by
  refine ⟨Machine.configured_of_build h, ?_⟩
  obtain ⟨working, memory, -, -, rfl⟩ := Machine.exists_layOut_of_build h
  intro drive
  cases drive <;> rfl

theorem HoldsLast.after (h : HoldsLast config machine past) (host : Host) (steps : List Step) :
    HoldsLast config (machine.after host steps).1 (past ++ machine.history host steps) :=
  @Machine.IsKept.after _ machine host past (isKept_holdsLast config) (fun h _ => h) h steps

end Disk

namespace Dialog

open Disk (lastName diskPath HoldsLast)

/-! ## Labels -/

/-- Text as it is sent. -/
def utf8 (text : String) : List UInt8 := text.toUTF8.data.toList

theorem utf8_append (first second : String) :
    utf8 (first ++ second) = utf8 first ++ utf8 second := by
  simp only [utf8, String.toUTF8, String.toByteArray_append, ByteArray.toList_data_append]

/-- The menu with the given labels of the drives. -/
def labelledMenu (panel : UInt8) (first second : List UInt8) : List UInt8 :=
  utf8 "1 - set port 255 value, currently " ++ utf8 (Hex.byte panel) ++ utf8 "\r\n" ++
  utf8 "2 - load file\r\n" ++
  utf8 "3 - mount disk in drive 0, currently " ++ first ++ utf8 "\r\n" ++
  utf8 "4 - mount disk in drive 1, currently " ++ second ++ utf8 "\r\n" ++
  utf8 "5 - examine memory\r\n" ++
  utf8 "6 - run machine\r\n\r\n" ++
  utf8 "Command: "

/-- What a drive should be labelled with. -/
def label (past : List Moment) (drive : Disk.Drive) : List UInt8 :=
  utf8 ((lastName past drive).getD "none")

variable {machine : Machine} {host : Host} {prompt : Prompt} {text : String}
  {session next : Session}
  {key : UInt8} {keys : List UInt8} {config : Config} {past : List Moment}

theorem utf8_menu (panel : UInt8) (drives : Disk.Drives) :
    utf8 (menu panel drives) =
      labelledMenu panel (utf8 (driveLabel drives.first)) (utf8 (driveLabel drives.second)) := by
  unfold menu labelledMenu
  simp only [utf8_append]

/-- The label of a disk is the name that its path was built from. -/
theorem driveLabel_diskPath (volumes : Path) {name : String} (h : Name.IsBare name) :
    driveLabel (some (diskPath volumes name)) = name := by
  have hstem := (h.resolved (by decide) (by decide) volumes :
    Name.Resolved volumes name Name.diskExtension _).stem
  rw [Disk.disk_fileName] at hstem
  rw [driveLabel, Option.bind_some, diskPath, hstem]
  rfl

theorem utf8_driveLabel (h : HoldsLast config machine past) (drive : Disk.Drive) :
    utf8 (driveLabel (machine.controller.drives.get drive)) = label past drive := by
  rw [h.get_eq, label]
  cases hname : lastName past drive with
  | none => rfl
  | some name =>
    rw [Option.map_some, driveLabel_diskPath _ (Disk.isBare_of_lastName hname)]
    rfl

/-! ## Menus -/

/-- A session that has sent the menu and nothing after it. -/
structure MenuShown (session : Session) : Prop where
  text : session.text = []
  output : ∃ sent : List UInt8, session.machine.console.line.output.toList =
    sent ++ utf8 (menu session.machine.frontPanel.value session.machine.controller.drives)

theorem menuShown_showMenu (machine : Machine) (host : Host) : MenuShown (showMenu machine host) :=
  ⟨rfl, machine.console.line.output.toList, Array.toList_appendList⟩

/-- The command that asks for a line asks for no other command. -/
theorem ne_command_of_choice {asked : Prompt} (h : Choice.ofText text = .prompt asked) :
    asked ≠ .command := by
  unfold Choice.ofText at h
  rintro rfl
  split at h <;> exact absurd h (by simp)

/-- A complete line leads to a command only through the menu. -/
theorem menuShown_complete (h : (complete machine host prompt text).value = .waiting next)
    (hcommand : next.prompt = .command) : MenuShown next := by
  cases prompt with
  | command =>
    simp only [complete, Logged.value_pure, obey] at h
    cases hchoice : Choice.ofText text with
    | prompt asked =>
      rw [hchoice] at h
      cases h
      exact absurd hcommand (ne_command_of_choice hchoice)
    | leave =>
      rw [hchoice] at h
      cases h
    | again =>
      rw [hchoice] at h
      cases h
      exact menuShown_showMenu _ _
  | _ =>
    cases h
    exact menuShown_showMenu _ _

/-- A key that does not complete a command line does nothing. -/
theorem menuShown_feed (hsession : session.prompt = .command → MenuShown session)
    (h : (session.feed key).value = .waiting next) (hcommand : next.prompt = .command) :
    MenuShown next := by
  obtain ⟨machine, host, prompt, typed⟩ := session
  rw [value_feed] at h
  split at h
  · exact menuShown_complete h hcommand
  · rename_i hcomplete
    cases h
    subst hcommand
    have hshown := hsession rfl
    obtain rfl : typed = [] := hshown.text
    have hpress := presses Prompt.command.limit [] key
    generalize press Prompt.command.limit [] key = stroke at hpress hcomplete ⊢
    cases hpress with
    | ends => exact absurd rfl hcomplete
    | erases _ any => exact absurd rfl any
    | appends => exact absurd rfl hcomplete
    | ignores =>
      dsimp only
      rwa [send_nil]

/-- Whenever a session waits for a command, the menu is what it sent last. -/
theorem menuShown_run (hsession : session.prompt = .command → MenuShown session)
    (h : (session.run keys).value = (.waiting next, [])) (hcommand : next.prompt = .command) :
    MenuShown next := by
  induction keys generalizing session with
  | nil =>
    cases h
    exact hsession hcommand
  | cons key rest ih =>
    rw [value_run_cons] at h
    cases hfeed : (session.feed key).value with
    | waiting later =>
      rw [hfeed] at h
      exact ih (menuShown_feed hsession hfeed) h
    | left machine host =>
      rw [hfeed] at h
      cases h

/-! ## Names through paths -/

/-- What becomes of names in a directory, with an extension. -/
structure KeepsNames (directory : Path) (extension : String) : Prop where
  resolves_iff : ∀ name,
    (∃ path, Name.resolve? directory name extension = some path) ↔ Name.IsBare name
  resolved : ∀ name path, Name.resolve? directory name extension = some path →
    Name.Resolved directory name extension path
  distinct : ∀ name other path otherPath, Name.resolve? directory name extension = some path →
    Name.resolve? directory other extension = some otherPath → name ≠ other → path ≠ otherPath

theorem keepsNames (directory : Path) {extension : String} (hdot : '.' ∉ extension.toList)
    (hslash : '/' ∉ extension.toList) : KeepsNames directory extension where
  resolves_iff _ := Name.exists_resolve?_iff
  resolved _ _ := Name.resolved_of_resolve? hdot hslash
  distinct := by
    rintro name other path _ hname hother hne rfl
    exact hne (Name.name_injective hdot hslash hname hother)

/-- A session of a machine that waits for a command when it has read some keys, given all that was
done before. -/
structure ShowsNames (config : Config) (machine : Machine) (host : Host) (keys : List UInt8)
    (past : List Moment) (session : Session) : Prop where
  /-- A drive holds the disk of its last name, and none if it has no name. -/
  drives : ∀ drive, session.machine.controller.drives.get drive =
    (lastName past drive).map (diskPath config.volumesDirectory)
  /-- The names stand in the menu, which is what was sent last. -/
  menu : ∃ sent, session.machine.console.line.output.toList =
    sent ++ labelledMenu session.machine.frontPanel.value (label past .first) (label past .second)
  /-- The menu is part of what a dialog sends that goes on with more keys. -/
  sent : ∀ more, ∃ said : List UInt8,
    (run (withInput machine (keys ++ more)) host).value.2.1.console.line.output =
      session.machine.console.line.output ++ said

theorem exists_said_of_run (h : ((showMenu (withInput machine []) host).run keys).value =
    (.waiting session, [])) (more : List UInt8) :
    ∃ said : List UInt8,
      (run (withInput machine (keys ++ more)) host).value.2.1.console.line.output =
        session.machine.console.line.output ++ said := by
  obtain ⟨said, hsaid⟩ := exists_output_run session more
  have hrun : (run (withInput machine (keys ++ more)) host).value =
      conclude ((showMenu (withInput machine []) host).run (keys ++ more)).value :=
    value_run (withInput machine (keys ++ more)) host
  rw [value_run_append, h] at hrun
  exact ⟨said, by rw [hrun, output_conclude, hsaid]⟩

theorem showsNames (hpast : HoldsLast config machine past)
    (h : ((showMenu (withInput machine []) host).run keys).value = (.waiting session, []))
    (hcommand : session.prompt = .command) :
    ShowsNames config machine host keys (past ++ machine.momentsOf host (requests keys))
      session := by
  -- What the session says takes no part in what the drives hold, so the history speaks for them.
  have hholds : HoldsLast config session.machine
      (past ++ machine.momentsOf host (requests keys)) := by
    obtain ⟨said, hmachine, -⟩ := exists_run_eq_performAll machine host keys
      (showMenu (withInput machine []) host).machine.console .command []
    have hstart : showMenu (withInput machine []) host =
        ⟨machine.withConsole (showMenu (withInput machine []) host).machine.console, host,
          .command, []⟩ := rfl
    rw [← hstart, h] at hmachine
    have hplain : ∀ operation ∈ requests keys, operation ≠ .dialog := fun operation hmem =>
      Machine.ne_dialog_of_isRequest (isRequest_of_mem hmem)
    have hrequests := @Machine.IsKept.performAll _ machine host past
      (Disk.isKept_holdsLast config) hpast _ hplain
    have hkept := Disk.isKept_holdsLast config
    have hsaid := @Machine.IsKept.withConsole _ hkept _ host _ hrequests said
    have hsession : session.machine =
        (machine.performAll host (requests keys)).1.withConsole said := hmachine
    rwa [hsession]
  obtain ⟨sent, hsent⟩ :=
    (menuShown_run (fun _ => menuShown_showMenu (withInput machine []) host) h hcommand).output
  refine ⟨hholds.get_eq, ⟨sent, ?_⟩, exists_said_of_run h⟩
  rw [hsent, utf8_menu, ← utf8_driveLabel hholds, ← utf8_driveLabel hholds]
  rfl

/-- In every directory, a bare name goes into a path of its own and comes out again as the stem, and
no other text does.  So every menu of every dialog shows the names the disks were mounted under. -/
theorem showsNames_after {extension : String} (hdot : '.' ∉ extension.toList)
    (hslash : '/' ∉ extension.toList) {line : Console.Line} {start : Host}
    (hbuild : (Machine.build config line host).value = (.ok machine, start)) {steps : List Step}
    {reached : Machine} {now : Host} (hrun : machine.after start steps = (reached, now)) :
    (∀ directory, KeepsNames directory extension) ∧
    ∀ keys session,
      ((showMenu (withInput reached []) now).run keys).value = (.waiting session, []) →
      session.prompt = .command →
      ShowsNames config reached now keys
        (machine.history start steps ++ reached.momentsOf now (requests keys)) session := by
  have hholds := (Disk.holdsLast_of_build hbuild).after start steps
  rw [hrun, List.nil_append] at hholds
  exact ⟨fun directory => keepsNames directory hdot hslash, fun keys session => showsNames hholds⟩

/-- A disk is mounted in both drives, a request for another is refused, and one drive is emptied. -/
def labelledSteps : List Step :=
  [.operation (.mount 0 "A"), .operation (.mount 1 "A"), .operation (.mount 0 "A.DSK"),
    .operation (.mount 1 "")]

theorem showsNames_after_mount :
    '.' ∉ Name.diskExtension.toList ∧ '/' ∉ Name.diskExtension.toList ∧
      (Machine.build Disk.diskConfig {} Disk.diskHost).value =
        (.ok Disk.diskMachine, Disk.diskHost) ∧
      KeepsNames Disk.diskConfig.volumesDirectory Name.diskExtension ∧
      ∃ reached now sent, Disk.diskMachine.after Disk.diskHost labelledSteps = (reached, now) ∧
        (showMenu (withInput reached []) now).machine.console.line.output.toList =
          sent ++ labelledMenu 0xFF (utf8 "A") (utf8 "none") := by
  have hdot : '.' ∉ Name.diskExtension.toList := by decide
  have hslash : '/' ∉ Name.diskExtension.toList := by decide
  have hbuild : (Machine.build Disk.diskConfig {} Disk.diskHost).value =
      (.ok Disk.diskMachine, Disk.diskHost) := rfl
  have hshown := showsNames_after hdot hslash hbuild
    (rfl : Disk.diskMachine.after Disk.diskHost labelledSteps = (_, _))
  obtain ⟨sent, hsent⟩ := (hshown.2 [] _ rfl rfl).menu
  have hpanel : (Disk.diskMachine.after Disk.diskHost labelledSteps).1.frontPanel.value = 0xFF := by
    decide +kernel
  have hfirst : lastName (Disk.diskMachine.history Disk.diskHost labelledSteps ++ []) .first =
      some "A" := by decide +kernel
  have hsecond : lastName (Disk.diskMachine.history Disk.diskHost labelledSteps ++ []) .second =
      none := by decide +kernel
  refine ⟨hdot, hslash, hbuild, hshown.1 _, _, _, sent, rfl, hsent.trans ?_⟩
  show sent ++ labelledMenu (Disk.diskMachine.after Disk.diskHost labelledSteps).1.frontPanel.value
    (label (Disk.diskMachine.history Disk.diskHost labelledSteps ++ []) .first)
    (label (Disk.diskMachine.history Disk.diskHost labelledSteps ++ []) .second) = _
  rw [hpanel, label, label, hfirst, hsecond]
  rfl

end Dialog

end Backplane
