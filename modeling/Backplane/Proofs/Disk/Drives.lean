import Backplane.Proofs.Host.Names
import Backplane.Proofs.Machine.History

/-!
# What the drives hold

A drive holds the disk that was mounted last, unless the drive was emptied since.  The whole history
of a machine decides that, and nothing else does: `driveChange?` reads off each moment whether it
gave a drive a disk or emptied one, which only a request to mount or unmount can do and only if it
succeeds, and `drives_after` says that after any run each drive holds what its last change left in
it.  Files may come and go meanwhile.  A drive keeps the path of an image that has vanished.

`MountRules` says when such requests succeed, and what becomes of those that do not.

## Order of the errors

A request to mount can be wrong in three ways at once, and only one of them is reported.  The drive
is looked at first, then the name, and the file last, as the fields of `MountRules` say by their
conditions: each names the faults that must not be there for its own error to be seen.  The empty
name is no name at all.  It empties the drive, and for it only the first of the three can go wrong.

## History

A dialog mounts disks too.  `Machine.history` takes a dialog apart into the requests that its input
spells out, so a change that was made in a dialog counts like one that was asked for directly, and
one that was refused there does not count.

The invariant is `HoldsLast`, and it is kept by each operation other than a dialog
(`isKept_holdsLast`); what an operation other than the two requests does to the drives is nothing
(`drives_perform_of_other`).
-/

namespace Backplane

namespace Machine

/-- The same machine with another content of a drive. -/
def withDrive (machine : Machine) (drive : Disk.Drive) (image : Option Path) : Machine :=
  { machine with
    controller :=
      { machine.controller with drives := machine.controller.drives.set drive image } }

/-- Unmounting empties the drive of the number, if there is one. -/
theorem value_unmount (machine : Machine) (number : Nat) :
    (machine.unmount number).value =
      match Disk.Drive.ofNumber? number with
      | none => (.error (.mount (.invalidDrive number)), machine)
      | some drive => (.ok (), machine.withDrive drive none) := by
  simp only [unmount, Disk.Controller.unmount, Logged.value_bind, Logged.value_pure]
  cases Disk.Drive.ofNumber? number <;> rfl

/-- Mounting looks at the drive number, then at the name, and then at the file. -/
theorem value_mount (machine : Machine) (host : Host) (number : Nat) (name : String) :
    (machine.mount host number name).value =
      match Disk.Drive.ofNumber? number with
      | none => (.error (.mount (.invalidDrive number)), machine)
      | some drive =>
        if name = "" then (.ok (), machine.withDrive drive none)
        else
          match Name.resolve? machine.controller.volumesDirectory name Name.diskExtension with
          | none => (.error (.mount (.invalidName name)), machine)
          | some path =>
            if host.isFile path then (.ok (), machine.withDrive drive (some path))
            else (.error (.mount (.notFound path)), machine) := by
  simp only [mount, Disk.Controller.mount, Logged.value_bind, Logged.value_pure]
  cases hdrive : Disk.Drive.ofNumber? number with
  | none => rfl
  | some drive =>
    dsimp only
    by_cases hname : name = ""
    · simp only [if_pos hname, Disk.Controller.unmount, hdrive]
      rfl
    · simp only [if_neg hname]
      cases Name.resolve? machine.controller.volumesDirectory name Name.diskExtension with
      | none => rfl
      | some path =>
        dsimp only
        split <;> rfl

end Machine

namespace Disk

/-! ## Changes of a drive -/

/-- What a drive was left with. -/
structure DriveChange where
  drive : Drive
  image : Option Path
deriving DecidableEq

/-- The path of the disk of a name. -/
def diskPath (volumes : Path) (name : String) : Path := volumes.child (name ++ ".DSK")

/-- What a moment leaves in a drive, if it is a request to mount or unmount that succeeds.  Mounting
under the empty name is unmounting. -/
def driveChange? (volumes : Path) (moment : Moment) : Option DriveChange :=
  match moment.operation,
    (moment.machine.perform moment.host moment.operation).value.1 with
  | .mount number name, .mounted (.ok ()) =>
    (Drive.ofNumber? number).map
      (⟨·, if name = "" then none else some (diskPath volumes name)⟩)
  | .unmount number, .mounted (.ok ()) => (Drive.ofNumber? number).map (⟨·, none⟩)
  | _, _ => none

/-- What the last of some changes left in a drive; without any it is empty. -/
def lastImage (changes : List DriveChange) (drive : Drive) : Option Path :=
  (changes.reverse.find? (·.drive = drive)).bind (·.image)

theorem lastImage_append_singleton (changes : List DriveChange) (change : DriveChange)
    (drive : Drive) :
    lastImage (changes ++ [change]) drive =
      if drive = change.drive then change.image else lastImage changes drive := by
  rw [lastImage, List.reverse_append, List.reverse_singleton, List.singleton_append,
    List.find?_cons]
  by_cases h : drive = change.drive
  · rw [if_pos h, decide_eq_true h.symm]
    rfl
  · rw [if_neg h, decide_eq_false (Ne.symm h)]
    rfl

/-! ## The rules of mounting -/

theorem ofNumber?_eq_some_iff {number : Nat} {drive : Drive} :
    Drive.ofNumber? number = some drive ↔ number = drive.number := by
  match number with
  | 0 | 1 => cases drive <;> simp [Drive.ofNumber?, Drive.number]
  | n + 2 => cases drive <;> simp [Drive.ofNumber?, Drive.number]

theorem exists_ofNumber?_iff {number : Nat} :
    (∃ drive, Drive.ofNumber? number = some drive) ↔ number < 2 := by
  rw [← Option.ne_none_iff_exists', Ne, Drive.ofNumber?_eq_none_iff, Nat.not_le]

/-- When a machine mounts and unmounts disks, and what it does otherwise.  The rules speak about one
request on a given machine and host, whatever led to them, so they hold in every state that a run
reaches. -/
structure MountRules (volumes : Path) (machine : Machine) (host : Host) : Prop where
  /-- A disk is mounted if there is the drive, the name is a bare name, and its path leads to a
  regular file. -/
  mount_ok_iff : ∀ number name, name ≠ "" →
    ((machine.mount host number name).value.1 = .ok () ↔
      number < 2 ∧ Name.IsBare name ∧
        ∃ file, host.find (diskPath volumes name) = .ok (.regular file))
  /-- The drive is looked at first, -/
  mount_invalidDrive_iff : ∀ number name,
    ((machine.mount host number name).value.1 = .error (.mount (.invalidDrive number)) ↔
      2 ≤ number)
  /-- then the name, -/
  mount_invalidName_iff : ∀ number name,
    ((machine.mount host number name).value.1 = .error (.mount (.invalidName name)) ↔
      number < 2 ∧ name ≠ "" ∧ ¬ Name.IsBare name)
  /-- and then the file. -/
  mount_notFound_iff : ∀ number name,
    ((machine.mount host number name).value.1 =
        .error (.mount (.notFound (diskPath volumes name))) ↔
      number < 2 ∧ Name.IsBare name ∧
        ¬ ∃ file, host.find (diskPath volumes name) = .ok (.regular file))
  mount_empty : ∀ number,
    (machine.mount host number "").value = (machine.unmount number).value
  unmount_ok_iff : ∀ number, ((machine.unmount number).value.1 = .ok () ↔ number < 2)
  unmount_invalidDrive_iff : ∀ number,
    ((machine.unmount number).value.1 = .error (.mount (.invalidDrive number)) ↔ 2 ≤ number)
  /-- A request that is refused changes nothing. -/
  mount_refused : ∀ number name refusal,
    (machine.mount host number name).value.1 = .error refusal →
      (machine.mount host number name).value.2 = machine
  unmount_refused : ∀ number refusal, (machine.unmount number).value.1 = .error refusal →
    (machine.unmount number).value.2 = machine
  /-- A request never changes the other drive, -/
  mount_other : ∀ number name (drive : Drive), drive.number ≠ number →
    (machine.mount host number name).value.2.controller.drives.get drive =
      machine.controller.drives.get drive
  unmount_other : ∀ number (drive : Drive), drive.number ≠ number →
    (machine.unmount number).value.2.controller.drives.get drive =
      machine.controller.drives.get drive
  /-- and no operation of another kind changes any drive. -/
  perform_other : ∀ operation, (∀ number name, operation ≠ .mount number name) →
    (∀ number, operation ≠ .unmount number) → operation ≠ .dialog →
      (machine.perform host operation).value.2.1.controller.drives = machine.controller.drives

variable {volumes : Path} {machine : Machine} {host : Host}

theorem isFile_iff {path : Path} :
    host.isFile path = true ↔ ∃ file, host.find path = .ok (.regular file) := by
  unfold Host.isFile
  split <;> simp_all

theorem disk_fileName (name : String) : name ++ "." ++ Name.diskExtension = name ++ ".DSK" := by
  rw [String.append_assoc]
  rfl

theorem resolve?_disk {name : String} (h : Name.IsBare name) :
    Name.resolve? volumes name Name.diskExtension = some (diskPath volumes name) := by
  rw [Name.resolve?_eq_some_iff, disk_fileName]
  exact ⟨h, rfl⟩

/-- The ways in which a request to mount a disk can end, each with what brings it about. -/
inductive Mounting (volumes : Path) (machine : Machine) (host : Host) (number : Nat)
    (name : String) : Except MachineError Unit × Machine → Prop
  | noDrive (high : 2 ≤ number) :
    Mounting volumes machine host number name
      (.error (.mount (.invalidDrive number)), machine)
  | emptied (drive : Drive) (numbered : number = drive.number) (empty : name = "") :
    Mounting volumes machine host number name (.ok (), machine.withDrive drive none)
  | notBare (drive : Drive) (numbered : number = drive.number) (nonempty : name ≠ "")
    (bad : ¬ Name.IsBare name) :
    Mounting volumes machine host number name (.error (.mount (.invalidName name)), machine)
  | noFile (drive : Drive) (numbered : number = drive.number) (bare : Name.IsBare name)
    (missing : ¬ ∃ file, host.find (diskPath volumes name) = .ok (.regular file)) :
    Mounting volumes machine host number name
      (.error (.mount (.notFound (diskPath volumes name))), machine)
  | mounted (drive : Drive) (numbered : number = drive.number) (bare : Name.IsBare name)
    (there : ∃ file, host.find (diskPath volumes name) = .ok (.regular file)) :
    Mounting volumes machine host number name
      (.ok (), machine.withDrive drive (some (diskPath volumes name)))

theorem mounting (hvolumes : machine.controller.volumesDirectory = volumes) (host : Host)
    (number : Nat) (name : String) :
    Mounting volumes machine host number name (machine.mount host number name).value := by
  rw [Machine.value_mount, hvolumes]
  cases hdrive : Drive.ofNumber? number with
  | none => exact .noDrive (Drive.ofNumber?_eq_none_iff.1 hdrive)
  | some drive =>
    have hnumber := ofNumber?_eq_some_iff.1 hdrive
    by_cases hname : name = ""
    · simp only [if_pos hname]
      exact .emptied drive hnumber hname
    · simp only [if_neg hname]
      by_cases hbare : Name.IsBare name
      · simp only [resolve?_disk hbare]
        split
        · exact .mounted drive hnumber hbare (isFile_iff.1 ‹_›)
        · exact .noFile drive hnumber hbare (mt isFile_iff.2 ‹_›)
      · rw [Name.resolve?_eq_none_iff.2 hbare]
        exact .notBare drive hnumber hname hbare

theorem ne_empty_of_isBare {name : String} (h : Name.IsBare name) : name ≠ "" := by
  rintro rfl
  exact absurd h.positive (by simp)

theorem number_lt_two (drive : Drive) : drive.number < 2 := by
  cases drive <;> decide

theorem get_withDrive (machine : Machine) (drive other : Drive) (image : Option Path) :
    (machine.withDrive drive image).controller.drives.get other =
      if other = drive then image else machine.controller.drives.get other :=
  Drives.get_set _ _ _ _

namespace Mounting

variable {number : Nat} {name : String} {ended : Except MachineError Unit × Machine}

theorem ok_iff (h : Mounting volumes machine host number name ended) (hname : name ≠ "") :
    ended.1 = .ok () ↔ number < 2 ∧ Name.IsBare name ∧
      ∃ file, host.find (diskPath volumes name) = .ok (.regular file) := by
  cases h with
  | noDrive high => simp [Nat.not_lt.2 high]
  | emptied drive numbered empty => exact absurd empty hname
  | notBare drive numbered nonempty bad => simp [bad]
  | noFile drive numbered bare missing => simp [missing]
  | mounted drive numbered bare there =>
    exact iff_of_true rfl ⟨numbered ▸ number_lt_two drive, bare, there⟩

theorem invalidDrive_iff (h : Mounting volumes machine host number name ended) :
    ended.1 = .error (.mount (.invalidDrive number)) ↔ 2 ≤ number := by
  cases h with
  | noDrive high => simp [high]
  | _ drive numbered =>
    exact iff_of_false (by simp) (Nat.not_le.2 (numbered ▸ number_lt_two drive))

theorem invalidName_iff (h : Mounting volumes machine host number name ended) :
    ended.1 = .error (.mount (.invalidName name)) ↔
      number < 2 ∧ name ≠ "" ∧ ¬ Name.IsBare name := by
  cases h with
  | noDrive high => simp [Nat.not_lt.2 high]
  | emptied drive numbered empty => simp [empty]
  | notBare drive numbered nonempty bad =>
    exact iff_of_true rfl ⟨numbered ▸ number_lt_two drive, nonempty, bad⟩
  | noFile drive numbered bare missing => simp [bare]
  | mounted drive numbered bare there => simp [bare]

theorem notFound_iff (h : Mounting volumes machine host number name ended) :
    ended.1 = .error (.mount (.notFound (diskPath volumes name))) ↔
      number < 2 ∧ Name.IsBare name ∧
        ¬ ∃ file, host.find (diskPath volumes name) = .ok (.regular file) := by
  cases h with
  | noDrive high => simp [Nat.not_lt.2 high]
  | emptied drive numbered empty => simp [mt ne_empty_of_isBare (not_not.2 empty)]
  | notBare drive numbered nonempty bad => simp [bad]
  | noFile drive numbered bare missing =>
    exact iff_of_true rfl ⟨numbered ▸ number_lt_two drive, bare, missing⟩
  | mounted drive numbered bare there => simp [there]

theorem eq_of_refused (h : Mounting volumes machine host number name ended)
    {refusal : MachineError} (hrefused : ended.1 = .error refusal) : ended.2 = machine := by
  cases h with
  | noDrive | notBare | noFile => rfl
  | emptied | mounted => exact absurd hrefused (by simp)

theorem get_of_other (h : Mounting volumes machine host number name ended) {drive : Drive}
    (hother : drive.number ≠ number) :
    ended.2.controller.drives.get drive = machine.controller.drives.get drive := by
  cases h with
  | noDrive | notBare | noFile => rfl
  | emptied mounted numbered | mounted mounted numbered =>
    rw [get_withDrive, if_neg]
    rintro rfl
    exact hother numbered.symm

end Mounting

/-- Every operation but those that mount and unmount, and dialogs, leaves the drives alone. -/
theorem drives_perform_of_other {operation : Operation}
    (hmount : ∀ number name, operation ≠ .mount number name)
    (hunmount : ∀ number, operation ≠ .unmount number) (hdialog : operation ≠ .dialog)
    (machine : Machine) (host : Host) :
    (machine.perform host operation).value.2.1.controller.drives = machine.controller.drives := by
  cases hvalue : delivered? machine operation with
  | some value =>
    -- What the controller does with a byte is a matter of its latch and its status.
    obtain ⟨latch, status, hcontroller⟩ :=
      Machine.exists_latch_status_output machine.controller machine.memory host value
    rw [perform_of_delivered hvalue]
    dsimp only
    rw [hcontroller]
  | none =>
    -- What is delivered to no controller leaves it as it is.
    cases operation with
    | output port value =>
      have hsame := machine.output_of_not_controller host (not_controller_of_delivered? hvalue)
        value
      simp only [Machine.perform, Logged.value_bind, Logged.value_pure]
      rw [hsame.2.1]
    | input port =>
      obtain ⟨console, hinput⟩ := machine.exists_console_input port
      simp only [Machine.perform, Logged.value_bind, Logged.value_pure, hinput]
      rfl
    | loadProgram name =>
      simp only [Machine.perform, Logged.value_bind, Logged.value_pure, Machine.value_loadProgram]
      rcases machine.findProgram host name with refusal | ⟨path, image⟩ <;> rfl
    | mount number name => exact absurd rfl (hmount number name)
    | unmount number => exact absurd rfl (hunmount number)
    | dialog => exact absurd rfl hdialog
    | _ => rfl

theorem mountRules (hvolumes : machine.controller.volumesDirectory = volumes) (host : Host) :
    MountRules volumes machine host where
  mount_ok_iff number name := (mounting hvolumes host number name).ok_iff
  mount_invalidDrive_iff number name := (mounting hvolumes host number name).invalidDrive_iff
  mount_invalidName_iff number name := (mounting hvolumes host number name).invalidName_iff
  mount_notFound_iff number name := (mounting hvolumes host number name).notFound_iff
  mount_empty number := by
    rw [Machine.value_mount, Machine.value_unmount]
    cases Drive.ofNumber? number <;> rfl
  unmount_ok_iff number := by
    rw [Machine.value_unmount, ← exists_ofNumber?_iff]
    cases Drive.ofNumber? number <;> simp
  unmount_invalidDrive_iff number := by
    rw [Machine.value_unmount, ← Drive.ofNumber?_eq_none_iff]
    cases Drive.ofNumber? number <;> simp
  mount_refused number name _ := (mounting hvolumes host number name).eq_of_refused
  unmount_refused number refusal := by
    rw [Machine.value_unmount]
    cases Drive.ofNumber? number <;> simp
  mount_other number name _ := (mounting hvolumes host number name).get_of_other
  unmount_other number drive hother := by
    rw [Machine.value_unmount]
    cases hdrive : Drive.ofNumber? number with
    | none => rfl
    | some unmounted =>
      have hnumber := ofNumber?_eq_some_iff.1 hdrive
      rw [get_withDrive, if_neg]
      rintro rfl
      exact hother hnumber.symm
  perform_other _ hmount hunmount hdialog :=
    drives_perform_of_other hmount hunmount hdialog machine host

/-! ## Whole runs -/

/-- Each drive holds what the last change in the history left in it.  The machine goes by its
configuration, because the path of a disk is made of the configured directory and the name. -/
structure HoldsLast (config : Config) (machine : Machine) (past : List Moment) : Prop where
  configured : machine.Configured config
  get : ∀ drive, machine.controller.drives.get drive =
    lastImage (past.filterMap (driveChange? config.volumesDirectory)) drive

variable {config : Config} {past : List Moment}

/-- A moment that changes no drive adds nothing. -/
theorem HoldsLast.of_no_change (h : HoldsLast config machine past) {after : Machine}
    (hconfigured : after.Configured config) {moment : Moment}
    (hnone : driveChange? config.volumesDirectory moment = none)
    (hdrives : after.controller.drives = machine.controller.drives) :
    HoldsLast config after (past ++ [moment]) := by
  refine ⟨hconfigured, ?_⟩
  intro drive
  rw [hdrives, h.get, List.filterMap_append, List.filterMap_cons_none hnone, List.filterMap_nil,
    List.append_nil]

theorem HoldsLast.of_change (h : HoldsLast config machine past) {after : Machine}
    (hconfigured : after.Configured config) {moment : Moment} {drive : Drive}
    {image : Option Path}
    (hsome : driveChange? config.volumesDirectory moment = some ⟨drive, image⟩)
    (hafter : after.controller.drives = machine.controller.drives.set drive image) :
    HoldsLast config after (past ++ [moment]) := by
  refine ⟨hconfigured, ?_⟩
  intro other
  rw [hafter, Drives.get_set, h.get, List.filterMap_append, List.filterMap_cons_some hsome,
    List.filterMap_nil, lastImage_append_singleton]

theorem HoldsLast.mount (h : HoldsLast config machine past) (host : Host) (number : Nat)
    (name : String) :
    HoldsLast config (machine.mount host number name).value.2
      (past ++ [⟨machine, host, .mount number name⟩]) := by
  have hconfigured := h.configured.perform host (.mount number name)
  have hcases := mounting h.configured.volumes host number name
  have hchange : driveChange? config.volumesDirectory ⟨machine, host, .mount number name⟩ =
      (machine.mount host number name).value.1.toOption.bind fun _ =>
        (Drive.ofNumber? number).map
          (⟨·, if name = "" then none else some (diskPath config.volumesDirectory name)⟩) := by
    simp only [driveChange?, Machine.perform, Logged.value_bind, Logged.value_pure]
    rcases (machine.mount host number name).value.1 with _ | _ <;> rfl
  have hperform : (machine.perform host (.mount number name)).value.2.1 =
      (machine.mount host number name).value.2 := rfl
  rw [hperform] at hconfigured
  generalize (machine.mount host number name).value = ended at hcases hchange hconfigured
  cases hcases with
  | noDrive | notBare | noFile => exact h.of_no_change hconfigured hchange rfl
  | emptied drive numbered empty =>
    refine h.of_change hconfigured (hchange.trans ?_) rfl
    simp [numbered, empty, Except.toOption]
  | mounted drive numbered bare there =>
    refine h.of_change hconfigured (hchange.trans ?_) rfl
    simp [numbered, ne_empty_of_isBare bare, Except.toOption]

theorem HoldsLast.unmount (h : HoldsLast config machine past) (host : Host) (number : Nat) :
    HoldsLast config (machine.unmount number).value.2
      (past ++ [⟨machine, host, .unmount number⟩]) := by
  have hconfigured := h.configured.perform host (.unmount number)
  have hperform : (machine.perform host (.unmount number)).value.2.1 =
      (machine.unmount number).value.2 := rfl
  have hchange : driveChange? config.volumesDirectory ⟨machine, host, .unmount number⟩ =
      (Drive.ofNumber? number).map (⟨·, none⟩) := by
    cases hdrive : Drive.ofNumber? number
    all_goals
      simp only [driveChange?, Machine.perform, Logged.value_bind, Logged.value_pure,
        Machine.value_unmount, hdrive, Option.map_none, Option.map_some]
  rw [hperform, Machine.value_unmount] at hconfigured
  rw [Machine.value_unmount]
  cases hdrive : Drive.ofNumber? number with
  | none =>
    rw [hdrive] at hconfigured hchange
    exact h.of_no_change hconfigured hchange rfl
  | some drive =>
    rw [hdrive] at hconfigured hchange
    exact h.of_change hconfigured hchange rfl

theorem isKept_holdsLast (config : Config) :
    Machine.IsKept fun machine _ past => HoldsLast config machine past := by
  constructor
  · intro machine host past h console
    exact ⟨⟨h.configured.volumes, h.configured.config⟩, h.get⟩
  · intro machine host past h operation hplain
    by_cases hmount : ∃ number name, operation = .mount number name
    · obtain ⟨number, name, rfl⟩ := hmount
      exact h.mount host number name
    · by_cases hunmount : ∃ number, operation = .unmount number
      · obtain ⟨number, rfl⟩ := hunmount
        exact h.unmount host number
      · have hnoMount : ∀ number name, operation ≠ .mount number name :=
          fun number name heq => hmount ⟨number, name, heq⟩
        have hnoUnmount : ∀ number, operation ≠ .unmount number :=
          fun number heq => hunmount ⟨number, heq⟩
        have hnone : driveChange? config.volumesDirectory ⟨machine, host, operation⟩ = none := by
          cases operation with
          | mount number name => exact absurd rfl (hnoMount number name)
          | unmount number => exact absurd rfl (hnoUnmount number)
          | _ => rfl
        exact h.of_no_change (h.configured.perform host operation) hnone
          (drives_perform_of_other hnoMount hnoUnmount hplain machine host)

/-- After any run of a machine that was built, with any changes of the host by others, each drive
holds the disk of the last request on it that succeeded, or nothing if that request emptied it or
there was none.  The host is not asked again: a drive keeps a disk whose image has been removed
since.  Whatever was reached, the machine mounts and unmounts by the rules. -/
theorem drives_after {line : Console.Line} {host start : Host} {machine : Machine}
    (hbuild : (Machine.build config line host).value = (.ok machine, start)) {steps : List Step}
    {reached : Machine} {now : Host} (hrun : machine.after start steps = (reached, now)) :
    (∀ drive, reached.controller.drives.get drive =
      lastImage ((machine.history start steps).filterMap
        (driveChange? config.volumesDirectory)) drive) ∧
      MountRules config.volumesDirectory reached now := by
  have hconfigured := Machine.configured_of_build hbuild
  have hempty : HoldsLast config machine [] := by
    obtain ⟨working, memory, -, -, rfl⟩ := Machine.exists_layOut_of_build hbuild
    refine ⟨hconfigured, ?_⟩
    intro drive
    cases drive <;> rfl
  have hafter := @Machine.IsKept.after _ machine start [] (isKept_holdsLast config)
    (fun h _ => h) hempty steps
  rw [hrun, List.nil_append] at hafter
  exact ⟨hafter.get, mountRules hafter.configured.volumes now⟩

/-- A host with one disk. -/
def diskHost : Host :=
  .ofContents [(["DISKS80", "A.DSK"], .regular 0), (["DISKS80"], .directory)] [.empty]

/-- A configuration with four bytes of each storage. -/
def diskConfig : Config := { programSize := 4, workingSize := 4 }

/-- A machine of that configuration as it is built. -/
def diskMachine : Machine := .small diskConfig {}

/-- The disk is mounted in both drives and vanishes.  Then one drive is asked to take another disk,
which is refused, and the other is emptied. -/
def vanishingSteps : List Step :=
  [.operation (.mount 0 "A"), .operation (.mount 1 "A"), .outside {}, .operation (.mount 0 "B"),
    .operation (.mount 0 "A"), .operation (.mount 1 ""), .operation (.unmount 2)]

theorem drives_after_vanishing :
    (Machine.build diskConfig {} diskHost).value = (.ok diskMachine, diskHost) ∧
      (diskMachine.after diskHost vanishingSteps).1.controller.drives.get .first =
        some ⟨"DISKS80/A.DSK"⟩ ∧
      (diskMachine.after diskHost vanishingSteps).1.controller.drives.get .second = none := by
  have hbuild : (Machine.build diskConfig {} diskHost).value = (.ok diskMachine, diskHost) := rfl
  have hrun : diskMachine.after diskHost vanishingSteps =
      ((diskMachine.after diskHost vanishingSteps).1,
        (diskMachine.after diskHost vanishingSteps).2) := rfl
  have hafter := (drives_after hbuild hrun).1
  exact ⟨hbuild, (hafter .first).trans (by decide +kernel),
    (hafter .second).trans (by decide +kernel)⟩

end Disk

end Backplane
