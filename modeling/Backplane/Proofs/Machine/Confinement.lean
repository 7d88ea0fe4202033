import Backplane.Host.Changes
import Backplane.Proofs.Disk.Drives
import Backplane.Proofs.Disk.SectorArray
import Backplane.Proofs.Machine.ProgramStorage
import Backplane.Proofs.Store.Persistence

/-!
# Files a machine can reach

A machine touches few of the host's files: the image of working storage, if it has one, and the
disk images that it writes sectors to.  The second kind is found in the history.  `writtenImages`
lists the paths that were in the addressed drive whenever a transfer to an image ended well.
`Confined` says that all other files are what they were before the machine was built, that nothing
was removed, and that nothing was made but the image of working storage.

Which paths can be in a drive at all is a matter of names.  `Disk.NamesDisks` is the invariant of
every run: a drive holds only paths of bare names in the volumes directory.

## Hypotheses

Hosts have no symbolic links (`Backplane.Host.Tree`), so a bare name in a directory leads to a
place in that directory or nowhere.  Whoever owns the host can put a link to some other file under
such a name, and a machine would follow it; nothing here says otherwise.  Hard links are covered,
because what counts is the file and not the path: a file that is written to under one name has
changed under all of them.

## From before the machine was built

Building a machine may make one file, the image of its working storage, and may make it longer.  So
the run is counted from the host on which the machine was built, and `Confined.made` says that
whatever is there afterwards under some path was there before, or is that image.  A path that leads
to a new image leads nowhere else: it is a file of its own, and no other path has led to it.

A dialog reaches files only by what it asks for, and the images that it writes to are among those of
its history.
-/

namespace Backplane

namespace Disk

variable {config : Config} {machine : Machine} {host : Host}

/-! ## Drives hold named disks -/

/-- Every disk in a drive has the path of a bare name.  This is the invariant that keeps a machine
within its directories: a path that is in a drive was put together from the configured directory and
a bare name, and was checked for that when the disk was mounted. -/
structure NamesDisks (config : Config) (machine : Machine) : Prop where
  configured : machine.Configured config
  named : ∀ drive path, machine.controller.drives.get drive = some path →
    ∃ name, Name.IsBare name ∧ path = diskPath config.volumesDirectory name

theorem NamesDisks.withDrive (h : NamesDisks config machine) (drive : Drive) {image : Option Path}
    (himage : ∀ path, image = some path →
      ∃ name, Name.IsBare name ∧ path = diskPath config.volumesDirectory name) :
    NamesDisks config (machine.withDrive drive image) := by
  refine ⟨⟨h.configured.volumes, h.configured.config⟩, ?_⟩
  intro other path hget
  rw [get_withDrive] at hget
  split at hget
  · exact himage path hget
  · exact h.named other path hget

theorem isKept_namesDisks (config : Config) :
    Machine.IsKept fun machine _ _ => NamesDisks config machine := by
  constructor
  · exact fun h _ => ⟨⟨h.configured.volumes, h.configured.config⟩, h.named⟩
  · intro machine host past h operation hplain
    by_cases hmount : ∃ number name, operation = .mount number name
    · -- A disk is mounted under the name of one, or no drive has changed but for being emptied.
      obtain ⟨number, name, rfl⟩ := hmount
      have hcases := mounting h.configured.volumes host number name
      show NamesDisks config (machine.mount host number name).value.2
      generalize (machine.mount host number name).value = ended at hcases
      cases hcases with
      | noDrive | notBare | noFile => exact h
      | emptied drive numbered empty => exact h.withDrive drive (by simp)
      | mounted drive numbered bare there =>
        refine h.withDrive drive ?_
        rintro path ⟨⟩
        exact ⟨name, bare, rfl⟩
    · by_cases hunmount : ∃ number, operation = .unmount number
      · -- A drive is emptied.
        obtain ⟨number, rfl⟩ := hunmount
        show NamesDisks config (machine.unmount number).value.2
        rw [Machine.value_unmount]
        cases Drive.ofNumber? number with
        | none => exact h
        | some drive => exact h.withDrive drive (by simp)
      · -- Nothing else changes a drive.
        have hsame := drives_perform_of_other (fun number name heq => hmount ⟨number, name, heq⟩)
          (fun number heq => hunmount ⟨number, heq⟩) hplain machine host
        refine ⟨h.configured.perform host operation, ?_⟩
        rw [hsame]
        exact h.named

theorem NamesDisks.perform (h : NamesDisks config machine) (host : Host) (operation : Operation) :
    NamesDisks config (machine.perform host operation).value.2.1 :=
  @Machine.IsKept.operate _ _ host [] (isKept_namesDisks config) h operation

theorem NamesDisks.after (h : NamesDisks config machine) (host : Host) (steps : List Step) :
    NamesDisks config (machine.after host steps).1 :=
  @Machine.IsKept.after _ _ host [] (isKept_namesDisks config) (fun h _ => h) h steps

/-! ## Files that a run touches -/

/-- The image that an operation writes a sector to: the one in the addressed drive, when a transfer
to it ends well. -/
def writtenImage? (moment : Moment) : Option Path :=
  match asksFor? moment.machine moment.operation with
  | some (.write, number) =>
    if (moment.machine.perform moment.host moment.operation).value.2.1.controller.status = .ok then
      moment.machine.controller.image? number
    else none
  | _ => none

/-- The images that operations in a row write sectors to. -/
def writtenImages (machine : Machine) (host : Host) (operations : List Operation) : List Path :=
  (machine.momentsOf host operations).filterMap writtenImage?

theorem writtenImages_cons (operation : Operation) (rest : List Operation) :
    writtenImages machine host (operation :: rest) =
      (writtenImage? ⟨machine, host, operation⟩).toList ++
        writtenImages (machine.perform host operation).value.2.1
          (machine.perform host operation).value.2.2 rest := by
  rw [writtenImages, Machine.momentsOf, List.filterMap_cons]
  cases writtenImage? ⟨machine, host, operation⟩ <;> rfl

/-- What is written to is in a drive. -/
theorem NamesDisks.exists_name_of_written (h : NamesDisks config machine)
    {operations : List Operation} {image : Path}
    (himage : image ∈ writtenImages machine host operations) :
    ∃ name, Name.IsBare name ∧ image = diskPath config.volumesDirectory name := by
  induction operations generalizing machine host with
  | nil => exact absurd himage (by simp [writtenImages, Machine.momentsOf])
  | cons operation rest ih =>
    rw [writtenImages_cons, List.mem_append, Option.mem_toList] at himage
    rcases himage with hfirst | hrest
    · unfold writtenImage? at hfirst
      split at hfirst
      · split at hfirst
        · obtain ⟨drive, -, hget⟩ := Option.bind_eq_some_iff.1 hfirst
          exact h.named drive image hget
        · exact absurd hfirst (by simp)
      · exact absurd hfirst (by simp)
    · exact ih (h.perform host operation) hrest

theorem exists_writtenImage?_of_completed {operation : Operation} {file : Nat}
    {descriptor : Descriptor}
    (h : completed? machine host operation = some ⟨.write, file, descriptor⟩) :
    ∃ path, writtenImage? ⟨machine, host, operation⟩ = some path ∧
      host.find path = .ok (.regular file) := by
  obtain ⟨number, address, path, bytes, hasks, -, hpath, hfind, -, -, hok⟩ :=
    completed?_eq_some_iff.1 h
  exact ⟨path, by simp only [writtenImage?, hasks, hok, if_true, hpath], hfind⟩

/-- Operations in a row touch the file behind working storage, and the images that they write
sectors to. -/
theorem agree_performAll (hprogram : machine.memory.program.file? = none)
    (operations : List Operation) :
    Host.Agree (fun index => machine.memory.working.file? = some index ∨
        ∃ image ∈ writtenImages machine host operations, host.find image = .ok (.regular index))
      host (machine.performAll host operations).2 := by
  induction operations generalizing machine host with
  | nil => exact Host.Agree.refl _ _
  | cons operation rest ih =>
    have hdevices := machine.sameDevices_perform host operation
    have hfirst := agree_perform machine host operation
    have hrest := @ih (machine.perform host operation).value.2.1
      (machine.perform host operation).value.2.2 (hdevices.program.file?.trans hprogram)
    rw [writtenImages_cons]
    refine (hfirst.mono ?_).trans (hrest.mono ?_)
    · rintro index (hfile | hfile | ⟨descriptor, hwritten⟩)
      · exact absurd (hprogram.symm.trans hfile) (by simp)
      · exact .inl hfile
      · obtain ⟨path, hpath, hfind⟩ := exists_writtenImage?_of_completed hwritten
        exact .inr ⟨path, List.mem_append_left _ (by simp [hpath]), hfind⟩
    · rintro index (hfile | ⟨image, hmem, hfind⟩)
      · exact .inl (hdevices.working.file?.symm.trans hfile)
      · rw [hfirst.find] at hfind
        exact .inr ⟨image, List.mem_append_right _ hmem, hfind⟩

end Disk

namespace Machine

open Disk

variable {config : Config} {host start : Host}

/-! ## Opening working storage -/

theorem find_openWorking_of_find {path : Path} {node : Node} (hfind : host.find path = .ok node) :
    (openWorking config host).value.2.find path = .ok node := by
  cases hpersistent : config.persistentPath with
  | none =>
    rw [value_openWorking_of_no_path hpersistent]
    exact hfind
  | some image =>
    rw [value_openWorking_of_path hpersistent]
    exact Store.find_openPersistent_of_find image _ hfind

/-- Opening working storage makes at most the image that is configured for it. -/
theorem find_of_find_openWorking {path : Path} {node : Node}
    (hfind : (openWorking config host).value.2.find path = .ok node) :
    host.find path = .ok node ∨
      ∃ image, config.persistentPath = some image ∧ host.find image = .error .notFound ∧
        node = .regular host.files.size ∧
        (openWorking config host).value.2.find image = .ok node := by
  cases hpersistent : config.persistentPath with
  | none =>
    rw [value_openWorking_of_no_path hpersistent] at hfind
    exact .inl hfind
  | some image =>
    rw [value_openWorking_of_path hpersistent] at hfind ⊢
    rcases Store.find_of_find_openPersistent hfind with hbefore | ⟨hmissing, hnode, hmade⟩
    · exact .inl hbefore
    · exact .inr ⟨image, rfl, hmissing, hnode, hmade⟩

/-- Building a machine removes nothing. -/
theorem find_build_of_find (line : Console.Line) {path : Path} {node : Node}
    (hfind : host.find path = .ok node) : (build config line host).value.2.find path = .ok node :=
  host_build (fun after => after.find path = .ok node) hfind
    (find_openWorking_of_find hfind) line

/-! ## Confinement -/

/-- What a run may have done to the host's files, given the images that it wrote sectors to.  Files
are told apart by their numbers and not by their paths, so a file with two paths is one file
here. -/
structure Confined (config : Config) (written : List Path) (before after : Host) : Prop where
  /-- What was there under a path is there still. -/
  kept : ∀ path node, before.find path = .ok node → after.find path = .ok node
  /-- Nothing was made but the image of working storage, and that is a file of its own. -/
  made : ∀ path node, after.find path = .ok node → before.find path = .ok node ∨
    ∃ image, config.persistentPath = some image ∧ before.find image = .error .notFound ∧
      after.find image = .ok node ∧ ∀ other, before.find other ≠ .ok node
  /-- A file that is neither that image nor one of those written to holds the same bytes. -/
  contents : ∀ path file, before.find path = .ok (.regular file) →
    (∀ image, config.persistentPath = some image → before.find image ≠ .ok (.regular file)) →
    (∀ image ∈ written, before.find image ≠ .ok (.regular file)) →
      after.contents? path = before.contents? path
  /-- Only disks of bare names were written to. -/
  written : ∀ image ∈ written, ∃ name, Name.IsBare name ∧
    image = diskPath config.volumesDirectory name

/-- Where names lead in a state of a machine: those that are in the drives, and those that a load
would succeed for.  Both are bare names, and the files they stand for lie one step below the
configured directories. -/
structure NamesInside (config : Config) (machine : Machine) (host : Host) : Prop where
  /-- A drive holds the path of a bare name, and the file it leads to lies in the volumes
  directory. -/
  disks : ∀ drive path, machine.controller.drives.get drive = some path →
    ∃ name, Name.IsBare name ∧ path = diskPath config.volumesDirectory name ∧
      ∀ place, host.locate path = .ok place →
        host.IsPlaceIn config.volumesDirectory (name ++ ".DSK") place
  /-- A name that can be loaded is a bare name, and what is loaded is the content of a file in the
  programs directory. -/
  programs : ∀ name length, (machine.loadProgram host name).value.1 = .ok length →
    Name.IsBare name ∧ ∃ place file,
      host.IsPlaceIn config.programsDirectory (name ++ ".BIN") place ∧
        host.node? place = some (.regular file) ∧
        (machine.loadProgram host name).value.2.1.memory =
          (machine.memory.loadProgram host (host.content file).toList).2.1

variable {line : Console.Line} {machine : Machine}

/-- A machine is built with empty drives. -/
theorem namesDisks_of_build (hbuild : (build config line host).value = (.ok machine, start)) :
    NamesDisks config machine := by
  obtain ⟨working, memory, -, -, rfl⟩ := exists_layOut_of_build hbuild
  refine ⟨⟨rfl, rfl⟩, ?_⟩
  intro drive path hget
  cases drive <;> exact absurd hget (by simp [ofMemory, Drives.get])

/-- Building reaches no file but the image of working storage, and keeps working storage in no
other. -/
theorem confined_build (hsound : host.Sound)
    (hbuild : (build config line host).value = (.ok machine, start)) :
    Confined config [] host start ∧
      ∀ path file, host.find path = .ok (.regular file) →
        (∀ image, config.persistentPath = some image →
          host.find image ≠ .ok (.regular file)) →
        machine.memory.working.file? ≠ some file := by
  obtain ⟨working, memory, hopen, hlayout, rfl⟩ := exists_layOut_of_build hbuild
  have hstart : (openWorking config host).value.2 = start := by
    rw [hopen]
  have hspares {path : Path} {file : Nat} (hfind : host.find path = .ok (.regular file))
      (himage : ∀ image, config.persistentPath = some image →
        host.find image ≠ .ok (.regular file)) :=
    spares_openWorking hsound (hsound.lt_of_find hfind) himage
  refine ⟨⟨?_, ?_, ?_, by simp⟩, ?_⟩
  · -- What paths found they find still.
    intro path node hfind
    rw [← hstart]
    exact find_openWorking_of_find hfind
  · -- What is new is the image.
    intro path node hfind
    rw [← hstart] at hfind ⊢
    rcases find_of_find_openWorking hfind with hbefore | ⟨image, himage, hmissing, rfl, hmade⟩
    · exact .inl hbefore
    · refine .inr ⟨image, himage, hmissing, hmade, ?_⟩
      intro other hother
      exact Nat.lt_irrefl _ (hsound.lt_of_find hother)
  · -- Every other file has its bytes.
    intro path file hfind himage _
    have hafter : (openWorking config host).value.2.find path = .ok (.regular file) :=
      find_openWorking_of_find hfind
    have hcontent := (hspares hfind himage).1.content
    rw [hstart] at hafter hcontent
    simp only [Host.contents?, hafter, hfind, hcontent]
  · -- Working storage is kept in the image, if in a file at all.
    intro path file hfind himage
    obtain ⟨-, rfl, -⟩ := Memory.stores_of_layOut hlayout
    exact ((hspares hfind himage).2 memory.working (by rw [hopen])).2.2

theorem findProgram_eq_ok {name : String} {path : Path} {image : Content}
    (h : machine.findProgram host name = .ok (path, image)) :
    Name.resolve? machine.config.programsDirectory name Name.programExtension = some path ∧
      ∃ file, host.find path = .ok (.regular file) ∧ image = host.content file := by
  unfold findProgram at h
  split at h
  · exact absurd h (by simp)
  · rename_i found hresolve
    split at h
    · rename_i file hfind
      cases hread : host.readAll file with
      | error fault => simp [hread] at h
      | ok content =>
        obtain ⟨rfl, rfl⟩ : found = path ∧ content = image := by simpa [hread] using h
        exact ⟨hresolve, file, hfind, Host.eq_content_of_readAll hread⟩
    · exact absurd h (by simp)

/-- Bare names lead nowhere but into the two directories. -/
theorem namesInside (h : NamesDisks config machine) (host : Host) :
    NamesInside config machine host := by
  constructor
  · intro drive path hget
    obtain ⟨name, hbare, rfl⟩ := h.named drive path hget
    refine ⟨name, hbare, rfl, ?_⟩
    intro place hlocate
    rw [← disk_fileName]
    exact (Name.isPlaceIn_of_resolve? (by decide) (resolve?_disk hbare) hlocate).2
  · intro name length hload
    rw [value_loadProgram] at hload ⊢
    cases hprogram : machine.findProgram host name with
    | error refusal => simp [hprogram] at hload
    | ok found =>
      obtain ⟨path, image⟩ := found
      obtain ⟨hresolve, file, hfind, rfl⟩ := findProgram_eq_ok hprogram
      obtain ⟨place, hlocate, hnode⟩ := Host.exists_node?_of_find hfind
      obtain ⟨hbare, hplace⟩ := Name.isPlaceIn_of_resolve? (by decide) hresolve hlocate
      have hname : name ++ "." ++ Name.programExtension = name ++ ".BIN" := by
        rw [String.append_assoc]
        rfl
      rw [hname, h.configured.config] at hplace
      exact ⟨hbare, place, file, hplace, hnode, rfl⟩

/-- No run of a machine reaches a file but the image of its working storage and the disk images
that it writes sectors to, counted from before it was built.  And whatever names it is given, in
any state it reaches, with any changes of the host by others, they lead nowhere but into its two
directories. -/
theorem confined_after (hsound : host.Sound)
    (hbuild : (build config line host).value = (.ok machine, start)) :
    (∀ operations, Confined config (writtenImages machine start operations) host
      (machine.performAll start operations).2) ∧
    ∀ steps reached now, machine.after start steps = (reached, now) →
      NamesInside config reached now := by
  have hempty := namesDisks_of_build hbuild
  constructor
  · -- From the machine on, the operations touch the image and the disks that they write to.
    intro operations
    obtain ⟨hconfined, hworking⟩ := confined_build hsound hbuild
    have hprogram : machine.memory.program.file? = none := by
      obtain ⟨data, hdata, -⟩ := shows_of_build hbuild
      rw [hdata]
      rfl
    have hagree := @agree_performAll machine start hprogram operations
    refine ⟨?_, ?_, ?_, fun image => hempty.exists_name_of_written⟩
    · -- No operation removes a file.
      intro path node hfind
      rw [hagree.find]
      exact hconfined.kept path node hfind
    · -- And none makes one.
      intro path node hfind
      simp only [hagree.find] at hfind ⊢
      exact hconfined.made path node hfind
    · -- A file that is neither the image nor one of these disks has its bytes.
      intro path file hfind himage hwritten
      have hstart := hconfined.kept path _ hfind
      rw [← hconfined.contents path file hfind himage (by simp)]
      have hcontent := hagree.content file ?_
      · simp only [Host.contents?, hagree.find, hstart, hcontent]
      · rintro (hfile | ⟨image, hmem, hto⟩)
        · exact hworking path file hfind himage hfile
        · rcases hconfined.made image _ hto with hbefore | ⟨-, -, -, -, hnew⟩
          · exact hwritten image hmem hbefore
          · exact hnew path hfind
  · -- Its drives hold disks of names, whatever it has been told.
    intro steps reached now hrun
    have hnames := hempty.after start steps
    rw [hrun] at hnames
    exact namesInside hnames now

/-- A host with two disks. -/
def twoDisks : Host :=
  .ofContents [(["D", "A.DSK"], .regular 0), (["D", "B.DSK"], .regular 1), (["D"], .directory)]
    [.zeros 128, .zeros 128]

/-- A configuration with working storage in an image of its own. -/
def imageConfig : Config :=
  { programSize := 0, workingSize := 256, volumesDirectory := ⟨"D"⟩,
    persistentPath := some ⟨"M"⟩ }

/-- A machine of that configuration as it is built on the host with two disks. -/
def imageMachine : Machine :=
  .ofMemory imageConfig (.ofStores (.zeroed 0) (.persistent (.regular 2) ⟨"M"⟩ 256) true) {}

/-- A disk is mounted, and the first sector is written from a descriptor at the bottom of memory. -/
def writingOperations : List Operation :=
  [.mount 0 "A", .write 1 1, .write 2 0x10, .output 4 0x10, .output 4 0, .output 4 0,
    .output 4 0x40]

theorem confined_after_writing :
    twoDisks.Sound ∧
      (build imageConfig {} twoDisks).value =
        (.ok imageMachine, (build imageConfig {} twoDisks).value.2) ∧
      writtenImages imageMachine (build imageConfig {} twoDisks).value.2 writingOperations =
        [⟨"D/A.DSK"⟩] ∧
      (imageMachine.performAll (build imageConfig {} twoDisks).value.2
        writingOperations).2.contents? ⟨"D/B.DSK"⟩ = twoDisks.contents? ⟨"D/B.DSK"⟩ := by
  have hsound : twoDisks.Sound := by decide
  have hbuild : (build imageConfig {} twoDisks).value =
      (.ok imageMachine, (build imageConfig {} twoDisks).value.2) := rfl
  have hwritten : writtenImages imageMachine (build imageConfig {} twoDisks).value.2
      writingOperations = [⟨"D/A.DSK"⟩] := by decide +kernel
  have hconfined := (confined_after hsound hbuild).1 writingOperations
  refine ⟨hsound, hbuild, hwritten, hconfined.contents _ 1 (by decide +kernel) ?_ ?_⟩
  · rintro image ⟨⟩
    decide +kernel
  · intro image hmem
    rw [hwritten, List.mem_singleton] at hmem
    subst hmem
    decide +kernel

end Machine

end Backplane
