import Backplane.Proofs.Machine.Confinement
import Backplane.Proofs.Machine.Persistence
import Backplane.Proofs.Machine.Renumbered

/-!
# Machines are independent

Machines on one host share nothing but its files, and a machine gets at a file only by the paths of
its configuration (`Config.Names`): the image of its working storage, and the disks and programs
that it can be given by name.  As long as no other machine has a path to one of those files, a
machine cannot tell that it is not alone.  In any run of a world, in which machines are built and
operated in any order, it answers as if it had been built and operated alone, and it leaves the
same in its files (`World.independent`).

Alone on the host the file behind working storage may have another number, because fewer files were
made before it, so the two machines are the same up to that number (`Machine.renumber`).  What the
others do changes the host of the world only where the machine's own paths do not lead
(`World.Others.step`), and what the machine itself does is done alike on both hosts
(`Machine.lockstep_renumbered`).

## Hypotheses

Nobody interferes from outside, so the only changes of the host are those of the machines.  And no
path of another machine's configuration may lead to a file that one of its own paths leads to, in
the end of the run; it may name the same directories if no file is found in them.  Machines may be
built before and after.

It is enough to ask this of the end, because nothing is ever removed and no path ever leads
elsewhere than before.  Which paths a configuration has is a matter of its directories and of bare
names, so the condition does not depend on what the machines do.

## How the proof goes

Two worlds are run side by side: the one with all machines, and the host on which the machine is
alone.  The invariant is `Alongside`.  An action of the machine itself is carried out on both, and
keeps it because the two are in lockstep; an action of others is carried out on the first alone, and
keeps it because it changes nothing that the machine's paths show.
-/

namespace Backplane

/-- The paths that a machine of a configuration can ever use.  There is one for the image of working
storage, if it has one, and one for each bare name in each of the two directories. -/
inductive Config.Names (config : Config) : Path → Prop
  /-- The image of working storage. -/
  | image {path : Path} (persistent : config.persistentPath = some path) : config.Names path
  /-- The disk of a bare name. -/
  | disk {name : String} (bare : Name.IsBare name) :
    config.Names (Disk.diskPath config.volumesDirectory name)
  /-- The program of a bare name. -/
  | program {name : String} (bare : Name.IsBare name) :
    config.Names (config.programsDirectory.child (name ++ ".BIN"))

theorem Name.resolve?_program (directory : Path) {name : String} (h : Name.IsBare name) :
    Name.resolve? directory name Name.programExtension =
      some (directory.child (name ++ ".BIN")) := by
  rw [Name.resolve?_eq_some_iff, String.append_assoc]
  exact ⟨h, rfl⟩

/-- No name leads anywhere else. -/
theorem Config.allows_names (config : Config) (operation : Operation) :
    config.Allows config.Names operation := by
  intro path hpath
  cases operation with
  | mount number name =>
    obtain ⟨hbare, rfl⟩ := Name.resolve?_eq_some_iff.1 hpath
    rw [Disk.disk_fileName]
    exact .disk hbare
  | loadProgram name =>
    obtain ⟨hbare, rfl⟩ := Name.resolve?_eq_some_iff.1 hpath
    rw [String.append_assoc]
    exact .program hbare
  | _ => exact absurd hpath (by simp [Config.pathOf?])

/-! ## Files of others -/

/-- There is no file that paths of both kinds lead to. -/
def Host.Apart (host : Host) (paths others : Path → Prop) : Prop :=
  ∀ file, host.Reaches paths file → ¬ host.Reaches others file

/-- Where nothing is removed, what is apart in the end was apart before. -/
theorem Host.Apart.of_kept {host after : Host} {paths others : Path → Prop}
    (h : after.Apart paths others)
    (hkept : ∀ path node, host.find path = .ok node → after.find path = .ok node) :
    host.Apart paths others :=
  fun file hpaths hothers => h file (hpaths.kept hkept) (hothers.kept hkept)

/-- The files of a directory. -/
def Host.filesIn (host : Host) (directory : Path) : List Nat :=
  match host.walk (startOf directory) directory.components with
  | .error _ => []
  | .ok there =>
    host.entries.filterMap fun entry =>
      match entry.2 with
      | .regular file => if entry.1.dropLast = there then some file else none
      | _ => none

/-- The files that a machine of a configuration can use: the image of its working storage and those
of its two directories. -/
def Config.filesOn (config : Config) (host : Host) : List Nat :=
  (config.persistentPath.bind (Disk.fileAt? host)).toList ++
    (host.filesIn config.volumesDirectory ++ host.filesIn config.programsDirectory)

theorem Host.mem_filesIn {host : Host} {directory path : Path} {name extension : String}
    {file : Nat} (hextension : '/' ∉ extension.toList)
    (hresolve : Name.resolve? directory name extension = some path)
    (hfind : host.find path = .ok (.regular file)) : file ∈ host.filesIn directory := by
  obtain ⟨place, hlocate, hnode⟩ := Host.exists_node?_of_find hfind
  obtain ⟨-, there, hthere, -, rfl⟩ := Name.isPlaceIn_of_resolve? hextension hresolve hlocate
  rw [filesIn, hthere]
  refine List.mem_filterMap.2 ⟨_, Host.mem_entries_of_node? hnode, ?_⟩
  simp

/-- No path of a configuration leads to any other file. -/
theorem Config.mem_filesOn {config : Config} {host : Host} {file : Nat}
    (h : host.Reaches config.Names file) : file ∈ config.filesOn host := by
  obtain ⟨path, hpath, hfind⟩ := h
  rw [filesOn, List.mem_append, List.mem_append]
  cases hpath with
  | image persistent =>
    left
    rw [persistent, Option.bind_some, Disk.fileAt?_eq_some_iff.2 hfind]
    exact List.mem_singleton_self file
  | disk bare => exact .inr (.inl (Host.mem_filesIn (by decide) (Disk.resolve?_disk bare) hfind))
  | program bare =>
    have hresolve := Name.resolve?_program config.programsDirectory bare
    exact .inr (.inr (Host.mem_filesIn (by decide) hresolve hfind))

/-- Whether machines of two configurations use files in common can be seen from where their files
are. -/
theorem Host.apart_of_filesOn {host : Host} {config other : Config}
    (h : ∀ file ∈ config.filesOn host, file ∉ other.filesOn host) :
    host.Apart config.Names other.Names :=
  fun file hown hother => h file (Config.mem_filesOn hown) (Config.mem_filesOn hother)

namespace Machine

variable {config : Config} {line : Console.Line} {machine : Machine} {host start other : Host}
  {paths : Path → Prop} {ρ : Nat → Nat}

/-- What holds of a machine that was built with a configuration, whatever it has done since. -/
structure Belongs (config : Config) (machine : Machine) (host : Host) : Prop where
  disks : Disk.NamesDisks config machine
  program : machine.memory.program.file? = none
  working : ∀ file, machine.memory.working.file? = some file → host.Reaches config.Names file

theorem Belongs.kept (h : Belongs config machine host)
    (hkept : ∀ path node, host.find path = .ok node → other.find path = .ok node) :
    Belongs config machine other :=
  ⟨h.disks, h.program, fun file hfile => (h.working file hfile).kept hkept⟩

/-- A machine touches only files that its own paths lead to. -/
theorem Belongs.agree_perform (h : Belongs config machine host) (operation : Operation) :
    Host.Agree (host.Reaches config.Names) host (machine.perform host operation).value.2.2 := by
  refine (Disk.agree_performAll h.program [operation]).mono ?_
  rintro file (hfile | ⟨image, hwritten, hfind⟩)
  · exact h.working file hfile
  · obtain ⟨name, hbare, rfl⟩ := h.disks.exists_name_of_written hwritten
    exact ⟨_, .disk hbare, hfind⟩

theorem Belongs.perform (h : Belongs config machine host) (operation : Operation) :
    Belongs config (machine.perform host operation).value.2.1
      (machine.perform host operation).value.2.2 := by
  have hdevices := machine.sameDevices_perform host operation
  refine ⟨h.disks.perform host operation, hdevices.program.file?.trans h.program, ?_⟩
  intro file hfile
  rw [hdevices.working.file?] at hfile
  exact (h.working file hfile).agree (h.agree_perform operation)

theorem belongs_of_build (hsound : host.Sound)
    (h : (build config line host).value = (.ok machine, start)) :
    Belongs config machine start := by
  obtain ⟨working, memory, hopen, hlayout, hmachine⟩ := exists_layOut_of_build h
  obtain ⟨hprogram, rfl, -⟩ := Memory.stores_of_layOut hlayout
  -- The image of working storage is found under the path that the configuration gives.
  obtain ⟨-, -, -, -, hworking⟩ :=
    openWorking_sameFiles (Host.sameFiles_refl hsound config.Names) (fun _ => .image) hopen
  rw [hmachine] at h ⊢
  exact ⟨namesDisks_of_build h, congrArg Store.file? hprogram, hworking⟩

/-- Opening working storage leaves files alone that the paths of its configuration do not lead to.
-/
theorem sameFiles_openWorking (h : Host.SameFiles paths ρ host other)
    (hapart : (openWorking config host).value.2.Apart paths config.Names) :
    Host.SameFiles paths ρ (openWorking config host).value.2 other := by
  have hkept : ∀ path node, host.find path = .ok node →
      (openWorking config host).value.2.find path = .ok node := fun _ _ => find_openWorking_of_find
  obtain ⟨hsound, hlocate, hrefusal, hrules⟩ : (openWorking config host).value.2.Sound ∧
      (∀ path, ((openWorking config host).value.2.locate path).toOption =
        (host.locate path).toOption) ∧
      (∀ file < host.files.size, ∀ access,
        (openWorking config host).value.2.refusal? (.regular file) access =
          host.refusal? (.regular file) access) ∧
      (openWorking config host).value.2.rules = host.rules := by
    cases hpersistent : config.persistentPath with
    | none =>
      rw [value_openWorking_of_no_path hpersistent]
      exact ⟨h.sound, fun _ => rfl, fun _ _ _ => rfl, rfl⟩
    | some image =>
      rw [value_openWorking_of_path hpersistent]
      exact ⟨Store.sound_openPersistent h.sound image config.workingSize,
        Store.toOption_locate_openPersistent host image config.workingSize,
        fun _ => Store.refusal?_openPersistent image config.workingSize,
        Store.rules_openPersistent host image config.workingSize⟩
  refine h.of_first hsound hlocate ?_ ?_ (fun file hfile => hrefusal file (h.lt hfile).1) hrules
  · -- What the paths lead to.
    intro path hpath
    cases hfind : host.find path with
    | ok node => rw [hkept path node hfind]
    | error fault =>
      cases hafter : (openWorking config host).value.2.find path with
      | error fault' => rfl
      | ok node =>
        -- Only the image can be found that was not there before, and its path is no other's.
        rcases find_of_find_openWorking hafter with hbefore | ⟨image, himage, -, rfl, hmade⟩
        · exact absurd (hfind.symm.trans hbefore) (by simp)
        · exact absurd ⟨image, .image himage, hmade⟩ (hapart _ ⟨path, hpath, hafter⟩)
  · -- What is in the files that they lead to: none of them is the image.
    intro file hfile
    refine (Disk.spares_openWorking h.sound (h.lt hfile).1 ?_).1.content
    intro image himage hfind
    exact hapart file (hfile.kept hkept) ⟨image, .image himage, hkept image _ hfind⟩

/-- So does building a machine. -/
theorem sameFiles_build (h : Host.SameFiles paths ρ host other)
    (hapart : (build config line host).value.2.Apart paths config.Names) :
    Host.SameFiles paths ρ (build config line host).value.2 other :=
  host_build (fun after => after.Apart paths config.Names →
    Host.SameFiles paths ρ after other) (fun _ => h) (sameFiles_openWorking h) line hapart

end Machine

namespace World

/-! ## Runs of one machine among others -/

/-- The configurations that machines are built with. -/
def configsOf (actions : List Action) : List Config :=
  actions.filterMap fun action =>
    match action with
    | .build config _ => some config
    | _ => none

/-- What an action asks one of the machines to do, if it does. -/
def asked? (index : Nat) : Action → Option Operation
  | .operate other operation => if other = index then some operation else none
  | _ => none

/-- What one of the machines is asked to do in a run. -/
def operationsOf (index : Nat) (actions : List Action) : List Operation :=
  actions.filterMap (asked? index)

/-- What one of the machines answers to an action, if it is asked. -/
def answer? (world : World) (index : Nat) (action : Action) : Option Answer := do
  let operation ← asked? index action
  let machine ← world.machines[index]?
  return (machine.perform world.host operation).value.1

/-- What one of the machines answers in a run. -/
def answersOf (world : World) (index : Nat) : List Action → List Answer
  | [] => []
  | action :: rest =>
    (world.answer? index action).toList ++ (world.step action).answersOf index rest

/-- An action of others: a machine of another configuration is built, or a machine is operated that
is one of the others. -/
def IsForeign (others : List Config) (foreign : Nat → Prop) : Action → Prop
  | .build config _ => config ∈ others
  | .operate index _ => foreign index
  | .outside _ => False

/-- The others among the machines of a world go by other configurations. -/
def Others (others : List Config) (foreign : Nat → Prop) (world : World) : Prop :=
  ∀ index machine, foreign index → world.machines[index]? = some machine →
    ∃ config ∈ others, Machine.Belongs config machine world.host

variable {world : World} {action : Action} {actions : List Action} {others : List Config}
  {foreign : Nat → Prop} {paths : Path → Prop} {ρ : Nat → Nat} {other : Host} {path : Path}
  {node : Node}

/-- Nothing is removed but from outside. -/
theorem find_step (hinside : ∀ host, action ≠ .outside host)
    (hfind : world.host.find path = .ok node) : (world.step action).host.find path = .ok node := by
  cases action with
  | build config line =>
    rw [host_step_build]
    exact Machine.find_build_of_find line hfind
  | operate index operation =>
    rw [step]
    cases world.machines[index]? with
    | none => exact hfind
    | some machine =>
      exact ((Disk.agree_perform machine world.host operation).find path).trans hfind
  | outside host => exact absurd rfl (hinside host)

theorem find_after (hinside : ∀ host, .outside host ∉ actions) (path : Path) (node : Node)
    (hfind : world.host.find path = .ok node) :
    (world.after actions).host.find path = .ok node := by
  induction actions generalizing world with
  | nil => exact hfind
  | cons action rest ih =>
    apply ih
    · intro host hmem
      exact hinside host (List.mem_cons_of_mem _ hmem)
    · refine find_step ?_ hfind
      rintro host rfl
      exact hinside host List.mem_cons_self

/-! ## What others do -/

/-- What others do leaves the files of some paths alone, if none of their own paths leads to one. -/
theorem Others.sameFiles_step (h : Others others foreign world)
    (hsame : Host.SameFiles paths ρ world.host other) (hforeign : IsForeign others foreign action)
    (hapart : ∀ config ∈ others, (world.step action).host.Apart paths config.Names) :
    Host.SameFiles paths ρ (world.step action).host other := by
  cases action with
  | build config line =>
    have hbuilt := hapart config hforeign
    rw [host_step_build] at hbuilt ⊢
    exact Machine.sameFiles_build hsame hbuilt
  | operate index operation =>
    cases hmachine : world.machines[index]? with
    | none => rwa [step, hmachine]
    | some machine =>
      obtain ⟨config, hmem, hbelongs⟩ := h index machine hforeign hmachine
      have hagree := hbelongs.agree_perform operation
      have hafter := hapart config hmem
      rw [step_operate hmachine] at hafter ⊢
      refine hsame.of_first (hagree.sound hsame.sound) ?_ ?_ ?_ (fun _ _ => hagree.refusal? _)
        hagree.rules
      · intro path
        rw [hagree.locate]
      · intro path _
        rw [hagree.find]
      · -- The machine touches files that its own paths lead to, and those are none of these.
        intro file hfile
        refine hagree.content file fun hreached => ?_
        exact hafter file (hfile.agree hagree) (hreached.agree hagree)
  | outside host => exact hforeign.elim

/-- The others stay what they are, whoever is operated. -/
theorem Others.operate (h : Others others foreign world) (index : Nat) (operation : Operation) :
    Others others foreign (world.step (.operate index operation)) := by
  cases hmachine : world.machines[index]? with
  | none => rwa [step, hmachine]
  | some operated =>
    have hkept : ∀ path node, world.host.find path = .ok node →
        (operated.perform world.host operation).value.2.2.find path = .ok node :=
      fun path node hfind =>
        ((Disk.agree_perform operated world.host operation).find path).trans hfind
    rw [step_operate hmachine]
    intro held machine hforeign hget
    rw [List.getElem?_set] at hget
    split at hget
    · -- The operated machine is one of the others, and goes by the same configuration.
      rename_i heq
      subst heq
      obtain ⟨config, hmem, hbelongs⟩ := h index operated hforeign hmachine
      obtain ⟨-, rfl⟩ : index < world.machines.length ∧
          (operated.perform world.host operation).value.2.1 = machine := by simpa using hget
      exact ⟨config, hmem, hbelongs.perform operation⟩
    · -- Any other machine is the same, and its paths find what they found.
      obtain ⟨config, hmem, hbelongs⟩ := h held machine hforeign hget
      exact ⟨config, hmem, hbelongs.kept hkept⟩

/-- The others stay what they are when a machine is built, and one more may be among them. -/
theorem Others.build (h : Others others foreign world) (hsound : world.host.Sound)
    {config : Config} (hnew : foreign world.machines.length → config ∈ others)
    (line : Console.Line) : Others others foreign (world.step (.build config line)) := by
  have hkept : ∀ path node, world.host.find path = .ok node →
      (Machine.build config line world.host).value.2.find path = .ok node :=
    fun _ _ => Machine.find_build_of_find line
  rw [step]
  rcases hbuild : (Machine.build config line world.host).value with ⟨failure | built, host⟩
  all_goals rw [hbuild] at hkept
  · -- Nothing was built.
    intro held machine hforeign hget
    obtain ⟨config, hmem, hbelongs⟩ := h held machine hforeign hget
    exact ⟨config, hmem, hbelongs.kept hkept⟩
  · -- There is one machine more.
    intro held machine hforeign hget
    dsimp only at hget
    rw [List.getElem?_append] at hget
    split at hget
    · -- One that was there before.
      obtain ⟨config, hmem, hbelongs⟩ := h held machine hforeign hget
      exact ⟨config, hmem, hbelongs.kept hkept⟩
    · -- The new one.
      obtain ⟨hheld, rfl⟩ : held - world.machines.length = 0 ∧ built = machine := by
        simpa [List.getElem?_singleton] using hget
      obtain rfl : held = world.machines.length := by omega
      exact ⟨config, hnew hforeign, Machine.belongs_of_build hsound hbuild⟩

theorem Others.step (h : Others others foreign world) (hsound : world.host.Sound)
    {anyone : Nat → Prop} (hforeign : IsForeign others anyone action) :
    Others others foreign (world.step action) := by
  cases action with
  | build config line => exact h.build hsound (fun _ => hforeign) line
  | operate index operation => exact h.operate index operation
  | outside host => exact hforeign.elim

/-- As long as only others act, the files of some paths stay what they are. -/
theorem Others.after (h : Others others (fun _ => True) world)
    (hsame : Host.SameFiles paths ρ world.host other)
    (hforeign : ∀ action ∈ actions, IsForeign others (fun _ => True) action)
    (hapart : ∀ config ∈ others, (world.after actions).host.Apart paths config.Names) :
    Others others (fun _ => True) (world.after actions) ∧
      Host.SameFiles paths ρ (world.after actions).host other := by
  induction actions generalizing world with
  | nil => exact ⟨h, hsame⟩
  | cons action rest ih =>
    have hfirst := hforeign action List.mem_cons_self
    have hrest : ∀ action ∈ rest, IsForeign others (fun _ => True) action :=
      fun later hmem => hforeign later (List.mem_cons_of_mem _ hmem)
    refine ih (h.step hsame.sound hfirst) ?_ hrest hapart
    refine h.sameFiles_step hsame hfirst fun config hmem => ?_
    exact (hapart config hmem).of_kept (find_after fun host hmem => hrest _ hmem)

/-! ## The machine itself -/

/-- A machine of a world, and the same machine on a host on which it is alone.  The paths of its
configuration lead to the same files on both hosts, up to the numbers of the files, and every other
machine of the world goes by one of the other configurations. -/
structure Alongside (others : List Config) (config : Config) (index : Nat) (ρ : Nat → Nat)
    (world : World) (machine alone : Machine) (host : Host) : Prop where
  here : world.machines[index]? = some machine
  paired : machine.Paired config.Names (Memory.Renumbered config.Names ρ) config config world.host
    alone host
  others : Others others (· ≠ index) world

variable {config : Config} {index : Nat} {machine alone : Machine} {host : Host}

/-- What the machine does, it does alike where it is alone. -/
theorem Alongside.operate (h : Alongside others config index ρ world machine alone host)
    (operation : Operation) :
    (alone.perform host operation).value.1 = (machine.perform world.host operation).value.1 ∧
      Alongside others config index ρ (world.step (.operate index operation))
        (machine.perform world.host operation).value.2.1 (alone.perform host operation).value.2.1
        (alone.perform host operation).value.2.2 := by
  obtain ⟨hanswer, hpaired⟩ := (Machine.lockstep_renumbered config.Names ρ).perform rfl h.paired
    fun request _ => config.allows_names request
  have hothers := h.others.operate index operation
  rw [step_operate h.here] at hothers ⊢
  refine ⟨hanswer, ?_, hpaired, hothers⟩
  obtain ⟨hlt, -⟩ := List.getElem?_eq_some_iff.1 h.here
  simp [hlt]

/-- What others do leaves the machine where and what it is. -/
theorem getElem?_step (hforeign : IsForeign others (· ≠ index) action)
    (h : world.machines[index]? = some machine) :
    (world.step action).machines[index]? = some machine := by
  cases action with
  | build config line =>
    rw [step]
    rcases (Machine.build config line world.host).value with ⟨refusal | built, host⟩
    · -- Nothing was built.
      exact h
    · -- A machine that is built comes last.
      obtain ⟨hlt, -⟩ := List.getElem?_eq_some_iff.1 h
      exact (List.getElem?_append_left hlt).trans h
  | operate operated operation =>
    cases hmachine : world.machines[operated]? with
    | none => rwa [step, hmachine]
    | some found =>
      rw [step_operate hmachine]
      exact (List.getElem?_set_ne hforeign).trans h
  | outside host => exact hforeign.elim

theorem Alongside.undisturbed (h : Alongside others config index ρ world machine alone host)
    (hforeign : IsForeign others (· ≠ index) action)
    (hapart : ∀ other ∈ others, (world.step action).host.Apart config.Names other.Names) :
    Alongside others config index ρ (world.step action) machine alone host := by
  obtain ⟨hconfigured, hdrives, memory, rfl, hrenumbered⟩ := h.paired
  have hsame := h.others.sameFiles_step hrenumbered.hosts hforeign hapart
  have hinside : ∀ host, action ≠ .outside host := by
    rintro host rfl
    exact hforeign
  have hafter := hrenumbered.of_hosts hsame fun _ _ => find_step hinside
  exact ⟨getElem?_step hforeign h.here, ⟨hconfigured, hdrives, memory, rfl, hafter⟩,
    h.others.step hrenumbered.hosts.sound hforeign⟩

/-- The operations of a machine are answered in a run as they are alone, and they leave it the same
machine with the same files. -/
theorem Alongside.after (h : Alongside others config index ρ world machine alone host)
    (hinside : ∀ action ∈ actions, IsForeign others (fun _ => True) action)
    (hapart : ∀ other ∈ others, (world.after actions).host.Apart config.Names other.Names) :
    alone.answersTo host (operationsOf index actions) = world.answersOf index actions ∧
      ∃ reached, Alongside others config index ρ (world.after actions) reached
        (alone.performAll host (operationsOf index actions)).1
        (alone.performAll host (operationsOf index actions)).2 := by
  induction actions generalizing world machine alone host with
  | nil => exact ⟨rfl, machine, h⟩
  | cons action rest ih =>
    have hrest : ∀ action ∈ rest, IsForeign others (fun _ => True) action :=
      fun later hmem => hinside later (List.mem_cons_of_mem _ hmem)
    by_cases hown : ∃ operation, action = .operate index operation
    · -- The machine itself is operated, here and where it is alone.
      obtain ⟨operation, rfl⟩ := hown
      obtain ⟨hanswer, hstep⟩ := h.operate operation
      obtain ⟨hanswers, hafter⟩ := ih hstep hrest hapart
      have hasked : asked? index (.operate index operation) = some operation := if_pos rfl
      have hoperations : operationsOf index (.operate index operation :: rest) =
          operation :: operationsOf index rest := List.filterMap_cons_some hasked
      rw [hoperations]
      refine ⟨?_, hafter⟩
      rw [Machine.answersTo, hanswer, hanswers, answersOf, answer?, hasked, h.here]
      rfl
    · -- Somebody else acts, and where the machine is alone nothing happens.
      have hforeign : IsForeign others (· ≠ index) action := by
        have hfirst := hinside action List.mem_cons_self
        cases action with
        | operate operated operation =>
          rintro rfl
          exact hown ⟨operation, rfl⟩
        | _ => exact hfirst
      have hasked : asked? index action = none := by
        cases action with
        | operate operated operation => exact if_neg hforeign
        | _ => rfl
      have hoperations : operationsOf index (action :: rest) = operationsOf index rest :=
        List.filterMap_cons_none hasked
      have hstep := h.undisturbed hforeign fun other hmem =>
        (hapart other hmem).of_kept (find_after fun host hmem => hrest _ hmem)
      obtain ⟨hanswers, hafter⟩ := ih hstep hrest hapart
      rw [hoperations]
      refine ⟨?_, hafter⟩
      rw [hanswers, answersOf, answer?, hasked]
      rfl

/-- A machine cannot tell whether it is alone on its host.  In any run in which nobody interferes
from outside, whatever other machines are built and in whatever order all of them are operated, as
long as no path of the others leads to one of its files, it answers as if it had been built and
operated alone, it ends up as the same machine with the same console, and it leaves the same in all
its files.

Nothing is ever removed and no path ever leads elsewhere than before, so it is enough to look at the
paths in the end. -/
theorem independent {start : Host} (hsound : start.Sound) {before later : List Action}
    {line : Console.Line} {final : World} (hinside : ∀ host, .outside host ∉ before ++ later)
    (hbefore : World.after { host := start } before = world)
    (hindex : world.machines.length = index)
    (hbuild : (Machine.build config line world.host).value.1 = .ok machine)
    (hfinal : world.after (.build config line :: later) = final)
    (hapart : ∀ other ∈ configsOf (before ++ later), final.host.Apart config.Names other.Names) :
    ∃ alone begun ρ reached,
      (Machine.build config line start).value = (.ok alone, begun) ∧
      alone.answersTo begun (operationsOf index later) =
        (world.step (.build config line)).answersOf index later ∧
      final.machines[index]? = some reached ∧
      (alone.performAll begun (operationsOf index later)).1 = reached.renumber ρ ∧
      Host.SameFiles config.Names ρ final.host
        (alone.performAll begun (operationsOf index later)).2 ∧
      ∀ path, config.Names path →
        (alone.performAll begun (operationsOf index later)).2.contents? path =
          final.host.contents? path := by
  subst hindex
  have hforeign : ∀ action ∈ before ++ later,
      IsForeign (configsOf (before ++ later)) (fun _ => True) action := by
    intro action hmem
    cases action with
    | build config line => exact List.mem_filterMap.2 ⟨_, hmem, rfl⟩
    | operate index operation => trivial
    | outside host => exact hinside host hmem
  have hbuilt : (Machine.build config line world.host).value =
      (.ok machine, (Machine.build config line world.host).value.2) := Prod.ext hbuild rfl
  have hstep : world.step (.build config line) =
      { host := (Machine.build config line world.host).value.2,
        machines := world.machines ++ [machine] } := by
    rw [step, hbuilt]
  -- Until the machine is built, only others act.
  have hkept : ∀ path node, world.host.find path = .ok node → final.host.find path = .ok node := by
    rw [← hfinal]
    refine find_after fun host hmem => ?_
    rcases List.mem_cons.1 hmem with heq | hmem
    · exact absurd heq (by simp)
    · exact hinside host (List.mem_append_right _ hmem)
  obtain ⟨hothers, hsame⟩ : Others (configsOf (before ++ later)) (fun _ => True) world ∧
      Host.SameFiles config.Names id world.host start := by
    rw [← hbefore] at hkept ⊢
    refine Others.after ?_ (Host.sameFiles_refl hsound config.Names)
      (fun action hmem => hforeign action (List.mem_append_left _ hmem))
      (fun other hmem => (hapart other hmem).of_kept hkept)
    intro index machine _ hget
    exact absurd hget (by simp)
  -- From then on it acts on both hosts, and the others on one.
  obtain ⟨ρ, begun, halone, hpaired⟩ := Machine.build_sameFiles hsame (fun _ => .image) hbuilt
  have hbegun : Alongside (configsOf (before ++ later)) config world.machines.length ρ
      (world.step (.build config line)) machine (machine.renumber ρ) begun := by
    refine ⟨?_, ?_, ?_⟩
    · rw [hstep]
      exact List.getElem?_concat_length
    · rw [hstep]
      exact hpaired
    · exact Others.build (fun index machine _ => hothers index machine trivial) hsame.sound
        (fun hne => absurd rfl hne) line
  obtain ⟨hanswers, reached, hreached⟩ := hbegun.after
    (fun action hmem => hforeign action (List.mem_append_right _ hmem))
    (fun other hmem => by
      rw [show (world.step (.build config line)).after later = final from hfinal]
      exact hapart other hmem)
  rw [show (world.step (.build config line)).after later = final from hfinal] at hreached
  -- What is left are two machines that differ in the numbers of their files.
  obtain ⟨memory, hrenumbered, hmemory⟩ := hreached.paired.twin
  refine ⟨_, begun, ρ, reached, halone, hanswers, hreached.here, ?_, hmemory.hosts,
    fun path hpath => hmemory.hosts.contents? hpath⟩
  rw [hrenumbered, hmemory.renumbered, Machine.withStorage, ← hreached.paired.configured.config]
  rfl

/-- A host with a disk in each of two directories. -/
def twoDirectories : Host :=
  .ofContents [(["D", "A.DSK"], .regular 0), (["E", "A.DSK"], .regular 1), (["D"], .directory),
      (["E"], .directory)]
    [.zeros 128, .zeros 128]

/-- A configuration that shares no file with `Machine.imageConfig`. -/
def otherConfig : Config :=
  { Machine.imageConfig with volumesDirectory := ⟨"E"⟩, persistentPath := some ⟨"N"⟩ }

/-- A world in which one machine has been built. -/
def otherBuilt : World := World.after { host := twoDirectories } [.build otherConfig {}]

/-- It and the next machine take turns.  Both mount a disk of the same name, put a byte and a
descriptor into memory, write the first sector of their disk, and look at what they have done. -/
def takingTurns : List Action :=
  [.operate 0 (.mount 0 "A"), .operate 1 (.mount 0 "A"), .operate 0 (.write 0x10 7),
    .operate 1 (.write 0x10 9), .operate 1 (.write 1 1), .operate 0 (.write 1 1),
    .operate 0 (.write 2 0x10), .operate 1 (.write 2 0x10), .operate 1 (.output 4 0x10),
    .operate 0 (.output 4 0x10), .operate 0 (.output 4 0), .operate 1 (.output 4 0),
    .operate 1 (.output 4 0), .operate 0 (.output 4 0), .operate 0 (.output 4 0x40),
    .operate 1 (.output 4 0x40), .operate 0 (.read 0x10), .operate 1 (.read 0x10),
    .operate 1 (.input 4)]

theorem independent_takingTurns :
    twoDirectories.Sound ∧
      (∀ host, .outside host ∉ [.build otherConfig {}] ++ takingTurns) ∧
      otherBuilt.machines.length = 1 ∧
      (∀ other ∈ configsOf ([.build otherConfig {}] ++ takingTurns),
        (otherBuilt.after (.build Machine.imageConfig {} :: takingTurns)).host.Apart
          Machine.imageConfig.Names other.Names) ∧
      ∃ machine alone begun,
        (Machine.build Machine.imageConfig {} otherBuilt.host).value.1 = .ok machine ∧
        (Machine.build Machine.imageConfig {} twoDirectories).value = (.ok alone, begun) ∧
        alone.answersTo begun (operationsOf 1 takingTurns) =
          (otherBuilt.step (.build Machine.imageConfig {})).answersOf 1 takingTurns ∧
        (alone.performAll begun (operationsOf 1 takingTurns)).2.contents? ⟨"M"⟩ =
          (otherBuilt.after (.build Machine.imageConfig {} :: takingTurns)).host.contents?
            ⟨"M"⟩ := by
  have hsound : twoDirectories.Sound := by decide
  have hinside : ∀ host, .outside host ∉ [.build otherConfig {}] ++ takingTurns := by
    simp [takingTurns]
  have hbefore : World.after { host := twoDirectories } [.build otherConfig {}] = otherBuilt := rfl
  have hindex : otherBuilt.machines.length = 1 := by decide +kernel
  have hbuilds : (Machine.build Machine.imageConfig {} otherBuilt.host).value.1.toOption.isSome =
      true := by decide +kernel
  obtain ⟨machine, hmachine⟩ := Option.isSome_iff_exists.1 hbuilds
  have hbuild := toOption_eq_some_iff.1 hmachine
  have hapart : ∀ other ∈ configsOf ([.build otherConfig {}] ++ takingTurns),
      (otherBuilt.after (.build Machine.imageConfig {} :: takingTurns)).host.Apart
        Machine.imageConfig.Names other.Names := by
    intro other hmem
    obtain rfl : other = otherConfig := by simpa [configsOf, takingTurns] using hmem
    exact Host.apart_of_filesOn (by decide +kernel)
  obtain ⟨alone, begun, -, -, halone, hanswers, -, -, -, hcontents⟩ :=
    independent hsound hinside hbefore hindex hbuild rfl hapart
  exact ⟨hsound, hinside, hindex, hapart, machine, alone, begun, hbuild, halone, hanswers,
    hcontents ⟨"M"⟩ (.image rfl)⟩

end World

end Backplane
