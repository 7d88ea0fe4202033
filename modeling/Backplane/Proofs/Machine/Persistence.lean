import Backplane.Proofs.Disk.Completed
import Backplane.Proofs.Machine.World
import Backplane.Proofs.Store.Persistence

/-!
# Working storage that outlasts its machine

A machine whose working storage is an image file changes that file by what it stores: the byte of a
bus write, and the bytes of a sector that a transfer reads into memory.  `stores` lists them for
each operation, with their addresses, and `cellsOf` says at which offsets of working storage they
end up. So after any run of any machines on one host the file holds, at each offset, what was
stored last there by whichever machine (`HoldsCells.after`), and a machine that is built on the
file next finds it, wherever its own program storage ends.

The side condition is that nobody else writes to the file.  Its own machines are not the only ones
that could: a file can also be mounted as a disk image, and written sector by sector.

## Hypotheses

The host reads and writes the file and lets it grow to the size of the address space, at the start
and whenever somebody else has changed the host.  `Host.Serves` says so.  A byte that the host
refused would not be there later, and a machine that the host gives no working storage is not
built.

## Where a byte goes

An address belongs to the layout of one machine, and an offset to the file.  The next machine may
have more program storage or less, so that working storage begins at another address; the file does
not change with that.  So the history is kept in offsets: `cellsOf` takes each address to its offset
in the layout of the machine that has stored the byte.

Bytes that go to program storage, to the reserved page or to an address without a device are not
stored anywhere and are no part of the history.

## Two results

`Store.Reaches.contents` is about stores on one path, without machines, and `HoldsCells.after` is
about machines.  `contents_persist` puts them together.  The first machine of a run may be the one
that makes the file.
-/

namespace Backplane

namespace Disk

variable {machine : Machine} {host : Host} {operation : Operation}

/-- The sector that an operation reads into memory, with the window it is stored in. -/
def sectorRead? (machine : Machine) (host : Host) (operation : Operation) :
    Option (UInt16 × List UInt8) :=
  match asksFor? machine operation with
  | some (.read, number) =>
    if (machine.perform host operation).value.2.1.controller.status = .ok then do
      let path ← machine.controller.image? number
      let descriptor ← latched? machine host
      let node ← (host.find path).toOption
      let bytes ← (host.read node descriptor.offset sectorSize).toOption
      some (descriptor.window, bytes)
    else none
  | _ => none

/-- The bytes that an operation stores in memory, with their addresses: the byte of a bus write, or
the sector that a completed read moves.  No other operation stores any, apart from loading a
program, which does not store into working storage. -/
def stores (machine : Machine) (host : Host) (operation : Operation) : List (UInt16 × UInt8) :=
  match operation with
  | .write address value => [(address, value)]
  | _ =>
    match sectorRead? machine host operation with
    | some (window, bytes) => Memory.placed window bytes
    | none => []

theorem sectorRead?_of_selects {number : Nat} {descriptor : Descriptor} {path : Path}
    {node : Node} {bytes : List UInt8}
    (hasks : asksFor? machine operation = some (.read, number))
    (hselects : Selects machine.controller.drives machine.controller.latch.address? .read number
      machine.memory host descriptor path node)
    (hsector : Image.readSector host node descriptor.offset = .ok bytes)
    (hok : (machine.perform host operation).value.2.1.controller.status = .ok) :
    sectorRead? machine host operation = some (descriptor.window, bytes) := by
  obtain ⟨drive, hdrive, hget⟩ := hselects.mounted
  have hmounted : machine.controller.image? number = some path := by
    rw [Controller.image?, hdrive, Option.bind_some, hget]
  have hlatched := latched?_eq_some_iff.2 hselects.latched
  have hfind := (Image.find_of_openAt hselects.opened).1
  have hread : host.read node descriptor.offset sectorSize = .ok bytes := by
    unfold Image.readSector at hsector
    cases hread : host.read node descriptor.offset sectorSize with
    | error fault => simp [hread] at hsector
    | ok found => simpa [hread] using hsector
  simp [sectorRead?, hasks, hok, hmounted, hlatched, hfind, hread, Except.toOption]

/-- A transfer that fails reads no sector. -/
theorem sectorRead?_of_failed
    (h : (machine.perform host operation).value.2.1.controller.status ≠ .ok) :
    sectorRead? machine host operation = none := by
  unfold sectorRead?
  split
  · rw [if_neg h]
  · rfl

theorem stores_of_asks (hasks : asksFor? machine operation ≠ none) (host : Host) :
    stores machine host operation =
      match sectorRead? machine host operation with
      | some (window, bytes) => Memory.placed window bytes
      | none => [] := by
  cases operation with
  | write address value => exact absurd (asksFor?_write machine address value) hasks
  | _ => rfl

/-- An operation that asks for no transfer stores nothing, unless it is a write cycle. -/
theorem stores_of_not_asks (hasks : asksFor? machine operation = none)
    (hwrite : ∀ address value, operation ≠ .write address value) (host : Host) :
    stores machine host operation = [] := by
  have hread : sectorRead? machine host operation = none := by
    simp [sectorRead?, hasks]
  cases operation with
  | write address value => exact absurd rfl (hwrite address value)
  | _ => simp only [stores, hread]

/-- A transfer touches no file beside what it stores, but the one that a completed write writes
to. -/
theorem agree_stores_of_asks (htakes : machine.memory.TakesAll host) {direction : Direction}
    {number : Nat} (hasks : asksFor? machine operation = some (direction, number)) :
    Host.Agree (fun index =>
        ∃ descriptor, completed? machine host operation = some ⟨.write, index, descriptor⟩)
      (machine.memory.putAll host (stores machine host operation)).2
      (machine.perform host operation).value.2.2 := by
  have hcases := transferred machine.controller.drives machine.controller.latch.address?
    direction number machine.memory host
  have hperform := perform_of_asksFor hasks host
  rw [stores_of_asks (by simp [hasks])]
  generalize (transfer machine.controller.drives machine.controller.latch.address? direction
    number machine.memory host).value = ended at hperform hcases
  cases hcases with
  | refused failure =>
    -- A transfer that fails stores nothing.
    have hfailed : (machine.perform host operation).value.2.1.controller.status ≠ .ok := by
      intro hok
      rw [hperform] at hok
      have houtcome : Controller.outcome (.error failure) = .ok := hok
      exact absurd (outcome_eq_ok_iff.1 houtcome) (by simp)
    rw [sectorRead?_of_failed hfailed, hperform]
    exact Host.Agree.refl _ _
  | stopped descriptor path node bytes address fault reads selects sector stored =>
    -- Storage that takes every byte does not stop a read.
    rw [htakes.value_storeBlock] at stored
    exact absurd stored (by simp)
  | read descriptor path node bytes reads selects sector stored =>
    -- A completed read stores its sector in memory, and that is all.
    have hok : (machine.perform host operation).value.2.1.controller.status = .ok := by
      rw [hperform]
      rfl
    rw [sectorRead?_of_selects (reads ▸ hasks) selects sector hok, hperform,
      htakes.value_storeBlock]
  | wrote descriptor path node bytes after writes selects loaded sector =>
    -- A completed write stores nothing in memory and touches the image.
    have hread : sectorRead? machine host operation = none := by
      simp [sectorRead?, hasks, writes]
    obtain ⟨file, rfl, rfl⟩ := Image.writeSector_eq_ok sector
    have hwritten := host.agree_writeInto (.regular file) descriptor.offset bytes
    have hcompleted : completed? machine host operation = some ⟨.write, file, descriptor⟩ := by
      apply completed?_of_selects (writes ▸ hasks) selects
      rw [hperform]
      rfl
    rw [hread, hperform]
    refine hwritten.mono fun index hnode => ⟨descriptor, ?_⟩
    obtain rfl := Node.regular.inj hnode
    exact hcompleted

/-- The files that an operation touches beside what it stores: the one behind program storage, and
the one that a completed write writes to. -/
theorem agree_stores_perform (htakes : machine.memory.TakesAll host) (operation : Operation) :
    Host.Agree (fun index => machine.memory.program.file? = some index ∨
      ∃ descriptor, completed? machine host operation = some ⟨.write, index, descriptor⟩)
      (machine.memory.putAll host (stores machine host operation)).2
      (machine.perform host operation).value.2.2 := by
  by_cases hwrite : ∃ address value, operation = .write address value
  · -- A bus write is what it stores.
    obtain ⟨address, value, rfl⟩ := hwrite
    have hstored : (machine.memory.write host address value).value =
        machine.memory.put host address value := by
      rw [Memory.value_write, htakes address]
    have hperform : (machine.perform host (.write address value)).value.2.2 =
        (machine.memory.write host address value).value.2 := rfl
    rw [hperform, hstored]
    exact Host.Agree.refl _ _
  have hnever : ∀ address value, operation ≠ .write address value := fun address value heq =>
    hwrite ⟨address, value, heq⟩
  cases hasks : asksFor? machine operation with
  | none =>
    -- Without a transfer only loading a program touches a file.
    rw [stores_of_not_asks hasks hnever]
    by_cases hload : Machine.CanLoad operation
    · have hagree := (Machine.sameDevices_and_agree_of_canLoad hload machine host).2
      exact hagree.mono fun index hfile => .inl hfile
    · rw [host_perform_of_not_asks hasks hload hnever]
      exact Host.Agree.refl _ _
  | some asked =>
    -- A transfer touches at most the image that it writes to.
    have hagree := agree_stores_of_asks htakes hasks
    exact hagree.mono fun index hwritten => .inr hwritten

end Disk

namespace Memory

variable {memory : Memory} {host : Host} {file : Nat} {initial : Content}
  {cells : List (Nat × UInt8)}

/-- What is stored in working storage of some bytes at addresses, with its offsets. -/
def cellsOf (memory : Memory) (bytes : List (UInt16 × UInt8)) : List (Nat × UInt8) :=
  bytes.filterMap fun (address, value) =>
    match memory.route address with
    | .working offset => some (offset, value)
    | _ => none

/-- A byte that is put into working storage in a file is held by the file. -/
theorem holds_put (hfile : memory.working.file? = some file)
    (h : Store.Holds file initial cells host) (address : UInt16) (value : UInt8) :
    (memory.put host address value).1 = memory ∧
      Store.Holds file initial (cells ++ memory.cellsOf [(address, value)])
        (memory.put host address value).2 := by
  obtain ⟨path, size, hworking⟩ := Store.exists_of_file? hfile
  cases hroute : memory.route address with
  | working offset =>
    have hcells : memory.cellsOf [(address, value)] = [(offset, value)] := by
      simp [cellsOf, hroute]
    rw [put_of_working hroute, hcells]
    refine ⟨eq_of_stores rfl ?_ rfl, ?_⟩
    · rw [working_withWorking, hworking]
      rfl
    · dsimp only
      rw [hworking]
      exact h.writeInto offset value
  | _ =>
    have hcells : memory.cellsOf [(address, value)] = [] := by
      simp [cellsOf, hroute]
    rw [put_of_not_working (by simp [hroute]), hcells, List.append_nil]
    exact ⟨rfl, h⟩

theorem holds_putAll (hfile : memory.working.file? = some file)
    (h : Store.Holds file initial cells host) (bytes : List (UInt16 × UInt8)) :
    Store.Holds file initial (cells ++ memory.cellsOf bytes) (memory.putAll host bytes).2 := by
  induction bytes generalizing host cells with
  | nil =>
    show Store.Holds file initial (cells ++ []) host
    rwa [List.append_nil]
  | cons byte rest ih =>
    obtain ⟨address, value⟩ := byte
    obtain ⟨hsame, hput⟩ := holds_put hfile h address value
    have hcells : memory.cellsOf ((address, value) :: rest) =
        memory.cellsOf [(address, value)] ++ memory.cellsOf rest := by
      rw [cellsOf, ← List.singleton_append, List.filterMap_append]
      rfl
    rw [putAll, hsame, hcells, ← List.append_assoc]
    exact ih hput

end Memory

namespace World

/-! ## Runs without another writer -/

/-- What is stored in a file by an action, through working storage of the machine that acts. -/
def cellsOfAction (file : Nat) (world : World) : Action → List (Nat × UInt8)
  | .operate index operation =>
    match world.machines[index]? with
    | some machine =>
      if machine.memory.working.file? = some file then
        machine.memory.cellsOf (Disk.stores machine world.host operation)
      else []
    | none => []
  | .build _ _ | .outside _ => []

/-- What is stored in a file in a run, first byte first. -/
def cellsOfRun (file : Nat) (world : World) : List Action → List (Nat × UInt8)
  | [] => []
  | action :: rest => cellsOfAction file world action ++ cellsOfRun file (world.step action) rest

/-- In a run nobody else writes to the file that a path leads to: no machine writes to it as a disk
image, and others leave it and the path alone and do not keep the stores from it. -/
def LeavesToStores (file : Nat) (path : Path) (world : World) : List Action → Prop
  | [] => True
  | action :: rest =>
    (match action with
      | .build _ _ => True
      | .operate index operation => ∀ machine, world.machines[index]? = some machine →
        ∀ descriptor,
          Disk.completed? machine world.host operation ≠ some ⟨.write, file, descriptor⟩
      | .outside host =>
        Host.Spares file world.host host ∧ host.find path = .ok (.regular file) ∧
          host.ServesNode addressSpace (.regular file)) ∧
    LeavesToStores file path (world.step action) rest

/-- The file that a path leads to holds what was stored in it, the host refuses none of its bytes,
and no machine keeps its program there. -/
structure HoldsCells (file : Nat) (path : Path) (initial : Content)
    (cells : List (Nat × UInt8)) (world : World) : Prop where
  find : world.host.find path = .ok (.regular file)
  holds : Store.Holds file initial cells world.host
  serves : world.host.ServesNode addressSpace (.regular file)
  programs : ∀ machine ∈ world.machines, machine.memory.program.file? = none

variable {file : Nat} {path : Path} {initial : Content} {cells : List (Nat × UInt8)}
  {world : World}

/-- Opening working storage takes nothing from the file, whether or not it is the file that is
opened. -/
theorem HoldsCells.openWorking (h : HoldsCells file path initial cells world) (config : Config) :
    (Machine.openWorking config world.host).value.2.find path = .ok (.regular file) ∧
      Store.Holds file initial cells (Machine.openWorking config world.host).value.2 ∧
      (Machine.openWorking config world.host).value.2.ServesNode addressSpace (.regular file) := by
  cases hpath : config.persistentPath with
  | none =>
    rw [Machine.value_openWorking_of_no_path hpath]
    exact ⟨h.find, h.holds, h.serves⟩
  | some other =>
    rw [Machine.value_openWorking_of_path hpath]
    have hcases := Store.opened world.host other config.workingSize
    generalize (Store.openPersistent world.host other config.workingSize).value = ended at hcases
    cases hcases with
    | refused fault => exact ⟨h.find, h.holds, h.serves⟩
    | stuck fault opens =>
      exact ⟨Host.find_openOrCreate_of_find opens h.find, h.holds.openOrCreate opens,
        h.serves.openOrCreate h.holds.lt opens⟩
    | opened opens grown =>
      refine ⟨?_, (h.holds.openOrCreate opens).grown grown,
        (h.serves.openOrCreate h.holds.lt opens).of_agree grown.agree⟩
      rw [grown.agree.find, Host.find_openOrCreate_of_find opens h.find]

theorem host_step_build (world : World) (config : Config) (line : Console.Line) :
    (world.step (.build config line)).host = (Machine.build config line world.host).value.2 := by
  rw [World.step]
  rcases (Machine.build config line world.host).value with ⟨failure | machine, host⟩ <;> rfl

/-- No machine is built with program storage in a file. -/
theorem programs_step_build (h : ∀ machine ∈ world.machines, machine.memory.program.file? = none)
    (config : Config) (line : Console.Line) :
    ∀ machine ∈ (world.step (.build config line)).machines,
      machine.memory.program.file? = none := by
  rw [World.step]
  rcases hbuild : (Machine.build config line world.host).value with ⟨failure | machine, host⟩
  · exact h
  · obtain ⟨working, memory, -, hlayout, rfl⟩ := Machine.exists_layOut_of_build hbuild
    obtain ⟨hprogram, -, -⟩ := Memory.stores_of_layOut hlayout
    intro machine hmem
    rcases List.mem_append.1 hmem with hmem | hmem
    · exact h machine hmem
    · obtain rfl := List.mem_singleton.1 hmem
      exact congrArg Store.file? hprogram

theorem HoldsCells.build (h : HoldsCells file path initial cells world) (config : Config)
    (line : Console.Line) :
    HoldsCells file path initial cells (world.step (.build config line)) := by
  obtain ⟨hfind, hholds, hserves⟩ := Machine.host_build
    (fun after => after.find path = .ok (.regular file) ∧
      Store.Holds file initial cells after ∧ after.ServesNode addressSpace (.regular file))
    ⟨h.find, h.holds, h.serves⟩ (h.openWorking config) line
  rw [← host_step_build] at hfind hholds hserves
  exact ⟨hfind, hholds, hserves, programs_step_build h.programs config line⟩

theorem HoldsCells.operate (h : HoldsCells file path initial cells world) {index : Nat}
    {machine : Machine} (hmachine : world.machines[index]? = some machine) {operation : Operation}
    (hnot : ∀ descriptor,
      Disk.completed? machine world.host operation ≠ some ⟨.write, file, descriptor⟩) :
    HoldsCells file path initial (cells ++ cellsOfAction file world (.operate index operation))
      (world.step (.operate index operation)) := by
  have hprogram := h.programs machine (List.mem_of_getElem? hmachine)
  have hprograms : ∀ other ∈ world.machines.set index
      (machine.perform world.host operation).value.2.1, other.memory.program.file? = none := by
    intro other hmem
    rcases List.mem_or_eq_of_mem_set hmem with hmem | rfl
    · exact h.programs other hmem
    · have hdevices := Machine.sameDevices_perform machine world.host operation
      rw [hdevices.program.file?, hprogram]
  -- Paths find the file as before, and it is served as before.
  have hall := Disk.agree_perform machine world.host operation
  rw [step_operate hmachine]
  refine ⟨by rw [hall.find, h.find], ?_, h.serves.of_agree hall, hprograms⟩
  simp only [cellsOfAction, hmachine]
  by_cases hfile : machine.memory.working.file? = some file
  · -- The machine works on the file: it gets what is stored, and the disks and programs are other
    -- files.
    rw [if_pos hfile]
    have hstored := Memory.holds_putAll hfile h.holds
      (Disk.stores machine world.host operation)
    have htakes := Memory.takesAll_of_file hfile fun offset =>
      h.serves (.write offset 1) rfl
    have hagree := Disk.agree_stores_perform htakes operation
    refine hstored.of_content (Nat.le_of_eq hagree.size.symm) (hagree.content file ?_)
    rintro (hin | ⟨descriptor, hwritten⟩)
    · simp [hprogram] at hin
    · exact hnot descriptor hwritten
  · -- The machine works on another file, or on none, and leaves this one alone.
    rw [if_neg hfile, List.append_nil]
    refine h.holds.of_content (Nat.le_of_eq hall.size.symm) (hall.content file ?_)
    rintro (hin | hin | ⟨descriptor, hwritten⟩)
    · simp [hprogram] at hin
    · exact hfile hin
    · exact hnot descriptor hwritten

theorem HoldsCells.after (h : HoldsCells file path initial cells world) {actions : List Action}
    (hleft : LeavesToStores file path world actions) :
    HoldsCells file path initial (cells ++ cellsOfRun file world actions)
      (world.after actions) := by
  induction actions generalizing world cells with
  | nil =>
    rw [cellsOfRun, List.append_nil]
    exact h
  | cons action rest ih =>
    obtain ⟨haction, hrest⟩ := hleft
    rw [cellsOfRun, ← List.append_assoc]
    refine ih ?_ hrest
    cases action with
    | build config line =>
      -- A machine is built on the file or beside it.
      rw [cellsOfAction, List.append_nil]
      exact h.build config line
    | outside host =>
      -- What happens from outside keeps the bytes of the file.
      obtain ⟨hspares, hfind, hserves⟩ := haction
      rw [cellsOfAction, List.append_nil]
      exact ⟨hfind, h.holds.of_content hspares.size hspares.content, hserves, h.programs⟩
    | operate index operation =>
      cases hmachine : world.machines[index]? with
      | none =>
        simp only [cellsOfAction, World.step, hmachine, List.append_nil]
        exact h
      | some machine => exact h.operate hmachine (haction machine hmachine)

/-- The first machine that is built on a path finds the content that the path led to, or none. -/
theorem holdsCells_first {start : Host} (hsound : start.Sound)
    (hserves : start.Serves path addressSpace) {config : Config} {line : Console.Line}
    (hpath : config.persistentPath = some path)
    (hfind : (World.step { host := start } (.build config line)).host.find path =
      .ok (.regular file)) :
    HoldsCells file path (Store.initialContent start path) []
      (World.step { host := start } (.build config line)) := by
  have hopened (made : Host) (hopen : start.openOrCreate path = .ok (.regular file, made)) :
      Store.Holds file (Store.initialContent start path) [] made := by
    obtain ⟨hlt, hcontent⟩ := Store.content_of_openOrCreate hsound hopen
    exact hcontent ▸ Store.holds_content hlt
  -- Building may end before the image is opened, and then the file was there before.
  have hbefore (hthere : start.find path = .ok (.regular file)) :
      Store.Holds file (Store.initialContent start path) [] start ∧
        start.ServesNode addressSpace (.regular file) := by
    have hnode := hserves.found _ hthere
    have hgranted := hnode .openForWriting trivial
    exact ⟨hopened start (Host.openOrCreate_of_find hthere (by simp) hgranted),
      hnode⟩
  -- If it gets there, then the file is the one that was opened or made.
  have hafter : (Machine.openWorking config start).value.2.find path = .ok (.regular file) →
      Store.Holds file (Store.initialContent start path) []
          (Machine.openWorking config start).value.2 ∧
        (Machine.openWorking config start).value.2.ServesNode addressSpace (.regular file) := by
    rw [Machine.value_openWorking_of_path hpath]
    have hcases := Store.opened start path config.workingSize
    generalize (Store.openPersistent start path config.workingSize).value = ended at hcases
    intro hthere
    cases hcases with
    | refused fault => exact hbefore hthere
    | stuck fault opens =>
      obtain rfl := Except.ok.inj ((Host.find_openOrCreate opens).symm.trans hthere)
      exact ⟨hopened _ opens, hserves.opened opens⟩
    | opened opens grown =>
      rw [grown.agree.find] at hthere
      obtain rfl := Except.ok.inj ((Host.find_openOrCreate opens).symm.trans hthere)
      exact ⟨(hopened _ opens).grown grown, (hserves.opened opens).of_agree grown.agree⟩
  have hbuilt := Machine.host_build
    (fun after => after.find path = .ok (.regular file) →
      Store.Holds file (Store.initialContent start path) [] after ∧
        after.ServesNode addressSpace (.regular file)) hbefore hafter line
  rw [← host_step_build { host := start }] at hbuilt
  obtain ⟨hholds, hserved⟩ := hbuilt hfind
  exact ⟨hfind, hholds, hserved, programs_step_build (by simp) config line⟩

/-! ## The next machine -/

/-- A machine can be built on the file, and reads from working storage what the file holds. -/
theorem HoldsCells.rebuild (h : HoldsCells file path initial cells world) {config : Config}
    (hpath : config.persistentPath = some path)
    (hfits : config.programSize + config.workingSize ≤ storageLimit config.reservedPage)
    (line : Console.Line) :
    ∃ machine after, (Machine.build config line world.host).value = (.ok machine, after) ∧
      ∀ offset < config.workingSize,
        (machine.read after (UInt16.ofNat (config.programSize + offset))).value =
          Store.cellByte initial cells offset := by
  have hspace := Nat.le_trans hfits (Memory.storageLimit_le _)
  have hmax : addressSpace ≤ Host.offsetLimit := by decide
  have hserves := h.serves.mono (show config.workingSize ≤ addressSpace by omega)
  have hgranted := h.serves .openForWriting trivial
  -- The file is there and served, so it can be opened again and be as long as the new storage.
  obtain ⟨after, hopen, hgrown⟩ := Store.openPersistent_of_canHold
    (Host.openOrCreate_of_find h.find (by simp) hgranted)
    (Store.canHold_of_serves hserves (by omega))
  have hworking := (Machine.openWorking_of_path_eq_ok_iff hpath).2 hopen
  refine ⟨_, after, Machine.build_of_openWorking hworking rfl hfits line, ?_⟩
  intro offset hoffset
  -- Growing it has kept its bytes, and each can be read.
  have hload : after.readByte (.regular file) offset =
      .ok (Store.cellByte initial cells offset) := by
    have hlength := hgrown.length file h.holds.lt rfl
    have hheld := (h.holds.grown hgrown).byte offset
    have hread : after.readFault? (.regular file) offset 1 = none := by
      rw [Host.readFault?, if_neg (by omega), hgrown.agree.refusal?]
      exact h.serves (.read offset 1) rfl
    rw [Store.readByte_of_lt (by omega), hread, hheld]
  have hin : offset < (Memory.ofStores (.zeroed config.programSize)
      (.persistent (.regular file) path config.workingSize) config.reservedPage
      hfits).workingSize := by
    rw [Memory.workingSize_eq]
    exact hoffset
  have hread := Memory.read_of_working _ hin hload
  rwa [Memory.programSize_eq] at hread

/-- An image file outlasts the stores and the machines that use it.  However stores are opened on a
path that leads to a regular file or to none, and used below their sizes, the file is as long as
the longest of them and holds what was stored last at every offset.  And after any run of machines,
the first of them built on the path, a machine that is built on it next can be built and reads in
working storage what any of them stored there last.  The host serves the path all the time.  That
the file is no longer than a file can be at the start is no condition on hosts that exist. -/
theorem contents_persist {start : Host} (hsound : start.Sound) {path : Path}
    (hstart : ∀ node, start.find path = .ok node → ∃ file, node = .regular file)
    (hlimit : (Store.initialContent start path).length ≤ Host.offsetLimit)
    (hserves : start.Serves path addressSpace) :
    (∀ {sizes cells stores host}, Store.Reaches path start sizes cells stores host →
      ((host.contents? path).getD .empty).length =
          sizes.foldl max (Store.initialContent start path).length ∧
        (∀ offset < ((host.contents? path).getD .empty).length,
          ((host.contents? path).getD .empty).get? offset =
            some (Store.cellByte (Store.initialContent start path) cells offset)) ∧
        (sizes ≠ [] → (host.contents? path).isSome) ∧
        ∀ store ∈ stores, ∀ offset < store.size,
          store.load host offset =
              .ok (Store.cellByte (Store.initialContent start path) cells offset) ∧
            ∀ value, (store.store host offset value).1 = .ok ()) ∧
      ∀ {file config line actions}, config.persistentPath = some path →
        (World.step { host := start } (.build config line)).host.find path =
          .ok (.regular file) →
        LeavesToStores file path (World.step { host := start } (.build config line)) actions →
        ∀ {next : Config}, next.persistentPath = some path →
          next.programSize + next.workingSize ≤ storageLimit next.reservedPage →
          ∀ nextLine, ∃ machine after,
            (Machine.build next nextLine (World.after { host := start }
              (.build config line :: actions)).host).value = (.ok machine, after) ∧
            ∀ offset < next.workingSize,
              (machine.read after (UInt16.ofNat (next.programSize + offset))).value =
                Store.cellByte (Store.initialContent start path)
                  (cellsOfRun file (World.step { host := start } (.build config line)) actions)
                  offset := by
  constructor
  · -- Stores that are opened on the path and used.
    intro sizes cells stores host hreached
    exact hreached.contents hsound hstart hlimit (hserves.mono (Nat.zero_le _))
  · -- Machines: the first makes the file or finds it, the run keeps what is held, and the next one
    -- is built on it.
    intro file config line actions hpath hfind hleft next hnext hfits nextLine
    have hreached := (holdsCells_first hsound hserves hpath hfind).after hleft
    rw [List.nil_append] at hreached
    exact hreached.rebuild hnext hfits nextLine

/-- Two bytes of working storage in a file, behind some program storage. -/
def persistentConfig (programSize : Nat) : Config :=
  { programSize, workingSize := 2, persistentPath := some ⟨"F"⟩ }

theorem contents_persist_created :
    (∃ stores host, Store.Reaches ⟨"F"⟩ {} [2] [(1, 7)] stores host ∧
      ((host.contents? ⟨"F"⟩).getD .empty).get? 1 = some 7) ∧
    ∃ machine after,
      (Machine.build (persistentConfig 8) {} (World.after { host := {} }
        [.build (persistentConfig 4) {}, .operate 0 (.write 5 7)]).host).value =
          (.ok machine, after) ∧
        (machine.read after 9).value = 7 := by
  have hsound : ({} : Host).Sound := by decide
  have hmissing : ({} : Host).find ⟨"F"⟩ = .error .notFound := by decide +kernel
  have hempty : (Store.initialContent {} ⟨"F"⟩).length = 0 := by decide +kernel
  have hstart : ∀ node, ({} : Host).find ⟨"F"⟩ = .ok node → ∃ file, node = .regular file := by
    intro node hfind
    exact absurd (hmissing.symm.trans hfind) (by simp)
  have hserves : ({} : Host).Serves ⟨"F"⟩ addressSpace :=
    Host.serves_of_willing (fun node _ => by cases node <;> rfl) (fun _ => rfl) (fun _ => rfl) _
  obtain ⟨hstores, hmachines⟩ := contents_persist hsound hstart (by rw [hempty]; decide) hserves
  constructor
  · -- A store of two bytes is opened, and its second byte is stored.
    have hopen : ((Store.openPersistent {} ⟨"F"⟩ 2).value.1.toOption.map Store.size) = some 2 := by
      decide +kernel
    obtain ⟨store, hstore, hsize⟩ := Option.map_eq_some_iff.1 hopen
    have hopens : (Store.openPersistent {} ⟨"F"⟩ 2).value =
        (.ok store, (Store.openPersistent {} ⟨"F"⟩ 2).value.2) :=
      Prod.ext (toOption_eq_some_iff.1 hstore) rfl
    have hbelow : 1 < store.size := by
      rw [hsize]
      decide
    have hthere : ([] ++ [store])[0]? = some store := rfl
    have hreached := (Store.Reaches.start.opened hopens).stored hthere hbelow 7
    obtain ⟨hlength, hbytes, -⟩ := hstores hreached
    refine ⟨_, _, hreached, hbytes 1 ?_⟩
    rw [hlength, hempty]
    decide
  · -- A machine stores the byte, and the next one is given more storage.
    have hfind : (World.step { host := {} } (.build (persistentConfig 4) {})).host.find ⟨"F"⟩ =
        .ok (.regular 0) := by decide +kernel
    have hleft : LeavesToStores 0 ⟨"F"⟩
        (World.step { host := {} } (.build (persistentConfig 4) {})) [.operate 0 (.write 5 7)] := by
      refine ⟨?_, trivial⟩
      intro machine _ descriptor
      simp [Disk.completed?, Disk.asksFor?_write]
    have hnext : (persistentConfig 8).persistentPath = some ⟨"F"⟩ := rfl
    obtain ⟨machine, after, hbuild, hread⟩ := hmachines rfl hfind hleft hnext (by decide) {}
    have hbyte : Store.cellByte (Store.initialContent {} ⟨"F"⟩)
        (cellsOfRun 0 (World.step { host := {} } (.build (persistentConfig 4) {}))
          [.operate 0 (.write 5 7)]) 1 = 7 := by decide +kernel
    exact ⟨machine, after, hbuild, (hread 1 (by decide)).trans hbyte⟩

end World

end Backplane
