import Backplane.Proofs.Disk.Completed
import Backplane.Proofs.Machine.World

/-!
# Images as arrays of sectors

To the programs of any number of machines a disk image is an array of sectors: a completed read of
a sector gives what the last completed write of that sector stored, by whichever machine, through
whichever drive and at whichever window, or else what was in the image at first
(`sector_of_read`).  This holds for images of any length, also of one that ends within a sector,
and that is the point that needs an argument: a sector that is not wholly there cannot be read,
and no write of another sector makes it readable, because a write never starts past the end of the
image and so never fills a gap.

The history of an image is a list of `SectorWrite`s, which `sectorWrites` reads off a run.  The
invariant is `HoldsSectors`: at every sector of the disk, present or not, the image reads as the
history says.  A completed write keeps it since sectors do not overlap (`sectors_disjoint`);
everything else leaves the image alone.

## Hypotheses

The image is a file of the host that is there at the start, and only transfers change it: working
storage of no machine is kept in that file, and whatever others do to the host, they leave the
file alone.  `Undisturbed` says this of a run.

The bytes of a read end up in working storage, and they can be found there only if the host lets
that storage be read.  `Store.Readable` says so where working storage is a file; any other is
readable.  No assumption is made about the host and the image itself: a read that the host refuses
is not a completed one.
-/

namespace Backplane

namespace Disk

/-! ## Sectors -/

/-- The disk has such a sector. -/
def IsSector (track sector : UInt8) : Prop :=
  track.toNat < tracks ∧ 1 ≤ sector.toNat ∧ sector.toNat ≤ sectorsPerTrack

theorem Descriptor.isSector_of_defect? {d : Descriptor} (h : d.defect? = none) :
    IsSector d.track d.sector := by
  obtain ⟨htrack, hsector, -⟩ := defect?_eq_none_iff.1 h
  exact ⟨htrack, hsector⟩

/-- Different sectors take up different bytes of an image. -/
theorem sectors_disjoint {track sector track' sector' : UInt8} (h : IsSector track sector)
    (h' : IsSector track' sector') (hne : ¬ (track = track' ∧ sector = sector')) :
    sectorOffset track' sector' + sectorSize ≤ sectorOffset track sector ∨
      sectorOffset track sector + sectorSize ≤ sectorOffset track' sector' := by
  have hnumbers : ¬ (track.toNat = track'.toNat ∧ sector.toNat = sector'.toNat) := by
    rintro ⟨htrack, hsector⟩
    exact hne ⟨UInt8.toNat_inj.1 htrack, UInt8.toNat_inj.1 hsector⟩
  obtain ⟨-, hlow, hhigh⟩ := h
  obtain ⟨-, hlow', hhigh'⟩ := h'
  unfold sectorsPerTrack at hhigh hhigh'
  unfold sectorOffset sectorSize sectorsPerTrack
  omega

/-! ## Histories -/

/-- A sector that was written to a file. -/
structure SectorWrite where
  /-- The number of the file. -/
  file : Nat
  track : UInt8
  sector : UInt8
  bytes : List UInt8

namespace SectorWrite

/-- Whether a write is one of the given sector of the given file. -/
def IsAt (write : SectorWrite) (file : Nat) (track sector : UInt8) : Prop :=
  write.file = file ∧ write.track = track ∧ write.sector = sector

instance (write : SectorWrite) (file : Nat) (track sector : UInt8) :
    Decidable (write.IsAt file track sector) :=
  inferInstanceAs (Decidable (_ ∧ _ ∧ _))

end SectorWrite

/-- What memory holds in a window, byte by byte as a transfer loads it. -/
def windowBytes (memory : Memory) (host : Host) (window : UInt16) : List UInt8 :=
  (List.range sectorSize).map fun i =>
    (memory.load host (window + UInt16.ofNat i)).value.toOption.getD floatingBus

/-- The sector that an operation of a machine writes: one or none. -/
def sectorWritesOf (machine : Machine) (host : Host) (operation : Operation) : List SectorWrite :=
  match completed? machine host operation with
  | some ⟨.write, file, descriptor⟩ =>
    [⟨file, descriptor.track, descriptor.sector,
      windowBytes machine.memory host descriptor.window⟩]
  | _ => []

/-- The sector that an action writes: one or none. -/
def sectorWritesOfAction (world : World) : Action → List SectorWrite
  | .operate index operation =>
    match world.machines[index]? with
    | some machine => sectorWritesOf machine world.host operation
    | none => []
  | .build _ _ | .outside _ => []

/-- The sectors that are written in a run, first one first. -/
def sectorWrites (world : World) : List Action → List SectorWrite
  | [] => []
  | action :: rest => sectorWritesOfAction world action ++ sectorWrites (world.step action) rest

/-- What was written last to a sector. -/
def lastWrite? (writes : List SectorWrite) (file : Nat) (track sector : UInt8) :
    Option (List UInt8) :=
  (writes.reverse.find? fun write => write.IsAt file track sector).map SectorWrite.bytes

/-- A byte of a sector according to a history: of what was written last, or else of the image as
it was at first, if it has such a byte. -/
def sectorByte? (initial : Content) (writes : List SectorWrite) (file : Nat)
    (track sector : UInt8) (i : Nat) : Option UInt8 :=
  match lastWrite? writes file track sector with
  | some bytes => bytes[i]?
  | none => initial.get? (sectorOffset track sector + i)

theorem lastWrite?_append_singleton (writes : List SectorWrite) (write : SectorWrite)
    (file : Nat) (track sector : UInt8) :
    lastWrite? (writes ++ [write]) file track sector =
      if write.IsAt file track sector then some write.bytes
      else lastWrite? writes file track sector := by
  rw [lastWrite?, List.reverse_append, List.reverse_singleton, List.singleton_append,
    List.find?_cons]
  by_cases h : write.IsAt file track sector
  · rw [if_pos h, decide_eq_true h]
    rfl
  · rw [if_neg h, decide_eq_false h]
    rfl

theorem windowBytes_eq {memory : Memory} {host : Host} {window : UInt16} {bytes : List UInt8}
    (h : (memory.loadBlock host window sectorSize).value = .ok bytes) :
    windowBytes memory host window = bytes := by
  obtain ⟨hlength, hbytes⟩ := Memory.loadBlock_eq_ok h
  apply List.ext_getElem
  · rw [windowBytes, List.length_map, List.length_range, hlength]
  · intro i hi hi'
    simp only [windowBytes, List.getElem_map, List.getElem_range, Memory.value_load, hbytes i hi',
      Except.toOption, Option.getD_some]

/-! ## Runs that leave an image to transfers -/

/-- In a run nothing but transfers changes a file: no machine keeps working storage in it, and
others leave it alone. -/
def Undisturbed (file : Nat) (world : World) : List Action → Prop
  | [] => True
  | action :: rest =>
    (match action with
      | .build config _ => ∀ path, config.persistentPath = some path →
        world.host.find path ≠ .ok (.regular file)
      | .operate _ _ => True
      | .outside host => Host.Spares file world.host host) ∧
    Undisturbed file (world.step action) rest

/-- A machine that can change a file by transfers alone. -/
structure KeepsOff (file : Nat) (machine : Machine) (host : Host) : Prop where
  program : machine.memory.program.file? = none
  plain : machine.memory.working.IsPlain
  anchored : machine.memory.working.Anchored host
  apart : machine.memory.working.file? ≠ some file

/-- Every sector of an image reads as a history says, and no machine of the world can change the
image but by a transfer.  A sector that has never been written reads as it did at the start, and one
that was not wholly there at the start does not read at all. -/
structure HoldsSectors (file : Nat) (initial : Content) (writes : List SectorWrite)
    (world : World) : Prop where
  sound : world.host.Sound
  lt : file < world.host.files.size
  sectors : ∀ track sector, IsSector track sector →
    (world.host.content file).slice? (sectorOffset track sector) sectorSize =
      (lastWrite? writes file track sector).or
        (initial.slice? (sectorOffset track sector) sectorSize)
  machines : ∀ machine ∈ world.machines, KeepsOff file machine world.host

variable {file : Nat} {initial : Content} {writes : List SectorWrite} {world : World}

theorem KeepsOff.mono {machine : Machine} {host other : Host} (h : KeepsOff file machine host)
    (hsize : host.files.size ≤ other.files.size) : KeepsOff file machine other :=
  ⟨h.program, h.plain, fun index hfile => Nat.lt_of_lt_of_le (h.anchored index hfile) hsize,
    h.apart⟩

theorem KeepsOff.of_sameDevices {machine after : Machine} {host : Host}
    (h : KeepsOff file machine host) (hdevices : Memory.SameDevices machine.memory after.memory) :
    KeepsOff file after host := by
  refine ⟨hdevices.program.file?.trans h.program, hdevices.working.plain h.plain, ?_, ?_⟩
  · intro index hfile
    rw [hdevices.working.file?] at hfile
    exact h.anchored index hfile
  · rw [hdevices.working.file?]
    exact h.apart

/-- A change of the host that leaves the file alone leaves its sectors. -/
theorem HoldsSectors.of_spares (h : HoldsSectors file initial writes world) {host : Host}
    (hspares : Host.Spares file world.host host) {machines : List Machine}
    (hmachines : ∀ machine ∈ machines, KeepsOff file machine host) :
    HoldsSectors file initial writes { host, machines } := by
  refine ⟨hspares.sound, Nat.lt_of_lt_of_le h.lt hspares.size, ?_, hmachines⟩
  intro track sector hsector
  show (host.content file).slice? _ _ = _
  rw [hspares.content]
  exact h.sectors track sector hsector

/-- Opening working storage leaves alone a file that it is not to be kept in. -/
theorem spares_openWorking {host : Host} (hsound : host.Sound)
    (hlt : file < host.files.size) {config : Config}
    (hpath : ∀ path, config.persistentPath = some path → host.find path ≠ .ok (.regular file)) :
    Host.Spares file host (Machine.openWorking config host).value.2 ∧
      ∀ store, (Machine.openWorking config host).value.1 = .ok store →
        store.IsPlain ∧ store.Anchored (Machine.openWorking config host).value.2 ∧
          store.file? ≠ some file := by
  cases hpersistent : config.persistentPath with
  | none =>
    -- An array is kept in no file.
    rw [Machine.value_openWorking_of_no_path hpersistent]
    refine ⟨Host.Spares.refl hsound file, ?_⟩
    intro store hstore
    obtain ⟨-, rfl⟩ := Store.allocate_eq_ok_iff.1 (mapError_eq_ok_iff.1 hstore)
    refine ⟨trivial, ?_, by simp [Store.zeroed, Store.file?]⟩
    intro index hfile
    simp [Store.zeroed, Store.file?] at hfile
  | some path =>
    -- An image is kept in the file that its path leads to, and that is another one.
    obtain ⟨hspares, hstores⟩ := Store.spares_openPersistent hsound hlt (hpath path hpersistent)
      config.workingSize
    rw [Machine.value_openWorking_of_path hpersistent]
    exact ⟨hspares, fun store hstore => hstores store (mapError_eq_ok_iff.1 hstore)⟩

/-- Building a machine leaves alone a file that its persistent storage is not kept in. -/
theorem HoldsSectors.build (h : HoldsSectors file initial writes world) (config : Config)
    (line : Console.Line)
    (hpath : ∀ path, config.persistentPath = some path →
      world.host.find path ≠ .ok (.regular file)) :
    HoldsSectors file initial writes (world.step (.build config line)) := by
  obtain ⟨hspares, hstore⟩ := spares_openWorking h.sound h.lt hpath
  have hothers : ∀ machine ∈ world.machines,
      KeepsOff file machine (Machine.openWorking config world.host).value.2 := by
    intro machine hmem
    exact (h.machines machine hmem).mono hspares.size
  have hbuilt := Machine.host_build (fun after => Host.Spares file world.host after ∧
    ∀ machine ∈ world.machines, KeepsOff file machine after)
    ⟨Host.Spares.refl h.sound file, h.machines⟩ ⟨hspares, hothers⟩ line
  rw [World.step]
  rcases hbuild : (Machine.build config line world.host).value with ⟨failure | machine, host⟩
  -- Nothing was built, but an image may have been made.
  · rw [hbuild] at hbuilt
    exact h.of_spares hbuilt.1 hbuilt.2
  -- The new machine joins the others.
  · rw [hbuild] at hbuilt
    obtain ⟨working, memory, hworking, hlayout, rfl⟩ := Machine.exists_layOut_of_build hbuild
    obtain ⟨hprogram, rfl, -⟩ := Memory.stores_of_layOut hlayout
    rw [hworking] at hstore
    obtain ⟨hplain, hanchored, hapart⟩ := hstore memory.working rfl
    apply h.of_spares hbuilt.1
    intro machine hmem
    rcases List.mem_append.1 hmem with hmem | hmem
    · exact hbuilt.2 machine hmem
    · obtain rfl := List.mem_singleton.1 hmem
      exact ⟨(congrArg Store.file? hprogram).trans rfl, hplain, hanchored, hapart⟩

/-- What an operation does to the sectors of a file: nothing, unless it completes a write to it. -/
theorem HoldsSectors.of_not_written (h : HoldsSectors file initial writes world)
    {machine : Machine} (hkeeps : KeepsOff file machine world.host) {operation : Operation}
    (hnot : ∀ descriptor,
      completed? machine world.host operation ≠ some ⟨.write, file, descriptor⟩)
    {machines : List Machine}
    (hmachines : ∀ other ∈ machines,
      KeepsOff file other (machine.perform world.host operation).value.2.2) :
    HoldsSectors file initial (writes ++ sectorWritesOf machine world.host operation)
      { host := (machine.perform world.host operation).value.2.2, machines } := by
  have huntouched : ¬ (machine.memory.program.file? = some file ∨
      machine.memory.working.file? = some file ∨
      ∃ descriptor, completed? machine world.host operation = some ⟨.write, file, descriptor⟩) := by
    rintro (hprogram | hworking | ⟨descriptor, hwritten⟩)
    · simp [hkeeps.program] at hprogram
    · exact hkeeps.apart hworking
    · exact hnot descriptor hwritten
  -- So the operation leaves the file alone, and the history has no new write to it.
  have hspares := (agree_perform machine world.host operation).spares h.sound file huntouched
  have hsame := h.of_spares hspares hmachines
  refine ⟨hsame.sound, hsame.lt, ?_, hsame.machines⟩
  intro track sector hsector
  rw [hsame.sectors track sector hsector]
  congr 1
  unfold sectorWritesOf
  split
  · rename_i written descriptor hcompleted
    rw [lastWrite?_append_singleton, if_neg]
    rintro ⟨rfl, -, -⟩
    exact hnot descriptor hcompleted
  · rw [List.append_nil]

/-- A completed write replaces one sector and leaves all others as they read, or fail to. -/
theorem HoldsSectors.of_written (h : HoldsSectors file initial writes world)
    {machine : Machine} {operation : Operation} {descriptor : Descriptor}
    (hwritten : completed? machine world.host operation = some ⟨.write, file, descriptor⟩)
    {machines : List Machine}
    (hmachines : ∀ other ∈ machines,
      KeepsOff file other (machine.perform world.host operation).value.2.2) :
    HoldsSectors file initial (writes ++ sectorWritesOf machine world.host operation)
      { host := (machine.perform world.host operation).value.2.2, machines } := by
  obtain ⟨bytes, hdefect, hoffset, hloaded, hhost⟩ := exists_bytes_of_write hwritten
  have hsector := Descriptor.isSector_of_defect? hdefect
  have hlength : bytes.length = sectorSize := (Memory.loadBlock_eq_ok hloaded).1
  have hagree := world.host.agree_writeInto (.regular file) descriptor.offset bytes
  have hcontent := Host.content_writeInto_self descriptor.offset bytes h.lt
  have hwrites : sectorWritesOf machine world.host operation =
      [⟨file, descriptor.track, descriptor.sector, bytes⟩] := by
    simp only [sectorWritesOf, hwritten, windowBytes_eq hloaded]
  rw [hhost] at hmachines ⊢
  refine ⟨hagree.sound h.sound, hagree.size ▸ h.lt, ?_, hmachines⟩
  intro track sector hother
  show ((world.host.writeInto (.regular file) descriptor.offset bytes).content file).slice? _ _ = _
  rw [hcontent, hwrites, lastWrite?_append_singleton]
  by_cases hsame : descriptor.track = track ∧ descriptor.sector = sector
  · -- The sector that was written.
    obtain ⟨rfl, rfl⟩ := hsame
    rw [if_pos ⟨rfl, rfl, rfl⟩, ← hlength]
    exact Content.slice?_splice_self hoffset
  · -- The write starts within the image, so it fills no gap that would make this sector readable.
    rw [if_neg fun hat => hsame hat.2, ← h.sectors track sector hother]
    refine Content.slice?_splice_of_disjoint hoffset (by decide) ?_
    rw [hlength]
    exact sectors_disjoint hsector hother hsame

theorem HoldsSectors.operate (h : HoldsSectors file initial writes world) {index : Nat}
    {machine : Machine} (hmachine : world.machines[index]? = some machine)
    (operation : Operation) :
    HoldsSectors file initial (writes ++ sectorWritesOf machine world.host operation)
      (world.step (.operate index operation)) := by
  have hkeeps := h.machines machine (List.mem_of_getElem? hmachine)
  have hsize := (agree_perform machine world.host operation).size
  have hmachines : ∀ other ∈ world.machines.set index
      (machine.perform world.host operation).value.2.1,
      KeepsOff file other (machine.perform world.host operation).value.2.2 := by
    intro other hmem
    rcases List.mem_or_eq_of_mem_set hmem with hmem | rfl
    · exact (h.machines other hmem).mono (Nat.le_of_eq hsize.symm)
    · have hdevices := Machine.sameDevices_perform machine world.host operation
      exact (hkeeps.of_sameDevices hdevices).mono (Nat.le_of_eq hsize.symm)
  rw [World.step_operate hmachine]
  by_cases hwritten : ∃ descriptor,
      completed? machine world.host operation = some ⟨.write, file, descriptor⟩
  · obtain ⟨descriptor, hwritten⟩ := hwritten
    exact h.of_written hwritten hmachines
  · exact h.of_not_written hkeeps (fun descriptor heq => hwritten ⟨descriptor, heq⟩) hmachines

theorem HoldsSectors.after (h : HoldsSectors file initial writes world) {actions : List Action}
    (hundisturbed : Undisturbed file world actions) :
    HoldsSectors file initial (writes ++ sectorWrites world actions) (world.after actions) := by
  induction actions generalizing world writes with
  | nil =>
    rw [sectorWrites, List.append_nil]
    exact h
  | cons action rest ih =>
    obtain ⟨haction, hrest⟩ := hundisturbed
    rw [sectorWrites, ← List.append_assoc]
    refine ih ?_ hrest
    cases action with
    | build config line =>
      -- The image is not the one of the new machine.
      rw [sectorWritesOfAction, List.append_nil]
      exact h.build config line haction
    | outside host =>
      -- Others leave the image alone.
      rw [sectorWritesOfAction, List.append_nil]
      apply h.of_spares haction
      intro machine hmem
      exact (h.machines machine hmem).mono haction.size
    | operate index operation =>
      cases hmachine : world.machines[index]? with
      | none =>
        simp only [sectorWritesOfAction, World.step, hmachine, List.append_nil]
        exact h
      | some machine =>
        -- A completed write to the image is the next of the history.
        simp only [sectorWritesOfAction, hmachine]
        exact h.operate hmachine operation

/-! ## What a completed read gives -/

/-- A sector that can be read has all its bytes, and they are those of the history. -/
theorem HoldsSectors.sectorByte?_eq (h : HoldsSectors file initial writes world)
    {track sector : UInt8} (hsector : IsSector track sector) {bytes : List UInt8}
    (hbytes : (world.host.content file).slice? (sectorOffset track sector) sectorSize =
      some bytes) {i : Nat} (hi : i < bytes.length) :
    sectorByte? initial writes file track sector i = some bytes[i] := by
  rw [h.sectors track sector hsector] at hbytes
  unfold sectorByte?
  cases hlast : lastWrite? writes file track sector with
  | none =>
    rw [hlast, Option.none_or] at hbytes
    obtain ⟨-, hlength, hget⟩ := (initial.slice?_eq_some_iff).1 hbytes
    dsimp only
    rw [← hget i (hlength ▸ hi)]
    exact List.getElem?_eq_getElem hi
  | some last =>
    rw [hlast, Option.some_or] at hbytes
    obtain rfl := Option.some.inj hbytes
    exact List.getElem?_eq_getElem hi

/-- In any run of any machines, a completed read of a sector of an image leaves in working storage,
as far as the window is in it, the bytes that were written last to that sector of that image, by
whichever machine, or else those that the image had at the start.  In particular there are such
bytes: a read does not end well on a sector that is not in the image and was never written. -/
theorem sector_of_read {start : Host} (hsound : start.Sound) (hfile : file < start.files.size)
    {actions : List Action} (hundisturbed : Undisturbed file { host := start } actions)
    (hrun : World.after { host := start } actions = world) {index : Nat} {machine : Machine}
    (hmachine : world.machines[index]? = some machine) {operation : Operation}
    {descriptor : Descriptor}
    (hread : completed? machine world.host operation = some ⟨.read, file, descriptor⟩)
    (hreadable : machine.memory.working.Readable world.host) {i : Nat} (hi : i < sectorSize) :
    ∃ byte,
      sectorByte? (start.content file) (sectorWrites { host := start } actions) file
        descriptor.track descriptor.sector i = some byte ∧
      ((machine.perform world.host operation).value.2.1.memory.region
          (descriptor.window + UInt16.ofNat i) = .working →
        ((machine.perform world.host operation).value.2.1.memory.load
          (machine.perform world.host operation).value.2.2
          (descriptor.window + UInt16.ofNat i)).value = .ok byte) := by
  have hstart : HoldsSectors file (start.content file) [] { host := start } := by
    refine ⟨hsound, hfile, ?_, ?_⟩
    · intro track sector _
      rfl
    · intro machine hmem
      simp at hmem
  -- The image still is what the history says when the read is asked for.
  have hreached := hstart.after hundisturbed
  rw [List.nil_append, hrun] at hreached
  have hkeeps := hreached.machines machine (List.mem_of_getElem? hmachine)
  obtain ⟨bytes, hdefect, hslice, hstored, hmemory, hhost⟩ := exists_bytes_of_read hread
  have hlength : bytes.length = sectorSize := ((Content.slice?_eq_some_iff _).1 hslice).2.1
  have hin : i < bytes.length := hlength ▸ hi
  -- The read gave the bytes of the image, and memory took all of them.
  refine ⟨bytes[i], hreached.sectorByte?_eq (Descriptor.isSector_of_defect? hdefect) hslice hin,
    ?_⟩
  intro hregion
  rw [hmemory, hhost]
  rw [hmemory] at hregion
  obtain ⟨offset, hroute⟩ := Memory.region_eq_working_iff.1 hregion
  rw [(Memory.workingOnly_storeBlock machine.memory world.host descriptor.window bytes).route]
    at hroute
  exact Memory.fetch_storeBlock hkeeps.plain hkeeps.anchored hreadable (by rw [hlength]; decide)
    hstored hin hroute

/-- A host with one image that ends after its first sector. -/
def imageHost : Host :=
  .ofContents [(["D", "A.DSK"], .regular 0), (["D"], .directory)] [.zeros 128]

/-- A machine is built there, mounts the image, puts a descriptor of the first sector at the
bottom of memory, latches it, and writes the sector. -/
def writingActions : List Action :=
  [.build { programSize := 0, workingSize := 256, volumesDirectory := ⟨"D"⟩ } {},
    .operate 0 (.mount 0 "A"), .operate 0 (.write 1 1), .operate 0 (.write 2 0x10),
    .operate 0 (.output 4 0x10), .operate 0 (.output 4 0), .operate 0 (.output 4 0),
    .operate 0 (.output 4 0x40)]

theorem sector_of_read_written :
    imageHost.Sound ∧ 0 < imageHost.files.size ∧
      Undisturbed 0 { host := imageHost } writingActions ∧
      ∃ machine,
        (World.after { host := imageHost } writingActions).machines[0]? = some machine ∧
        completed? machine (World.after { host := imageHost } writingActions).host
          (.output 4 0x20) = some ⟨.read, 0, ⟨0, 1, 0x10⟩⟩ ∧
        machine.memory.working.Readable (World.after { host := imageHost } writingActions).host ∧
        ∀ i < sectorSize, ∃ byte,
          sectorByte? (imageHost.content 0)
            (sectorWrites { host := imageHost } writingActions) 0 0 1 i = some byte ∧
          ((machine.perform (World.after { host := imageHost } writingActions).host
              (.output 4 0x20)).value.2.1.memory.region (0x10 + UInt16.ofNat i) = .working →
            ((machine.perform (World.after { host := imageHost } writingActions).host
              (.output 4 0x20)).value.2.1.memory.load
              (machine.perform (World.after { host := imageHost } writingActions).host
                (.output 4 0x20)).value.2.2 (0x10 + UInt16.ofNat i)).value = .ok byte) := by
  have hsound : imageHost.Sound := by decide
  have hundisturbed : Undisturbed 0 { host := imageHost } writingActions := by
    refine ⟨?_, trivial, trivial, trivial, trivial, trivial, trivial, trivial, trivial⟩
    intro path hpath
    simp at hpath
  have hcompleted : ((World.after { host := imageHost } writingActions).machines[0]?.bind
      fun machine => completed? machine (World.after { host := imageHost } writingActions).host
        (.output 4 0x20)) = some ⟨.read, 0, ⟨0, 1, 0x10⟩⟩ := by
    decide +kernel
  have harray : ∀ machine ∈ (World.after { host := imageHost } writingActions).machines,
      machine.memory.working.file? = none := by
    decide +kernel
  obtain ⟨machine, hmachine, hread⟩ := Option.bind_eq_some_iff.1 hcompleted
  have hreadable : machine.memory.working.Readable
      (World.after { host := imageHost } writingActions).host := by
    intro index hfile
    simp [harray machine (List.mem_of_getElem? hmachine)] at hfile
  exact ⟨hsound, by decide, hundisturbed, machine, hmachine, hread, hreadable, fun i hi =>
    sector_of_read hsound (by decide) hundisturbed rfl hmachine hread hreadable hi⟩

end Disk

end Backplane
