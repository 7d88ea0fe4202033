import Backplane.Proofs.Disk.Transfer
import Backplane.Proofs.Host.SameFiles
import Backplane.Proofs.Machine.Lockstep
import Backplane.Proofs.Machine.Storage

/-!
# The same machine on another host

A machine keeps of its host nothing but the number of the file behind working storage.  So the same
machine on another host, where that file has another number, is the machine with the number
replaced (`Machine.renumber`).  If all paths that the machine can be given lead to the same files
on both hosts, nobody can tell which of the hosts it is on: the two are in lockstep
(`lockstep_renumbered`).  That starts with building the machine, which makes its file on both hosts
or on neither (`build_sameFiles`).
-/

namespace Backplane

/-- The same store with another number for its file. -/
def Store.renumber (ρ : Nat → Nat) : Store → Store
  | .persistent node path size => .persistent (node.renumber ρ) path size
  | store => store

@[simp]
theorem Store.size_renumber (ρ : Nat → Nat) (store : Store) :
    (store.renumber ρ).size = store.size := by
  cases store <;> rfl

/-- The same memory with another number for the file behind working storage. -/
def Memory.renumber (ρ : Nat → Nat) (memory : Memory) : Memory :=
  memory.withWorking (memory.working.renumber ρ) (Store.size_renumber ρ memory.working)

/-- The same machine with another number for the file behind working storage. -/
def Machine.renumber (ρ : Nat → Nat) (machine : Machine) : Machine :=
  { machine with memory := machine.memory.renumber ρ }

variable {paths : Path → Prop} {ρ : Nat → Nat} {host other after : Host}

namespace Store

variable {store : Store}

/-- The node of a store whose file can be reached is known. -/
theorem knows_node {node : Node} {path : Path} {size : Nat}
    (hstore : ∀ file, (Store.persistent node path size).file? = some file →
      host.Reaches paths file) : host.Knows paths node := by
  rintro file rfl
  exact hstore file rfl

theorem load_renumber (h : Host.SameFiles paths ρ host other)
    (hstore : ∀ file, store.file? = some file → host.Reaches paths file) (offset : Nat) :
    (store.renumber ρ).load other offset = store.load host offset := by
  cases store with
  | persistent node path size => exact h.readByte (knows_node hstore) offset
  | _ => rfl

theorem storeFault?_renumber (h : Host.SameFiles paths ρ host other)
    (hstore : ∀ file, store.file? = some file → host.Reaches paths file) (offset : Nat) :
    (store.renumber ρ).storeFault? other offset = store.storeFault? host offset := by
  cases store with
  | persistent node path size => exact h.writeFault? (knows_node hstore) offset 1
  | _ => rfl

theorem put_renumber (h : Host.SameFiles paths ρ host other)
    (hstore : ∀ file, store.file? = some file → host.Reaches paths file) (offset : Nat)
    (value : UInt8) :
    ((store.renumber ρ).put other offset value).1 = (store.put host offset value).1.renumber ρ ∧
      Host.SameFiles paths ρ (store.put host offset value).2
        ((store.renumber ρ).put other offset value).2 := by
  cases store with
  | persistent node path size => exact ⟨rfl, h.writeInto (knows_node hstore) offset [value]⟩
  | _ => exact ⟨rfl, h⟩

/-- A store that can be opened under one of the paths can be opened on the other host. -/
theorem openPersistent_sameFiles (h : Host.SameFiles paths ρ host other) {path : Path}
    (hpath : paths path) {size : Nat}
    (hopen : (openPersistent host path size).value = (.ok store, after)) :
    ∃ ρ' otherAfter,
      (openPersistent other path size).value = (.ok (store.renumber ρ'), otherAfter) ∧
      Host.SameFiles paths ρ' after otherAfter ∧
      ∀ file, store.file? = some file → after.Reaches paths file := by
  unfold openPersistent at hopen ⊢
  cases hmade : host.openOrCreate path with
  | error fault => simp [hmade] at hopen
  | ok result =>
    obtain ⟨node, made⟩ := result
    obtain ⟨ρ', otherMade, hother, hsame, hknown⟩ := h.openOrCreate hpath hmade
    have hreached : ∀ file, (Store.persistent node path size).file? = some file →
        made.Reaches paths file := by
      intro file hfile
      obtain ⟨_, _, ⟨⟩⟩ := exists_of_file? hfile
      exact hknown file rfl
    simp only [hmade] at hopen
    simp only [hother, hsame.measure hknown]
    rcases hmeasure : made.measure node with fault | length
    · simp [hmeasure] at hopen
    simp only [hmeasure] at hopen
    dsimp only
    split at hopen
    · -- The file was too short on both hosts, and has been made longer on both.
      rename_i hlt
      rw [if_pos hlt]
      cases hgrow : made.setLength node size with
      | error fault => simp [hgrow] at hopen
      | ok grown =>
        obtain ⟨otherGrown, hotherGrow, hgrown⟩ := hsame.setLength hknown hgrow
        obtain ⟨rfl, rfl⟩ : .persistent node path size = store ∧ grown = after := by
          simpa [hgrow, openPersistent.opened] using hopen
        simp only [hotherGrow]
        refine ⟨ρ', otherGrown, rfl, hgrown, ?_⟩
        intro file hfile
        exact (hreached file hfile).agree (Host.agree_setLength hgrow)
    · -- It was long enough on both.
      rename_i hle
      rw [if_neg hle]
      obtain ⟨rfl, rfl⟩ : .persistent node path size = store ∧ made = after := by
        simpa [openPersistent.opened] using hopen
      exact ⟨ρ', otherMade, rfl, hsame, hreached⟩

end Store

/-! ## Memory -/

namespace Memory

/-- A memory on a host, and the same memory on another host with the same files. -/
structure Renumbered (paths : Path → Prop) (ρ : Nat → Nat) (memory : Memory) (host : Host)
    (otherMemory : Memory) (other : Host) : Prop where
  renumbered : otherMemory = memory.renumber ρ
  hosts : Host.SameFiles paths ρ host other
  program : ∃ bytes, memory.program = .array bytes
  working : ∀ file, memory.working.file? = some file → host.Reaches paths file

variable {memory otherMemory : Memory}

theorem route_renumber (ρ : Nat → Nat) (memory : Memory) (address : UInt16) :
    (memory.renumber ρ).route address = memory.route address := rfl

/-- The hosts may change as long as they keep the same files and no path leads elsewhere. -/
theorem Renumbered.of_hosts (h : Renumbered paths ρ memory host otherMemory other)
    {otherAfter : Host} (hhosts : Host.SameFiles paths ρ after otherAfter)
    (hkept : ∀ path node, host.find path = .ok node → after.find path = .ok node) :
    Renumbered paths ρ memory after otherMemory otherAfter :=
  ⟨h.renumbered, hhosts, h.program, fun file hfile => (h.working file hfile).kept hkept⟩

theorem Renumbered.put (h : Renumbered paths ρ memory host otherMemory other) (address : UInt16)
    (value : UInt8) :
    Renumbered paths ρ (memory.put host address value).1 (memory.put host address value).2
      (otherMemory.put other address value).1 (otherMemory.put other address value).2 := by
  obtain ⟨rfl, hhosts, hprogram, hworking⟩ := h
  by_cases hroute : ∃ offset, memory.route address = .working offset
  · obtain ⟨offset, hroute⟩ := hroute
    have hother := (route_renumber ρ memory address).trans hroute
    obtain ⟨hstore, hafter⟩ := Store.put_renumber hhosts hworking offset value
    have hdevice := Store.sameDevice_put memory.working host offset value
    have hagree := Store.agree_put memory.working host offset value
    rw [put_of_working hroute, put_of_working hother]
    refine ⟨eq_of_stores rfl hstore rfl, hafter, hprogram, ?_⟩
    · intro file hfile
      exact (hworking file (hdevice.file?.symm.trans hfile)).agree hagree
  · have hnot : ∀ offset, memory.route address ≠ .working offset := fun offset heq =>
      hroute ⟨offset, heq⟩
    have hother : ∀ offset, (memory.renumber ρ).route address ≠ .working offset := by
      intro offset
      rw [route_renumber]
      exact hnot offset
    rw [put_of_not_working hnot, put_of_not_working hother]
    exact ⟨rfl, hhosts, hprogram, hworking⟩

theorem lockstep_renumbered (paths : Path → Prop) (ρ : Nat → Nat) :
    Lockstep (Renumbered paths ρ) := by
  constructor
  · rintro memory host _ other ⟨rfl, hhosts, ⟨bytes, hprogram⟩, hworking⟩ address
    unfold fetch
    rw [route_renumber]
    cases hroute : memory.route address with
    | program offset =>
      show memory.program.load other offset = memory.program.load host offset
      rw [hprogram]
      rfl
    | working offset => exact Store.load_renumber hhosts hworking offset
    | reserved => rfl
    | unmapped => rfl
  · rintro memory host _ other ⟨rfl, hhosts, -, hworking⟩ address
    unfold storeFault?
    rw [route_renumber]
    cases memory.route address with
    | working offset => exact Store.storeFault?_renumber hhosts hworking offset
    | _ => rfl
  · intro memory host otherMemory other h address value
    exact h.put address value

end Memory

/-! ## Machines -/

/-- An image under one of the paths is open alike on both hosts. -/
theorem Disk.Image.openAlike_renumbered {memory otherMemory : Memory} {node : Node}
    (h : Memory.Renumbered paths ρ memory host otherMemory other)
    (hnode : host.Knows paths node) :
    Disk.Image.OpenAlike (Memory.Renumbered paths ρ) memory host otherMemory other node
      (node.renumber ρ) := by
  constructor
  · intro offset
    exact Disk.Image.readSector_sameFiles h.hosts hnode offset
  · intro offset bytes
    rcases Disk.Image.writeSector_sameFiles h.hosts hnode offset bytes with
      ⟨after, otherAfter, hfirst, hsecond, hafter⟩ | ⟨fault, hfirst, hsecond⟩
    · obtain ⟨file, -, rfl⟩ := Disk.Image.writeSector_eq_ok hfirst
      refine .inl ⟨_, otherAfter, hfirst, hsecond, h.of_hosts hafter ?_⟩
      intro path node hfind
      rw [(host.agree_writeInto (.regular file) offset bytes).find, hfind]
    · exact .inr ⟨fault, hfirst, hsecond⟩

namespace Machine

variable {config : Config} {line : Console.Line} {machine : Machine}

/-- Nobody can tell on which of the hosts a machine is. -/
theorem lockstep_renumbered (paths : Path → Prop) (ρ : Nat → Nat) :
    Lockstep paths (Memory.Renumbered paths ρ) := by
  refine ⟨⟨Memory.lockstep_renumbered paths ρ, ?_⟩, ?_, ?_⟩
  · intro memory host otherMemory other path h hpath direction offset
    rcases Disk.Image.openAt_sameFiles h.hosts hpath direction offset with
      ⟨node, hfirst, hsecond, hknown⟩ | hrefused
    · exact .inl ⟨node, _, hfirst, hsecond, Disk.Image.openAlike_renumbered h hknown⟩
    · exact .inr hrefused
  · intro memory host otherMemory other path h hpath
    exact h.hosts.readFile? hpath
  · rintro memory host _ other ⟨rfl, hhosts, ⟨bytes, hprogram⟩, hworking⟩ image
    obtain ⟨result, filled, hload⟩ := Memory.exists_loadProgram_of_host bytes image
    obtain ⟨hsize, hfirst⟩ := hload hprogram
    obtain ⟨hotherSize, hsecond⟩ := hload
      (show (memory.renumber ρ).program = .array bytes from hprogram)
    rw [hfirst host, hsecond other]
    exact ⟨rfl, rfl, hhosts, ⟨filled, rfl⟩, hworking⟩

/-! ## Building -/

theorem openWorking_sameFiles (h : Host.SameFiles paths ρ host other)
    (hpaths : ∀ path, config.persistentPath = some path → paths path) {working : Store}
    (hopen : (openWorking config host).value = (.ok working, after)) :
    ∃ ρ' otherAfter,
      (openWorking config other).value = (.ok (working.renumber ρ'), otherAfter) ∧
      Host.SameFiles paths ρ' after otherAfter ∧
      ∀ file, working.file? = some file → after.Reaches paths file := by
  cases hpersistent : config.persistentPath with
  | none =>
    obtain ⟨hlimit, rfl, rfl⟩ := (openWorking_of_no_path_eq_ok_iff hpersistent).1 hopen
    refine ⟨ρ, other, (openWorking_of_no_path_eq_ok_iff hpersistent).2 ⟨hlimit, rfl, rfl⟩, h, ?_⟩
    intro file hfile
    exact absurd hfile (by simp [Store.zeroed, Store.file?])
  | some path =>
    obtain ⟨ρ', otherAfter, hother, hsame⟩ := Store.openPersistent_sameFiles h
      (hpaths path hpersistent) ((openWorking_of_path_eq_ok_iff hpersistent).1 hopen)
    exact ⟨ρ', otherAfter, (openWorking_of_path_eq_ok_iff hpersistent).2 hother, hsame⟩

/-- A machine that can be built can be built on the other host, if the image of its working storage
is under one of the paths. -/
theorem build_sameFiles (h : Host.SameFiles paths ρ host other)
    (hpaths : ∀ path, config.persistentPath = some path → paths path)
    (hbuild : (build config line host).value = (.ok machine, after)) :
    ∃ ρ' otherAfter,
      (build config line other).value = (.ok (machine.renumber ρ'), otherAfter) ∧
      Paired paths (Memory.Renumbered paths ρ') config config machine after (machine.renumber ρ')
        otherAfter := by
  obtain ⟨working, memory, hopen, hlayout, rfl⟩ := exists_layOut_of_build hbuild
  obtain ⟨ρ', otherAfter, hother, hhosts, hworking⟩ := openWorking_sameFiles h hpaths hopen
  obtain ⟨hfits, rfl⟩ := Memory.layOut_eq_ok_iff.1 hlayout
  have hsize := size_of_openWorking hopen
  rw [Store.size_zeroed, hsize] at hfits
  refine ⟨ρ', otherAfter, ?_, ⟨rfl, rfl⟩, ?_, _, rfl, rfl, hhosts, ⟨_, rfl⟩, hworking⟩
  · rw [build_of_openWorking hother (by rw [Store.size_renumber, hsize]) hfits]
    exact congrArg (fun memory => (Except.ok (ofMemory config memory line), otherAfter))
      (Memory.eq_of_stores rfl rfl rfl)
  · intro drive path hget
    cases drive <;> exact absurd hget (by simp [ofMemory, Disk.Drives.get])

end Machine

end Backplane
