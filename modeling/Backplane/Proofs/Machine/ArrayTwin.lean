import Backplane.Proofs.Disk.Completed
import Backplane.Proofs.Machine.Lockstep
import Backplane.Proofs.Memory.Mirror
import Backplane.Proofs.Store.Persistence

/-!
# Machines on an image file and on an array

Whether working storage is an image file or an array makes no difference to anybody but the file.
Two machines of one configuration are built, one on an image file whose bytes are all zero as far as
working storage goes, the other on an array, and the same operations are carried out on both.  Then
they answer the same, say the same on the console, and leave the same in every other file.

The relation that carries this is `Twins`: the machine on the array is the machine on the file with
an array for working storage (`Machine.onArray`), and the array mirrors the file.  It is kept by
every operation that does not get at the file past working storage, and that means by name.  A name
that was mounted or loaded and leads to the file would tell the machines apart, whether or not it is
spelled like the path that working storage was opened under.

## Hypotheses

An array takes every byte and gives it back, so the host has to do the same with the file: it lets
the file be opened, or made, and measured and grown, and refuses none of its bytes (`Host.Serves`).
A full disk, or one that goes bad during the run, could be told from an array.

## The start

The image of zeros need not be there yet.  `LeadsToZeros` allows a path under which nothing is,
where a file is made and filled with zeros, and a file that is already there and has no other byte
below the size, however long it is.  In both cases the store that is opened has the cells of a fresh
array (`twins_of_zeros`), and the other host, on which the array's machine is built, has not been
touched at all.

## What is compared

Everything but the file: the answers to all operations, the console, the machine, and what every
path leads to that does not lead to the file.  Reasons for a path that leads nowhere are not
compared, because a path that would have to pass through the image is refused for another reason
where there is no image.
-/

namespace Backplane

namespace Machine

/-- The same machine with an array for working storage. -/
def onArray (machine : Machine) (data : Content)
    (length_eq : data.length = machine.memory.working.size) : Machine :=
  { machine with
    config := { machine.config with persistentPath := none }
    memory := machine.memory.onArray data length_eq }

/-- The name of an operation, if it has one, does not lead to a file. -/
def AvoidsFile (config : Config) (host : Host) (file : Nat) (operation : Operation) : Prop :=
  ∀ path, config.pathOf? operation = some path → host.find path ≠ .ok (.regular file)

/-- No name that is mounted or loaded in a run leads to a file. -/
def StaysOff (config : Config) (file : Nat) (machine : Machine) (host : Host) :
    List Operation → Prop
  | [] => True
  | operation :: rest =>
    (∀ request ∈ machine.requestsOf operation, AvoidsFile config host file request) ∧
      StaysOff config file (machine.perform host operation).value.2.1
        (machine.perform host operation).value.2.2 rest

/-- A machine with working storage in a file, and the same machine on an array that mirrors it, on a
host that differs in the file at most.  No drive holds the file as an image, and paths still lead
where they led at the start, so a name that avoided the file then avoids it now. -/
def Twins (config : Config) (start : Host) (file : Nat) (path : Path) :
    Machine → Host → Machine → Host → Prop :=
  Paired (fun image => start.find image ≠ .ok (.regular file)) (Memory.Mirrored start file)
    { config with persistentPath := some path } { config with persistentPath := none }

variable {config : Config} {start host otherHost : Host} {file : Nat} {path : Path}
  {machine other : Machine} {operation : Operation}

/-! ## Names that do not lead to the file -/

/-- Only where paths lead matters. -/
theorem AvoidsFile.of_find (h : AvoidsFile config host file operation)
    (hfind : ∀ path, otherHost.find path = host.find path) :
    AvoidsFile config otherHost file operation := by
  intro path hpath
  rw [hfind]
  exact h path hpath

theorem avoidsFile_of_nameless (h : config.pathOf? operation = none) :
    AvoidsFile config host file operation := by
  intro path hpath
  exact absurd (h.symm.trans hpath) (by simp)

/-- An image that is not the file is open alike on both hosts. -/
theorem openAlike_mirrored {memory otherMemory : Memory} {node : Node}
    (h : Memory.Mirrored start file memory host otherMemory otherHost)
    (hnode : node ≠ .regular file) :
    Disk.Image.OpenAlike (Memory.Mirrored start file) memory host otherMemory otherHost node
      node := by
  obtain ⟨⟨data, hmirrors, rfl⟩, hhosts, hfind⟩ := h
  constructor
  · intro offset
    exact Disk.Image.readSector_beside hhosts hnode offset
  · intro offset bytes
    rcases Disk.Image.writeSector_beside hhosts hnode offset bytes with
      ⟨after, otherAfter, hfirst, hsecond, hbeside, hcontent⟩ | hrefused
    · obtain ⟨written, -, hafter⟩ := Disk.Image.writeSector_eq_ok hfirst
      have hagree := host.agree_writeInto (.regular written) offset bytes
      rw [← hafter] at hagree
      have hkept := hmirrors.of_content hagree.size (hagree.refusal? _) hcontent
      refine .inl ⟨after, otherAfter, hfirst, hsecond, ⟨data, hkept, rfl⟩, hbeside, ?_⟩
      intro path
      rw [hagree.find, hfind]
    · exact .inr hrefused

/-- Nobody who does not get at the file by name can tell it from the array. -/
theorem lockstep_mirrored (start : Host) (file : Nat) :
    Lockstep (fun image => start.find image ≠ .ok (.regular file))
      (Memory.Mirrored start file) := by
  refine ⟨⟨Memory.lockstep_mirrored start file, ?_⟩, ?_, ?_⟩
  · intro memory host otherMemory otherHost image h himage direction offset
    rw [← h.find] at himage
    rcases Disk.Image.openAt_beside h.hosts himage direction offset with
      ⟨node, hfirst, hsecond, hnode⟩ | hrefused
    · exact .inl ⟨node, node, hfirst, hsecond, openAlike_mirrored h hnode⟩
    · exact .inr hrefused
  · intro memory host otherMemory otherHost image h himage
    rw [← h.find] at himage
    exact h.hosts.readFile? himage
  · rintro memory host _ otherHost ⟨⟨data, hmirrors, rfl⟩, hhosts, hfind⟩ image
    obtain ⟨result, after, hkept, hload, hother⟩ := hmirrors.loadProgram image
    rw [hload, hother otherHost]
    exact ⟨rfl, ⟨data, hkept, rfl⟩, hhosts, hfind⟩

/-! ## Twins -/

theorem Twins.twin (h : Twins config start file path machine host other otherHost) :
    ∃ (data : Content) (mirrors : machine.memory.Mirrors file host data),
      other = machine.onArray data mirrors.length := by
  obtain ⟨hconfigured, -, _, rfl, ⟨data, hmirrors, rfl⟩, -, -⟩ := h
  refine ⟨data, hmirrors, ?_⟩
  rw [onArray, hconfigured.config]
  rfl

theorem Twins.hosts (h : Twins config start file path machine host other otherHost) :
    Host.Beside file host otherHost := by
  obtain ⟨-, -, _, -, hmirrored⟩ := h
  exact hmirrored.hosts

theorem Twins.find (h : Twins config start file path machine host other otherHost)
    (image : Path) : host.find image = start.find image := by
  obtain ⟨-, -, _, -, hmirrored⟩ := h
  exact hmirrored.find image

/-- Twins answer every operation alike and stay twins, as long as no name leads to the file. -/
theorem Twins.perform (h : Twins config start file path machine host other otherHost)
    (havoids : ∀ request ∈ machine.requestsOf operation, AvoidsFile config host file request) :
    (other.perform otherHost operation).value.1 = (machine.perform host operation).value.1 ∧
      Twins config start file path (machine.perform host operation).value.2.1
        (machine.perform host operation).value.2.2 (other.perform otherHost operation).value.2.1
        (other.perform otherHost operation).value.2.2 := by
  refine (lockstep_mirrored start file).perform rfl h ?_
  intro request hmem
  exact (havoids request hmem).of_find fun image => (h.find image).symm

/-! ## Runs -/

theorem Twins.run (h : Twins config start file path machine host other otherHost)
    {operations : List Operation} (hstays : StaysOff config file machine host operations) :
    other.answersTo otherHost operations = machine.answersTo host operations ∧
      Twins config start file path (machine.performAll host operations).1
        (machine.performAll host operations).2 (other.performAll otherHost operations).1
        (other.performAll otherHost operations).2 := by
  induction operations generalizing machine host other otherHost with
  | nil => exact ⟨rfl, h⟩
  | cons operation rest ih =>
    obtain ⟨hfirst, hrest⟩ := hstays
    obtain ⟨hanswer, htwins⟩ := h.perform hfirst
    obtain ⟨hanswers, hafter⟩ := ih htwins hrest
    refine ⟨?_, hafter⟩
    rw [answersTo, answersTo, hanswer, hanswers]

/-! ## Building both -/

/-- A path that an image of zeros can be kept under: nothing is there yet, in a directory that
exists, or there is a regular file that has no other byte below the size. -/
def LeadsToZeros (host : Host) (path : Path) (size : Nat) : Prop :=
  (∃ names, host.locate path = .ok names ∧ host.node? names = none) ∨
    ∃ file, host.find path = .ok (.regular file) ∧
      ∀ offset < size, ∀ value, (host.content file).get? offset = some value → value = 0

/-- Opening such a path gives a file of zeros, and changes nothing else. -/
theorem exists_openPersistent_of_zeros {path : Path} {size : Nat} (hsound : host.Sound)
    (hserves : host.Serves path size) (hzeros : LeadsToZeros host path size)
    (hsize : size ≤ Host.offsetLimit) :
    ∃ file after, (Store.openPersistent host path size).value =
        (.ok (.persistent (.regular file) path size), after) ∧
      after.find path = .ok (.regular file) ∧ Host.Beside file after host ∧
      after.ServesNode size (.regular file) ∧ size ≤ (after.content file).length ∧
      ∀ offset < size, (after.content file).byte offset = 0 := by
  -- Once the file is open with zeros in front, growing it adds zeros behind and touches no other.
  have hopened {file : Nat} {made : Host}
      (hopen : host.openOrCreate path = .ok (.regular file, made))
      (hbeside : Host.Beside file made host)
      (hbytes : ∀ offset < size, (made.content file).byte offset = 0) :
      ∃ file after, (Store.openPersistent host path size).value =
          (.ok (.persistent (.regular file) path size), after) ∧
        after.find path = .ok (.regular file) ∧ Host.Beside file after host ∧
        after.ServesNode size (.regular file) ∧ size ≤ (after.content file).length ∧
        ∀ offset < size, (after.content file).byte offset = 0 := by
    have hserved := hserves.opened hopen
    obtain ⟨after, hstore, hgrown⟩ :=
      Store.openPersistent_of_canHold hopen (Store.canHold_of_serves hserved hsize)
    have hlength := hgrown.length file hbeside.lt rfl
    refine ⟨file, after, hstore, ?_, ?_, hserved.of_agree hgrown.agree, by omega, ?_⟩
    · rw [hgrown.agree.find, Host.find_openOrCreate hopen]
    · apply hbeside.of_agree
      exact hgrown.agree.mono fun index hnode => (Node.regular.inj hnode).symm
    · intro offset hoffset
      rw [hgrown.byte file hbeside.lt, hbytes offset hoffset]
  rcases hzeros with ⟨names, hlocate, hnone⟩ | ⟨file, hfind, hbytes⟩
  · -- It was missing, and a file that is made has no bytes yet.
    refine hopened (Host.openOrCreate_of_missing hlocate hnone (hserves.place names hlocate))
      (Host.beside_addFile hnone) ?_
    intro offset _
    show ((host.addFile names).2.content host.files.size).byte offset = 0
    rw [Host.content_addFile_self]
    rfl
  · -- It was there, without a byte below the size that is not zero.
    have hgranted := hserves.found _ hfind .openForWriting trivial
    refine hopened (Host.openOrCreate_of_find hfind (by simp) hgranted)
      (Host.beside_refl (hsound.lt_of_find hfind)) ?_
    intro offset hoffset
    rw [Content.byte_eq_getD_get?]
    cases hget : (host.content file).get? offset with
    | none => rfl
    | some value => exact hbytes offset hoffset value hget

/-- Machines that are built on a file of zeros and on an array are twins. -/
theorem twins_of_zeros (line : Console.Line) (path : Path)
    (hfits : config.programSize + config.workingSize ≤ storageLimit config.reservedPage)
    (hbeside : Host.Beside file start host) (hserves : start.ServesNode 0 (.regular file))
    (hlength : config.workingSize ≤ (start.content file).length)
    (hbytes : ∀ offset < config.workingSize, (start.content file).byte offset = 0) :
    Twins config start file path
      (ofMemory { config with persistentPath := some path }
        (.ofStores (.zeroed config.programSize)
          (.persistent (.regular file) path config.workingSize) config.reservedPage hfits) line)
      start
      (ofMemory { config with persistentPath := none }
        (.ofStores (.zeroed config.programSize) (.zeroed config.workingSize) config.reservedPage
          hfits) line) host := by
  have hmirrors : Memory.Mirrors (.ofStores (.zeroed config.programSize)
      (.persistent (.regular file) path config.workingSize) config.reservedPage hfits) file start
      (.zeros config.workingSize) := by
    refine ⟨⟨_, rfl⟩, rfl, hbeside.lt, hserves, rfl, hlength, ?_⟩
    intro offset hoffset
    rw [hbytes offset hoffset]
    simp [Content.byte, Content.zeros]
  refine ⟨⟨rfl, rfl⟩, ?_, _, rfl, ⟨_, hmirrors, rfl⟩, hbeside, fun _ => rfl⟩
  intro drive mounted hget
  cases drive <;> exact absurd hget (by simp [ofMemory, Disk.Drives.get])

/-- A machine on an image file of zeros and a machine on an array cannot be told apart, if the host
serves the file.  Of every configuration that fits both can be built, and as long as no name that
is mounted or loaded leads to the file, they answer any operations alike, end up as the same
machine but for working storage, with the same console, and leave the same content under every path
that does not lead to the file. -/
theorem answersTo_onArray (line : Console.Line) {path : Path} (hsound : host.Sound)
    (hfits : config.programSize + config.workingSize ≤ storageLimit config.reservedPage)
    (hserves : host.Serves path config.workingSize)
    (hzeros : LeadsToZeros host path config.workingSize) :
    ∃ first start second file,
      (build { config with persistentPath := some path } line host).value = (.ok first, start) ∧
      (build { config with persistentPath := none } line host).value = (.ok second, host) ∧
      start.find path = .ok (.regular file) ∧
      ∀ operations, StaysOff config file first start operations →
        second.answersTo host operations = first.answersTo start operations ∧
        (∃ data length_eq, (second.performAll host operations).1 =
          (first.performAll start operations).1.onArray data length_eq) ∧
        (second.performAll host operations).1.console =
          (first.performAll start operations).1.console ∧
        ∀ other, start.find other ≠ .ok (.regular file) →
          (second.performAll host operations).2.contents? other =
            (first.performAll start operations).2.contents? other := by
  have hspace := Nat.le_trans hfits (Memory.storageLimit_le _)
  have hmax : addressSpace ≤ Host.offsetLimit := by decide
  have hblock : addressSpace ≤ Store.blockLimit := by decide
  -- Both kinds of working storage can be opened, and the image is one of zeros.
  obtain ⟨file, start, hstore, hfind, hbeside, hserved, hlength, hbytes⟩ :=
    exists_openPersistent_of_zeros hsound hserves hzeros (by omega)
  have hopen : (openWorking { config with persistentPath := some path } host).value =
      (.ok (.persistent (.regular file) path config.workingSize), start) :=
    (openWorking_of_path_eq_ok_iff rfl).2 hstore
  have harray : (openWorking { config with persistentPath := none } host).value =
      (.ok (.zeroed config.workingSize), host) := by
    refine (openWorking_of_no_path_eq_ok_iff rfl).2 ⟨?_, rfl, rfl⟩
    show config.workingSize ≤ Store.blockLimit
    omega
  refine ⟨_, start, _, file, build_of_openWorking hopen rfl hfits line,
    build_of_openWorking harray rfl hfits line, hfind, ?_⟩
  intro operations hstays
  -- So the machines begin as twins, and no operation tells them apart.
  have hbytewise := hserved.mono (Nat.zero_le _)
  have htwins := twins_of_zeros line path hfits hbeside hbytewise hlength hbytes
  obtain ⟨hanswers, hafter⟩ := htwins.run hstays
  obtain ⟨data, hmirrors, htwin⟩ := hafter.twin
  refine ⟨hanswers, ⟨data, hmirrors.length, htwin⟩, by rw [htwin]; rfl, ?_⟩
  intro other hother
  apply hafter.hosts.contents?
  rw [hafter.find]
  exact hother

/-- A byte is stored in working storage and read again, and a disk that is not there is mounted in
between. -/
def twinOperations : List Operation := [.write 5 7, .mount 0 "A", .read 5]

theorem answersTo_onArray_missing :
    ({} : Host).Serves ⟨"M"⟩ 4 ∧ LeadsToZeros {} ⟨"M"⟩ 4 ∧
      ∃ first start second,
        (build { programSize := 4, workingSize := 4, persistentPath := some ⟨"M"⟩ } {} {}).value =
          (.ok first, start) ∧
        (build { programSize := 4, workingSize := 4 } {} {}).value = (.ok second, {}) ∧
        second.answersTo {} twinOperations = first.answersTo start twinOperations := by
  have hsound : ({} : Host).Sound := by decide
  have hserves : ({} : Host).Serves ⟨"M"⟩ 4 :=
    Host.serves_of_willing (fun node _ => by cases node <;> rfl) (fun _ => rfl) (fun _ => rfl) _
  have hzeros : LeadsToZeros {} ⟨"M"⟩ 4 := .inl ⟨["M"], by decide +kernel, by decide +kernel⟩
  let config : Config := { programSize := 4, workingSize := 4 }
  have hfits : config.programSize + config.workingSize ≤ storageLimit config.reservedPage := by
    decide
  obtain ⟨first, start, second, file, hfirst, hsecond, -, hsame⟩ :=
    answersTo_onArray {} hsound hfits hserves hzeros
  have hmissing : start.find ⟨"DISKS80/A.DSK"⟩ = .error .notFound := by
    have hstart : start = (build { config with persistentPath := some ⟨"M"⟩ } {} {}).value.2 := by
      rw [hfirst]
    rw [hstart]
    decide +kernel
  refine ⟨hserves, hzeros, first, start, second, hfirst, hsecond, (hsame twinOperations ?_).1⟩
  refine ⟨?_, ?_, ?_, trivial⟩
  · intro request hmem
    obtain rfl := List.mem_singleton.1 hmem
    exact avoidsFile_of_nameless rfl
  · intro request hmem path hpath
    obtain rfl := List.mem_singleton.1 hmem
    have hname : config.pathOf? (.mount 0 "A") = some ⟨"DISKS80/A.DSK"⟩ := by decide +kernel
    obtain rfl := Option.some.inj (hname.symm.trans hpath)
    have hagree := Disk.agree_perform first start (.write 5 7)
    rw [hagree.find, hmissing]
    simp
  · intro request hmem
    obtain rfl := List.mem_singleton.1 hmem
    exact avoidsFile_of_nameless rfl

end Machine

end Backplane
