import Backplane.Proofs.Host.Beside
import Backplane.Proofs.Memory.Lockstep
import Backplane.Proofs.Store.Persistence

/-!
# Working storage in a file and in an array

Whether working storage is an image file or an array cannot be seen through memory, as long as both
hold the same bytes.  `Mirrors` says that an array does: it is as long as working storage, and at
every offset below its size the file has the byte of the array.  The file may be longer, and what it
has past the size is never looked at.

Memory in the file and the same memory on the array (`Memory.onArray`) then answer every access
alike and go on to mirror each other, each on a host of its own.  An array never refuses a byte, so
the host of the file must not refuse to read or to write one of that file either; that is the only
condition on the hosts, because the file is looked at under its number alone.  The two are in
lockstep (`lockstep_mirrored`), also when the hosts are to stay the same but for the file.

## What the file may do

Others may open the file under any path, and look at it; nothing changes it but working storage, as
long as nobody mounts it as a disk.  That is why `Mirrored` keeps to hosts that differ in this file
at most, and why whoever uses it has to keep its paths away from the file.
-/

namespace Backplane

namespace Memory

/-- The same memory with an array for working storage. -/
def onArray (memory : Memory) (data : Content) (length_eq : data.length = memory.working.size) :
    Memory :=
  memory.withWorking (.array data) length_eq

/-- Working storage is in a file that has the bytes of an array and of which the host refuses none,
and program storage is an array. -/
structure Mirrors (memory : Memory) (file : Nat) (host : Host) (data : Content) : Prop where
  program : ∃ bytes, memory.program = .array bytes
  kept : memory.working.file? = some file
  lt : file < host.files.size
  serves : host.ServesNode 0 (.regular file)
  length : data.length = memory.working.size
  within : memory.working.size ≤ (host.content file).length
  byte : ∀ offset < memory.working.size, data.byte offset = (host.content file).byte offset

variable {memory : Memory} {file : Nat} {host other : Host} {data : Content}

/-- Only the file matters. -/
theorem Mirrors.of_content (h : memory.Mirrors file host data)
    (hsize : other.files.size = host.files.size)
    (hrefusal : ∀ access, other.refusal? (.regular file) access =
      host.refusal? (.regular file) access)
    (hcontent : other.content file = host.content file) : memory.Mirrors file other data :=
  ⟨h.program, h.kept, hsize ▸ h.lt, fun access haccess => (hrefusal access).trans
    (h.serves access haccess), h.length, hcontent ▸ h.within, hcontent ▸ h.byte⟩

/-- What changes at most the file behind working storage changes at most this file. -/
theorem Mirrors.agree (h : memory.Mirrors file host data) {after : Host}
    (hagree : Host.Agree (fun index => memory.working.file? = some index) host after) :
    Host.Agree (fun index => index = file) host after :=
  hagree.mono fun _ hindex => (Option.some.inj (h.kept.symm.trans hindex)).symm

/-! ## Loading -/

@[simp]
theorem route_onArray (memory : Memory) (length_eq : data.length = memory.working.size)
    (address : UInt16) : (memory.onArray data length_eq).route address = memory.route address := rfl

theorem takesAll_onArray (memory : Memory) (length_eq : data.length = memory.working.size)
    (other : Host) : (memory.onArray data length_eq).TakesAll other :=
  takesAll_of_working fun _ _ => rfl

theorem Mirrors.fetch (h : memory.Mirrors file host data) (other : Host) (address : UInt16) :
    (memory.onArray data h.length).fetch other address = memory.fetch host address := by
  unfold Memory.fetch
  rw [route_onArray]
  cases hroute : memory.route address with
  | program offset =>
    obtain ⟨bytes, hprogram⟩ := h.program
    show memory.program.load other offset = memory.program.load host offset
    rw [hprogram]
    rfl
  | working offset =>
    obtain ⟨path, size, hworking⟩ := Store.exists_of_file? h.kept
    have hoffset := lt_of_route_working hroute
    obtain ⟨-, -, heq⟩ := route_eq_working_iff.1 hroute
    have hlt := address.toNat_lt
    have hmax : 2 ^ 16 ≤ Host.offsetLimit := by decide
    have hwithin := h.within
    have hread : host.readFault? (.regular file) offset 1 = none := by
      rw [Host.readFault?, if_neg (by omega)]
      exact h.serves (.read offset 1) rfl
    show Except.ok (data.byte offset) = memory.working.load host offset
    rw [hworking, Store.load, Store.readByte_of_lt (by omega), hread, h.byte offset hoffset]
  | reserved => rfl
  | unmapped => rfl

/-! ## Storing -/

/-- A byte is put into the file and into the array. -/
theorem Mirrors.put (h : memory.Mirrors file host data) (other : Host) (address : UInt16)
    (value : UInt8) :
    (memory.put host address value).1 = memory ∧
      ∃ (after : Content) (kept : memory.Mirrors file (memory.put host address value).2 after),
        (memory.onArray data h.length).put other address value =
          (memory.onArray after kept.length, other) := by
  by_cases hworking : ∃ offset, memory.route address = .working offset
  · -- The byte goes to the same cell of the file and of the array.
    obtain ⟨offset, hroute⟩ := hworking
    obtain ⟨path, size, hfile⟩ := Store.exists_of_file? h.kept
    have hoffset := lt_of_route_working hroute
    have harray : (memory.onArray data h.length).route address = .working offset := hroute
    have hin : offset < data.length := h.length ▸ hoffset
    have hcontent := Host.content_writeInto_self offset [value] h.lt
    rw [Content.splice, Content.splice] at hcontent
    have hagree := host.agree_writeInto (.regular file) offset [value]
    have hkept : memory.working.put host offset value =
        (memory.working, host.writeInto (.regular file) offset [value]) := by
      rw [hfile, Store.put]
    rw [put_of_working hroute, put_of_working harray]
    simp only [hkept]
    refine ⟨rfl, data.set offset value, ?_, rfl⟩
    refine ⟨h.program, h.kept, hagree.size ▸ h.lt, h.serves.of_agree hagree, ?_, ?_, ?_⟩
    · rw [Content.length_set, h.length]
    · have hwithin := h.within
      rw [hcontent, Content.length_put]
      omega
    · intro i hi
      rw [hcontent, Store.byte_set hin, Content.byte_put, h.byte i hi]
  · -- There is no cell for it in either.
    have hroute : ∀ offset, memory.route address ≠ .working offset := fun offset heq =>
      hworking ⟨offset, heq⟩
    have harray : ∀ offset, (memory.onArray data h.length).route address ≠ .working offset := hroute
    rw [put_of_not_working harray]
    simp only [put_of_not_working hroute]
    exact ⟨trivial, data, h, rfl⟩

theorem Mirrors.takesAll (h : memory.Mirrors file host data) : memory.TakesAll host :=
  takesAll_of_file h.kept fun offset => h.serves (.write offset 1) rfl

/-! ## Loading a program -/

/-- A program is loaded the same way whatever working storage is. -/
theorem Mirrors.loadProgram (h : memory.Mirrors file host data) (image : List UInt8) :
    ∃ (result : Except MachineError Unit) (after : Memory) (kept : after.Mirrors file host data),
      memory.loadProgram host image = (result, after, host) ∧
        ∀ other, (memory.onArray data h.length).loadProgram other image =
          (result, after.onArray data kept.length, other) := by
  obtain ⟨bytes, hprogram⟩ := h.program
  obtain ⟨result, filled, hload⟩ := exists_loadProgram_of_host bytes image
  obtain ⟨hsize, hfile⟩ := hload hprogram
  obtain ⟨_, harray⟩ := hload (show (memory.onArray data h.length).program = .array bytes from
    hprogram)
  exact ⟨result, memory.withProgram (.array filled) hsize,
    ⟨⟨filled, rfl⟩, h.kept, h.lt, h.serves, h.length, h.within, h.byte⟩, hfile host, harray⟩

/-! ## Both side by side -/

/-- A memory with working storage in a file, and the same memory on an array that mirrors it, on a
host that differs in the file at most.  Paths on the first host lead where they led at the start. -/
structure Mirrored (start : Host) (file : Nat) (memory : Memory) (host : Host)
    (otherMemory : Memory) (other : Host) : Prop where
  twin : ∃ (data : Content) (mirrors : memory.Mirrors file host data),
    otherMemory = memory.onArray data mirrors.length
  hosts : Host.Beside file host other
  find : ∀ path, host.find path = start.find path

theorem lockstep_mirrored (start : Host) (file : Nat) : Lockstep (Mirrored start file) := by
  constructor
  · -- The array gives the byte that the file has.
    rintro memory host _ other ⟨⟨data, hmirrors, rfl⟩, -, -⟩ address
    exact hmirrors.fetch other address
  · -- Neither of them refuses a byte.
    rintro memory host _ other ⟨⟨data, hmirrors, rfl⟩, -, -⟩ address
    rw [hmirrors.takesAll address, takesAll_onArray memory hmirrors.length other address]
  · -- A byte that is put into both is there in both.
    rintro memory host _ other ⟨⟨data, hmirrors, rfl⟩, hhosts, hfind⟩ address value
    have hagree := hmirrors.agree (memory.agree_put host address value)
    obtain ⟨hsame, after, hkept, hother⟩ := hmirrors.put other address value
    rw [hother]
    refine ⟨⟨after, ?_⟩, hhosts.of_agree hagree, ?_⟩
    · simp only [hsame]
      exact ⟨hkept, trivial⟩
    · intro path
      rw [hagree.find, hfind]

end Memory

end Backplane
