import Backplane.Proofs.Memory.Access

/-!
# Program images

A program image is put into program storage byte by byte, and the device behind program storage
can refuse any of them.  Whether it refuses one depends on the offset and not on what was stored
before, so it is settled beforehand which byte is the first to be refused, if one is, and loading
gets as far as that byte (`fillsProgram`).  What lies behind stays, and so does working storage,
although it begins where program storage ends.  An image that is too long is refused by its length
and stores nothing.

## Hypotheses

Any stores can be below the memory, also ones that refuse to load or to store at any offsets.  One
that keeps its bytes in a file is as opening leaves it, and the other does not use that file; of
stores without a file nothing is asked.

## The first refusal

A byte that is refused ends the load, so which one is refused first decides everything.  It is found
by `FirstRefusal` in the store as it is before the load, because storing the bytes in front of it
makes no other cell refuse (`SameDevice.taken`).  If there is none within the image, the load ends
well, and not otherwise (`StoresAll`).

`ShowsFront` says what the memory shows then, with the number of bytes that were stored: all of the
image, or those in front of the first refusal.
-/

namespace Backplane

namespace Store

variable {store : Store} {host : Host} {offset place count : Nat} {fault : Fault}
  {bytes : List UInt8}

/-! ## Cells that take a byte -/

/-- A store takes a byte at an offset, whichever it is. -/
def Takes (store : Store) (host : Host) (offset : Nat) : Prop :=
  ∀ value, (store.store host offset value).1 = .ok ()

/-- A store refuses a byte at an offset, whichever it is. -/
def Refuses (store : Store) (host : Host) (offset : Nat) (fault : Fault) : Prop :=
  ∀ value, (store.store host offset value).1 = .error fault

/-- The first of the offsets behind some offset at which a store refuses a byte. -/
structure FirstRefusal (store : Store) (host : Host) (offset place : Nat) (fault : Fault) :
    Prop where
  refuses : store.Refuses host (offset + place) fault
  before : ∀ i < place, store.Takes host (offset + i)

theorem takes_iff : store.Takes host offset ↔ store.storeFault? host offset = none := by
  unfold Takes Store.store
  cases store.storeFault? host offset <;> simp

theorem refuses_iff :
    store.Refuses host offset fault ↔ store.storeFault? host offset = some fault := by
  unfold Refuses Store.store
  cases store.storeFault? host offset <;> simp

theorem Takes.not_refuses (h : store.Takes host offset) : ¬store.Refuses host offset fault := by
  simp [refuses_iff, takes_iff.1 h]

/-- Storing changes nothing about what is refused later. -/
theorem SameDevice.takes {before after : Store} (h : SameDevice before after) {other : Host}
    (hrefusal : ∀ node access, other.refusal? node access = host.refusal? node access)
    (offset : Nat) : after.Takes other offset ↔ before.Takes host offset := by
  rw [takes_iff, takes_iff, h.storeFault?, storeFault?_of_refusal? hrefusal]

theorem SameDevice.refuses {before after : Store} (h : SameDevice before after) {other : Host}
    (hrefusal : ∀ node access, other.refusal? node access = host.refusal? node access)
    (offset : Nat) (fault : Fault) :
    after.Refuses other offset fault ↔ before.Refuses host offset fault := by
  rw [refuses_iff, refuses_iff, h.storeFault?, storeFault?_of_refusal? hrefusal]

/-- There is no more than one first refusal. -/
theorem FirstRefusal.unique {other : Nat} {failure : Fault}
    (h : store.FirstRefusal host offset place fault)
    (h' : store.FirstRefusal host offset other failure) : place = other ∧ fault = failure := by
  have hplace : place = other := by
    rcases Nat.lt_trichotomy place other with hlt | heq | hgt
    · exact absurd h.refuses (h'.before place hlt).not_refuses
    · exact heq
    · exact absurd h'.refuses (h.before other hgt).not_refuses
  subst hplace
  have hfault := (refuses_iff.1 h.refuses).symm.trans (refuses_iff.1 h'.refuses)
  exact ⟨rfl, Option.some.inj hfault⟩

/-! ## How far storing gets -/

/-- The ways in which storing bytes in a row can end, with the number of those that were stored. -/
inductive StoresAll (store : Store) (host : Host) (offset count : Nat) :
    Except Fault Unit → Nat → Prop
  /-- Every byte is taken. -/
  | taken (takes : ∀ i < count, store.Takes host (offset + i)) :
    StoresAll store host offset count (.ok ()) count
  /-- The bytes before the first one that is refused are taken. -/
  | refused {place : Nat} {fault : Fault} (within : place < count)
    (first : store.FirstRefusal host offset place fault) :
    StoresAll store host offset count (.error fault) place

/-- One more byte is taken before the others. -/
theorem StoresAll.cons {after : Store} {other : Host} {result : Except Fault Unit} {stored : Nat}
    (hdevice : SameDevice store after)
    (hrefusal : ∀ node access, other.refusal? node access = host.refusal? node access)
    (htakes : store.Takes host offset)
    (h : StoresAll after other (offset + 1) count result stored) :
    StoresAll store host offset (count + 1) result (stored + 1) := by
  have hbefore {last : Nat} (hlater : ∀ i < last, after.Takes other (offset + 1 + i)) :
      ∀ i < last + 1, store.Takes host (offset + i) := by
    intro i hi
    cases i with
    | zero => exact htakes
    | succ i =>
      rw [← hdevice.takes hrefusal, ← Nat.add_assoc, Nat.add_right_comm]
      exact hlater i (by omega)
  cases h with
  | taken takes => exact .taken (hbefore takes)
  | refused within first =>
    refine .refused (Nat.succ_lt_succ within) ⟨?_, hbefore first.before⟩
    rw [← hdevice.refuses hrefusal, ← Nat.add_assoc, Nat.add_right_comm]
    exact first.refuses

theorem storesAll (store : Store) (host : Host) (offset : Nat) (bytes : List UInt8) :
    StoresAll store host offset bytes.length (store.storeAll host offset bytes).1
      (store.taken host offset bytes.length) := by
  induction bytes generalizing store host offset with
  | nil => exact .taken fun i hi => absurd hi (Nat.not_lt_zero i)
  | cons byte rest ih =>
    rw [storeAll, List.length_cons, taken]
    cases hfault : store.storeFault? host offset with
    | none =>
      have hdevice := store.sameDevice_put host offset byte
      have hrefusal := (store.agree_put host offset byte).refusal?
      have hrest := ih (store.put host offset byte).1 (store.put host offset byte).2 (offset + 1)
      rw [hdevice.taken hrefusal] at hrest
      exact hrest.cons hdevice hrefusal (takes_iff.2 hfault)
    | some fault =>
      exact .refused (Nat.succ_pos _)
        ⟨refuses_iff.2 hfault, fun i hi => absurd hi (Nat.not_lt_zero i)⟩

end Store

namespace Memory

variable {memory : Memory} {host : Host}

/-! ## Loading an image -/

/-- The first bytes of an image are at the front of program storage, and nothing else has
changed. -/
structure ShowsFront (memory : Memory) (host : Host) (image : List UInt8) (count : Nat)
    (after : Memory × Host) : Prop where
  /-- A byte of program storage is that of the image or the old one.  One that cannot be loaded
  stays so. -/
  program : ∀ offset < memory.programSize, after.1.program.load after.2 offset =
    (memory.program.load host offset).map fun old =>
      if offset < count then image.getD offset 0 else old
  working : ∀ offset, after.1.working.load after.2 offset = memory.working.load host offset
  /-- It is the same on the bus. -/
  fetch : ∀ address, after.1.fetch after.2 address =
    (memory.fetch host address).map fun old =>
      if address.toNat < count then image.getD address.toNat 0 else old
  /-- At most the file behind program storage has changed. -/
  files : Host.Agree (fun index => memory.program.file? = some index) host after.2

/-- When a program image is loaded, and what becomes of memory. -/
structure FillsProgram (memory : Memory) (host : Host) (image : List UInt8)
    (after : Except MachineError Unit × Memory × Host) : Prop where
  /-- An image is loaded if it fits and none of its bytes is refused. -/
  ok_iff : after.1 = .ok () ↔
    image.length ≤ memory.programSize ∧ ∀ offset < image.length, memory.program.Takes host offset
  /-- Then all of it is there. -/
  filled : after.1 = .ok () → ShowsFront memory host image image.length after.2
  /-- An image that is too long changes nothing. -/
  tooLarge : memory.programSize < image.length →
    after = (.error (.programTooLarge image.length memory.programSize), memory, host)
  /-- One of which a byte is refused is there up to the first such byte. -/
  stopped : image.length ≤ memory.programSize → ∀ place < image.length, ∀ fault,
    memory.program.FirstRefusal host 0 place fault →
      after.1 = .error (.io fault) ∧ ShowsFront memory host image place after.2

theorem fst_loadProgram_of_fits {image : List UInt8} (h : image.length ≤ memory.programSize) :
    (memory.loadProgram host image).1 =
      (memory.program.storeAll host 0 image).1.mapError .io := by
  rw [loadProgram, sizeRefusal?, if_neg (Nat.not_lt.2 h)]

/-- An image that fits is at the front of program storage as far as its bytes were taken. -/
theorem showsFront_loadProgram (hprogram : memory.program.Whole host)
    (happart : ∀ index, memory.program.file? = some index → memory.working.file? ≠ some index)
    {image : List UInt8} (hfits : image.length ≤ memory.programSize) :
    ShowsFront memory host image (memory.program.taken host 0 image.length)
      (memory.loadProgram host image).2 := by
  have hagree := memory.agree_loadProgram host image
  have hroute := (sameDevices_loadProgram memory host image).route
  have hload : ∀ offset < memory.programSize,
      (memory.loadProgram host image).2.1.program.load (memory.loadProgram host image).2.2 offset =
        (memory.program.load host offset).map fun old =>
          if offset < memory.program.taken host 0 image.length then image.getD offset 0
          else old := by
    intro offset hoffset
    have hbytes : 0 + image.length ≤ memory.program.size := by
      rwa [Nat.zero_add, ← programSize_eq]
    rw [programSize_eq] at hoffset
    have hstored := Store.load_storeAll hprogram hbytes hoffset
    rw [value_loadProgram_of_fits hfits]
    simpa only [program_withProgram, Nat.zero_le, true_and, Nat.zero_add, Nat.sub_zero] using
      hstored
  have hworking : ∀ offset, (memory.loadProgram host image).2.1.working.load
      (memory.loadProgram host image).2.2 offset = memory.working.load host offset := by
    intro offset
    -- Loading touches the file behind program storage, which working storage does not use.
    have hout : ∀ index, memory.working.file? = some index →
        ¬ memory.program.file? = some index := fun index hfile hprogram =>
      happart index hprogram hfile
    have hsame := Store.load_of_agree hagree hout offset
    rw [value_loadProgram_of_fits hfits] at hsame ⊢
    exact hsame
  refine ⟨hload, hworking, ?_, hagree⟩
  intro address
  by_cases hin : address.toNat < memory.programSize
  · -- An address of program storage shows its cell.
    simp only [fetch, hroute, route_eq_program_iff.2 ⟨hin, rfl⟩]
    exact hload _ hin
  · -- All other addresses lie behind the bytes that were taken.
    have hcount := memory.program.taken_le host 0 image.length
    have hbehind : ¬address.toNat < memory.program.taken host 0 image.length := by omega
    simp only [hbehind, if_false, Store.map_keep, fetch, hroute]
    cases hleads : memory.route address with
    | program offset => exact absurd (route_eq_program_iff.1 hleads).1 hin
    | working offset => exact hworking offset
    | reserved => rfl
    | unmapped => rfl

/-- Loading an image stores it as far as its bytes are taken, and answers whether all of them were.
One that is too long is refused before its first byte, and a refused byte leaves those in front of
it in place. -/
theorem fillsProgram (hprogram : memory.program.Whole host)
    (happart : ∀ index, memory.program.file? = some index → memory.working.file? ≠ some index)
    (image : List UInt8) :
    FillsProgram memory host image (memory.loadProgram host image) := by
  rcases Nat.lt_or_ge memory.programSize image.length with hlong | hfits
  · -- Too long: refused, and nothing was stored.
    rw [loadProgram_of_too_large hlong]
    refine ⟨?_, ?_, fun _ => rfl, fun h => absurd h (Nat.not_le.2 hlong)⟩
    · exact iff_of_false (by simp) fun h => absurd h.1 (Nat.not_le.2 hlong)
    · exact fun h => absurd h (by simp)
  · -- It fits: it is stored up to the first cell that refuses a byte, if there is one.
    have hresult : (memory.loadProgram host image).1 =
        (memory.program.storeAll host 0 image).1.mapError .io := fst_loadProgram_of_fits hfits
    have hshows := showsFront_loadProgram hprogram happart hfits
    have hcases := memory.program.storesAll host 0 image
    generalize memory.program.taken host 0 image.length = stored at hcases hshows
    generalize (memory.program.storeAll host 0 image).1 = ended at hcases hresult
    refine ⟨?_, ?_, fun h => absurd hfits (Nat.not_le.2 h), ?_⟩
    · -- When all bytes are taken.
      rw [hresult]
      cases hcases with
      | taken takes =>
        refine iff_of_true rfl ⟨hfits, ?_⟩
        intro offset hoffset
        simpa using takes offset hoffset
      | refused within first =>
        refine iff_of_false (by simp) ?_
        rintro ⟨-, htakes⟩
        exact absurd first.refuses (by simpa using (htakes _ within).not_refuses)
    · -- What is there then.
      intro hok
      rw [hresult] at hok
      cases hcases with
      | taken takes => exact hshows
      | refused within first => exact absurd hok (by simp)
    · -- What is there when one is refused, and which fault is answered.
      intro _ place hplace fault hfirst
      rw [hresult]
      cases hcases with
      | taken takes => exact absurd hfirst.refuses (takes place hplace).not_refuses
      | refused within first =>
        obtain ⟨rfl, rfl⟩ := first.unique hfirst
        exact ⟨rfl, hshows⟩

/-- Four bytes of program storage of which the third is refused, and as many of working storage. -/
def flawedMemory : Memory :=
  .ofStores (.faulty (.ofBytes #[1, 2, 3, 4]) [] [(2, 3)]) (.zeroed 4) true

/-- The first two bytes of the image are loaded. -/
theorem fillsProgram_flawed :
    flawedMemory.program.Whole {} ∧
      (∀ index, flawedMemory.program.file? = some index →
        flawedMemory.working.file? ≠ some index) ∧
      (flawedMemory.loadProgram {} [7, 8, 9]).1 = .error (.io .unplugged) ∧
      FillsProgram flawedMemory {} [7, 8, 9] (flawedMemory.loadProgram {} [7, 8, 9]) := by
  have hprogram : flawedMemory.program.Whole {} := Store.whole_of_no_file rfl
  have happart : ∀ index, flawedMemory.program.file? = some index →
      flawedMemory.working.file? ≠ some index := by
    intro index hfile
    exact absurd hfile (by simp [flawedMemory, ofStores, Store.file?])
  exact ⟨hprogram, happart, by decide, fillsProgram hprogram happart _⟩

end Memory

end Backplane
