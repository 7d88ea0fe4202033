import Backplane.Proofs.Host.Files
import Backplane.Store
import Mathlib.Algebra.Group.Nat.Defs

/-!
# Stores as cells

A store is a row of cells that are loaded and stored one at a time.  The lemmas here say what
storing into one cell does to the store, to the other cells and to the host's files, for all kinds
of store at once; nothing after them looks at which kind it is.

Storing leaves the device what it was (`SameDevice`): its size, the file its bytes are kept in and
the cells that refuse a byte stay the same, so those cells are a fixed set.  A store that keeps its
bytes in a file touches that file and no other (`agree_put`), and reads that file and no other
(`load_eq_of_content`).

## Hypotheses

A persistent store is opened before it is used, which leaves its file at least as long as the
store.  `Whole` records this.  `Anchored` is the part of it that survives when others cut the file
short: the file is one of the host's.

The host may refuse to read or to write a file for reasons of its own.  What is refused of a file
does not depend on its bytes, so a cell that refuses a byte, or does not give the one it has, goes
on doing so for as long as the host stays as it is.  `Readable` says of a store that the host reads
its file, and `Host.Serves` says of a file that the host both reads and writes it.

## Kinds of store

An array refuses nothing, a faulty device refuses at some of its cells, and one that has gone away
refuses at all of them.  A store in a file refuses where the host does: to read, to write, or
because the node it has open is not a file at all.  For all four the question can be asked before a
byte is moved (`Store.storeFault?`), and the answer does not depend on which byte it is.
-/

namespace Backplane

namespace Store

variable {store : Store} {host : Host} {offset : Nat} {value : UInt8}

/-! ## The file behind a store -/

/-- The number of the file in which a store keeps its bytes, if it keeps them in one. -/
def file? : Store → Option Nat
  | .persistent (.regular index) _ _ => some index
  | _ => none

/-- A store in a file has been opened on that file. -/
theorem exists_of_file? {file : Nat} (h : store.file? = some file) :
    ∃ path size, store = .persistent (.regular file) path size := by
  cases store with
  | persistent node path size =>
    cases node with
    | regular index => exact ⟨path, size, by rw [Option.some.inj h]⟩
    | _ => exact absurd h (by simp [file?])
  | _ => exact absurd h (by simp [file?])

/-- The file behind a store is one of the host's. -/
def Anchored (store : Store) (host : Host) : Prop :=
  ∀ index, store.file? = some index → index < host.files.size

/-- A store is as opening it leaves it: its file is there and has all of its bytes. -/
structure Whole (store : Store) (host : Host) : Prop where
  anchored : store.Anchored host
  length : ∀ index, store.file? = some index → store.size ≤ (host.content index).length

/-- The stores that a machine is built with: neither has cells that are broken. -/
def IsPlain : Store → Prop
  | .array _ | .persistent .. => True
  | .faulty .. | .unplugged _ => False

/-- The host does not refuse to read single bytes of the file behind a store. -/
def Readable (store : Store) (host : Host) : Prop :=
  ∀ index, store.file? = some index →
    ∀ offset, host.refusal? (.regular index) (.read offset 1) = none

/-! ## The device behind the bytes -/

/-- Two states of one device, whose bytes may differ. -/
structure SameDevice (before after : Store) : Prop where
  size : after.size = before.size
  file? : after.file? = before.file?
  storeFault? : ∀ host offset, after.storeFault? host offset = before.storeFault? host offset
  plain : before.IsPlain → after.IsPlain

/-- Whether a store refuses a byte depends on what the host refuses, and on nothing else of it. -/
theorem storeFault?_of_refusal? {other : Host}
    (h : ∀ node access, other.refusal? node access = host.refusal? node access) (store : Store)
    (offset : Nat) : store.storeFault? other offset = store.storeFault? host offset := by
  cases store with
  | persistent node path size => cases node <;> simp only [storeFault?, Host.writeFault?, h]
  | _ => rfl

namespace SameDevice

variable {first second third : Store}

@[refl]
theorem refl (store : Store) : SameDevice store store :=
  ⟨rfl, rfl, fun _ _ => rfl, id⟩

theorem trans (h : SameDevice first second) (h' : SameDevice second third) :
    SameDevice first third :=
  ⟨h'.size.trans h.size, h'.file?.trans h.file?,
    fun host offset => (h'.storeFault? host offset).trans (h.storeFault? host offset),
    fun hplain => h'.plain (h.plain hplain)⟩

end SameDevice

theorem sameDevice_put (store : Store) (host : Host) (offset : Nat) (value : UInt8) :
    SameDevice store (store.put host offset value).1 := by
  refine ⟨size_put _ _ _ _, ?_, ?_, ?_⟩
  · cases store <;> rfl
  · intro _ _
    cases store <;> rfl
  · intro hplain
    cases store <;> exact hplain

/-- Storing touches the file behind the store. -/
theorem agree_put (store : Store) (host : Host) (offset : Nat) (value : UInt8) :
    Host.Agree (fun index => store.file? = some index) host (store.put host offset value).2 := by
  cases store with
  | persistent node path size =>
    apply (host.agree_writeInto node offset [value]).mono
    intro index hnode
    rw [hnode, file?]
  | _ => exact Host.Agree.refl _ _

/-- What a store holds depends on the file behind it and on what the host refuses. -/
theorem load_eq_of_content {other : Host}
    (hrefusal : ∀ node access, other.refusal? node access = host.refusal? node access)
    (hcontent : ∀ index, store.file? = some index → other.content index = host.content index)
    (i : Nat) : store.load other i = store.load host i := by
  cases store with
  | persistent node path size =>
    cases node with
    | regular index =>
      simp only [load, Host.readByte, Host.readFault?, hrefusal, hcontent index rfl]
    | _ => rfl
  | _ => rfl

/-- A store whose file nobody touched holds what it held. -/
theorem load_of_agree {touched : Nat → Prop} {other : Host}
    (hagree : Host.Agree touched host other)
    (hout : ∀ index, store.file? = some index → ¬ touched index) (i : Nat) :
    store.load other i = store.load host i :=
  load_eq_of_content hagree.refusal? (fun index hfile => hagree.content index (hout index hfile)) i

/-- A store without a file is as opening leaves it. -/
theorem whole_of_no_file (h : store.file? = none) : store.Whole host := by
  constructor
  · intro index hfile
    simp [h] at hfile
  · intro index hfile
    simp [h] at hfile

/-- A store stays as it is while the host's files change, if its own file does not. -/
theorem Whole.of_agree {touched : Nat → Prop} {other : Host} (hwhole : store.Whole host)
    (hagree : Host.Agree touched host other)
    (hout : ∀ index, store.file? = some index → ¬ touched index) : store.Whole other := by
  constructor
  · intro index hfile
    rw [hagree.size]
    exact hwhole.anchored index hfile
  · intro index hfile
    rw [hagree.content index (hout index hfile)]
    exact hwhole.length index hfile

/-! ## One cell -/

/-- Where no byte is replaced, what was held or failed stays. -/
theorem map_keep (held : Except Fault UInt8) : held.map (fun old => old) = held :=
  congrFun Except.map_id held

theorem byte_set {content : Content} (h : offset < content.length) (i : Nat) :
    (content.set offset value).byte i = if i = offset then value else content.byte i := by
  rw [Content.set, if_pos h, Content.byte_put]

/-- A file that took a byte has it at its offset, and zeros in the gap that may lie before it. -/
theorem readByte_writeInto {index : Nat} (hindex : index < host.files.size) (i : Nat) :
    (host.writeInto (.regular index) offset [value]).readByte (.regular index) i =
      match host.readFault? (.regular index) i 1 with
      | some fault => .error fault
      | none =>
        if i = offset then .ok value
        else if i < (host.content index).length then .ok ((host.content index).byte i)
        else if i < offset then .ok 0 else .error .shortRead := by
  have hagree := host.agree_writeInto (.regular index) offset [value]
  have hcontent := Host.content_writeInto_self offset [value] hindex
  have hfault : (host.writeInto (.regular index) offset [value]).readFault? (.regular index) i 1 =
      host.readFault? (.regular index) i 1 := by
    simp only [Host.readFault?, hagree.refusal?]
  rw [Host.readByte, hfault]
  cases host.readFault? (.regular index) i 1 with
  | some fault => rfl
  | none =>
    simp only [hcontent, Content.splice, Content.get?_put]
    by_cases hi : i = offset
    · -- The byte itself.
      rw [if_pos hi, if_pos hi]
    · -- Any other offset: in the file, in the gap before the byte, or behind it.
      rw [if_neg hi, if_neg hi]
      by_cases hin : i < (host.content index).length
      · simp only [Content.get?, if_pos hin]
      · simp only [Content.get?, if_neg hin]
        by_cases hgap : i < offset
        · rw [if_pos hgap, if_pos hgap]
        · rw [if_neg hgap, if_neg hgap]

theorem readByte_of_lt {index i : Nat} (h : i < (host.content index).length) :
    host.readByte (.regular index) i =
      match host.readFault? (.regular index) i 1 with
      | some fault => .error fault
      | none => .ok ((host.content index).byte i) := by
  rw [Host.readByte]
  cases host.readFault? (.regular index) i 1 with
  | some fault => rfl
  | none => simp only [Content.get?, if_pos h]

variable (value) in
/-- In a whole store, storing replaces the byte of one cell, unless that cell cannot be loaded,
and leaves all others as they are. -/
theorem load_put (hwhole : store.Whole host) (hoffset : offset < store.size)
    (hfault : store.storeFault? host offset = none) {i : Nat} (hi : i < store.size) :
    (store.put host offset value).1.load (store.put host offset value).2 i =
      (store.load host i).map fun old => if i = offset then value else old := by
  cases store with
  | array data => simp only [put, load, byte_set hoffset, Except.map]
  | persistent node path size =>
    cases node with
    | regular index =>
      have hlength := hwhole.length index rfl
      have hin : i < (host.content index).length := Nat.lt_of_lt_of_le hi hlength
      simp only [put, load, readByte_writeInto (hwhole.anchored index rfl), readByte_of_lt hin,
        if_pos hin]
      -- A cell that the host does not let anyone read cannot be loaded after the change either.
      cases host.readFault? (.regular index) i 1 with
      | some fault => rfl
      | none =>
        simp only [Except.map]
        split <;> rfl
    | _ => simp [storeFault?, Host.writeFault?] at hfault
  | faulty data badLoads badStores =>
    simp only [put, load]
    split
    · rfl
    · simp only [byte_set hoffset, Except.map]
  | unplugged size => simp [storeFault?] at hfault

theorem whole_put (hwhole : store.Whole host) (offset : Nat) (value : UInt8) :
    (store.put host offset value).1.Whole (store.put host offset value).2 := by
  have hagree := store.agree_put host offset value
  have hdevice := store.sameDevice_put host offset value
  constructor
  · intro index hfile
    rw [hdevice.file?] at hfile
    rw [hagree.size]
    exact hwhole.anchored index hfile
  · intro index hfile
    rw [hdevice.file?] at hfile
    rw [hdevice.size]
    refine Nat.le_trans (hwhole.length index hfile) ?_
    cases store with
    | persistent node path size =>
      cases node with
      | regular file =>
        obtain rfl := Option.some.inj hfile
        rw [put, Host.content_writeInto_self _ _ (hwhole.anchored file rfl), Content.splice,
          Content.splice, Content.length_put]
        omega
      | _ => exact absurd hfile (by simp [file?])
    | _ => exact absurd hfile (by simp [file?])

/-! ## A cell of a store whose file others may cut -/

/-- What was stored is there, if the host lets it be read. -/
theorem load_put_self (hplain : store.IsPlain) (hanchored : store.Anchored host)
    (hreadable : store.Readable host) (hoffset : offset < store.size)
    (hfault : store.storeFault? host offset = none) :
    (store.put host offset value).1.load (store.put host offset value).2 offset = .ok value := by
  cases store with
  | array data => simp only [put, load, byte_set hoffset, if_pos]
  | persistent node path size =>
    cases node with
    | regular index =>
      -- The offset took a byte, so it is below the limit, and a byte there can be read.
      have hmax : ¬ Host.offsetLimit ≤ offset := by
        intro hle
        simp [storeFault?, Host.writeFault?, hle] at hfault
      have hread : host.readFault? (.regular index) offset 1 = none := by
        rw [Host.readFault?, if_neg hmax]
        exact hreadable index rfl offset
      simp only [put, load, readByte_writeInto (hanchored index rfl), hread, if_pos]
    | _ => simp [storeFault?, Host.writeFault?] at hfault
  | faulty _ _ _ => exact absurd hplain id
  | unplugged _ => exact absurd hplain id

/-- A cell that could be loaded keeps its byte when another is stored. -/
theorem load_put_of_ne (hplain : store.IsPlain) (hanchored : store.Anchored host)
    (hoffset : offset < store.size) (hfault : store.storeFault? host offset = none) {i : Nat}
    (hi : i ≠ offset) {old : UInt8} (hload : store.load host i = .ok old) :
    (store.put host offset value).1.load (store.put host offset value).2 i = .ok old := by
  cases store with
  | array data => simpa only [put, load, byte_set hoffset, if_neg hi] using hload
  | persistent node path size =>
    cases node with
    | regular index =>
      simp only [put, load, readByte_writeInto (hanchored index rfl), if_neg hi]
      cases hread : host.readFault? (.regular index) i 1 with
      | some fault => simp [load, Host.readByte, hread] at hload
      | none =>
        simp only [load, Host.readByte, Content.get?, hread] at hload
        by_cases hin : i < (host.content index).length
        · simpa [hin] using hload
        · simp [hin] at hload
    | _ => simp [storeFault?, Host.writeFault?] at hfault
  | faulty _ _ _ => exact absurd hplain id
  | unplugged _ => exact absurd hplain id

/-! ## Cells in a row -/

/-- How many bytes in a row a store takes before it refuses one. -/
def taken (store : Store) (host : Host) (offset : Nat) : (count : Nat) → Nat
  | 0 => 0
  | count + 1 =>
    if (store.storeFault? host offset).isNone then store.taken host (offset + 1) count + 1 else 0

theorem taken_le (store : Store) (host : Host) (offset count : Nat) :
    store.taken host offset count ≤ count := by
  induction count generalizing offset with
  | zero => exact Nat.le_refl _
  | succ count ih =>
    rw [taken]
    split
    · exact Nat.succ_le_succ (ih _)
    · exact Nat.zero_le _

theorem SameDevice.taken {before after : Store} (h : SameDevice before after) {other : Host}
    (hrefusal : ∀ node access, other.refusal? node access = host.refusal? node access)
    (offset count : Nat) : after.taken other offset count = before.taken host offset count := by
  induction count generalizing offset with
  | zero => rfl
  | succ count ih =>
    rw [Store.taken, Store.taken, h.storeFault?, storeFault?_of_refusal? hrefusal, ih]

/-- Filling cells in a row stores each one before the first that refuses, and nothing else. -/
theorem load_storeAll (hwhole : store.Whole host) {bytes : List UInt8}
    (hbytes : offset + bytes.length ≤ store.size) {i : Nat} (hi : i < store.size) :
    (store.storeAll host offset bytes).2.1.load (store.storeAll host offset bytes).2.2 i =
      (store.load host i).map fun old =>
        if offset ≤ i ∧ i < offset + store.taken host offset bytes.length
        then bytes.getD (i - offset) 0 else old := by
  induction bytes generalizing store host offset with
  | nil =>
    have hnone : ¬ (offset ≤ i ∧ i < offset + 0) := by omega
    simp only [storeAll, List.length_nil, taken, hnone, if_false]
    exact (map_keep _).symm
  | cons byte rest ih =>
    rw [List.length_cons] at hbytes
    simp only [storeAll, List.length_cons, taken]
    cases hfault : store.storeFault? host offset with
    | none =>
      -- The first byte is taken, and the rest is stored from the next cell on.
      have hput := load_put byte hwhole (by omega) hfault hi
      have hsize := size_put store host offset byte
      have hfits : offset + 1 + rest.length ≤ (store.put host offset byte).1.size := by omega
      have hrest := ih (whole_put hwhole offset byte) hfits (by omega)
      rw [(store.sameDevice_put host offset byte).taken (store.agree_put host offset byte).refusal?,
        hput] at hrest
      simp only [hrest, Option.isNone_none, if_true]
      cases store.load host i with
      | error fault => rfl
      | ok old =>
        simp only [Except.map]
        congr 1
        rcases Nat.lt_trichotomy i offset with hlt | rfl | hgt
        · -- A cell before them all.
          rw [if_neg (by omega), if_neg (by omega), if_neg (by omega)]
        · -- The cell of the first byte.
          rw [if_neg (by omega), if_pos rfl, if_pos (by omega), Nat.sub_self]
          rfl
        · -- A cell behind it, which gets a byte of the rest.
          rw [if_neg (show i ≠ offset by omega),
            show i - offset = (i - (offset + 1)) + 1 by omega, List.getD_cons_succ]
          have hiff : (offset + 1 ≤ i ∧
              i < offset + 1 + store.taken host (offset + 1) rest.length) ↔
              (offset ≤ i ∧ i < offset + (store.taken host (offset + 1) rest.length + 1)) := by
            omega
          simp only [hiff]
    | some fault =>
      -- The first byte is refused, and nothing is stored at all.
      have hnone : ¬ (offset ≤ i ∧ i < offset + 0) := by omega
      simp only [Option.isNone_some, Bool.false_eq_true, if_false, hnone]
      exact (map_keep _).symm

theorem exists_storeAll_array (data : Content) (host : Host) (offset : Nat)
    (bytes : List UInt8) (h : offset + bytes.length ≤ data.length) :
    ∃ filled : Content, (Store.array data).storeAll host offset bytes =
        (.ok (), .array filled, host) ∧
      filled.length = data.length ∧
      ∀ i < data.length, filled.byte i =
        if offset ≤ i ∧ i < offset + bytes.length then bytes.getD (i - offset) 0
        else data.byte i := by
  -- The store is an array of the same length afterwards.
  have hfilled : ∃ filled : Content, (Store.array data).storeAll host offset bytes =
      (.ok (), .array filled, host) ∧ filled.length = data.length := by
    clear h
    induction bytes generalizing data offset with
    | nil => exact ⟨data, rfl, rfl⟩
    | cons byte rest ih =>
      obtain ⟨filled, hfilled, hlength⟩ := ih (data.set offset byte) (offset + 1)
      exact ⟨filled, hfilled, by rw [hlength, Content.length_set]⟩
  -- An array takes every byte, so what it holds is what was filled in.
  have htaken : ∀ offset count, (Store.array data).taken host offset count = count := by
    intro offset count
    induction count generalizing offset with
    | zero => rfl
    | succ count ih =>
      rw [taken, ih]
      rfl
  obtain ⟨filled, hstored, hlength⟩ := hfilled
  refine ⟨filled, hstored, hlength, ?_⟩
  intro i hi
  have hwhole : (Store.array data).Whole host := whole_of_no_file rfl
  have hload := load_storeAll hwhole h hi
  rw [hstored, htaken] at hload
  simpa only [load, Except.map, Except.ok.injEq] using hload

theorem sameDevice_storeAll (store : Store) (host : Host) (offset : Nat) (bytes : List UInt8) :
    SameDevice store (store.storeAll host offset bytes).2.1 := by
  induction bytes generalizing store host offset with
  | nil => exact SameDevice.refl _
  | cons byte rest ih =>
    simp only [storeAll]
    split
    · exact SameDevice.refl _
    · exact (store.sameDevice_put host offset byte).trans (ih _ _ _)

theorem whole_storeAll (hwhole : store.Whole host) (offset : Nat) (bytes : List UInt8) :
    (store.storeAll host offset bytes).2.1.Whole (store.storeAll host offset bytes).2.2 := by
  induction bytes generalizing store host offset with
  | nil => exact hwhole
  | cons byte rest ih =>
    simp only [storeAll]
    split
    · exact hwhole
    · exact ih (whole_put hwhole offset byte) _

theorem agree_storeAll (store : Store) (host : Host) (offset : Nat) (bytes : List UInt8) :
    Host.Agree (fun index => store.file? = some index) host
      (store.storeAll host offset bytes).2.2 := by
  induction bytes generalizing store host offset with
  | nil => exact Host.Agree.refl _ _
  | cons byte rest ih =>
    simp only [storeAll]
    split
    · exact Host.Agree.refl _ _
    · have hrest := ih (store.put host offset byte).1 (store.put host offset byte).2 (offset + 1)
      rw [(store.sameDevice_put host offset byte).file?] at hrest
      exact (store.agree_put host offset byte).trans hrest

/-! ## Opening -/

/-- Opening a persistent store leaves alone any file that its path does not lead to, and the
store it gives keeps its bytes in another one. -/
theorem spares_openPersistent (hsound : host.Sound) {file : Nat}
    (hfile : file < host.files.size) {path : Path}
    (hpath : host.find path ≠ .ok (.regular file)) (size : Nat) :
    Host.Spares file host (openPersistent host path size).value.2 ∧
      ∀ store, (openPersistent host path size).value.1 = .ok store →
        store.IsPlain ∧ store.Anchored (openPersistent host path size).value.2 ∧
          store.file? ≠ some file := by
  -- A store that is given keeps its bytes in the file that was opened, which is another one.
  have hopened (node : Node) (after : Host) (hnode : node ≠ .regular file)
      (hlt : ∀ index, node = .regular index → index < after.files.size) (store : Store)
      (hstore : (openPersistent.opened path size node after).value.1 = .ok store) :
      store.IsPlain ∧ store.Anchored after ∧ store.file? ≠ some file := by
    obtain rfl := Except.ok.inj hstore
    refine ⟨trivial, ?_, ?_⟩
    · intro index hindex
      cases node with
      | regular found => exact hlt index (by rw [Option.some.inj hindex])
      | _ => exact absurd hindex (by simp [file?])
    · intro hindex
      cases node with
      | regular found => exact hnode (by rw [Option.some.inj hindex])
      | _ => exact absurd hindex (by simp [file?])
  unfold openPersistent
  rcases hopen : host.openOrCreate path with fault | ⟨node, after⟩
  · -- Nothing was opened.
    exact ⟨Host.Spares.refl hsound file, fun store hstore => absurd hstore (by simp)⟩
  · -- Another file was opened or made, and may have been made longer.
    obtain ⟨hspares, hnode, hlt⟩ := Host.spares_openOrCreate hsound hfile hpath hopen
    dsimp only
    cases after.measure node with
    | error fault => exact ⟨hspares, fun store hstore => absurd hstore (by simp)⟩
    | ok length =>
      dsimp only
      split
      · cases hgrow : after.setLength node size with
        | error fault => exact ⟨hspares, fun store hstore => absurd hstore (by simp)⟩
        | ok grown =>
          have hagree := Host.agree_setLength hgrow
          refine ⟨hspares.trans (hagree.spares hspares.sound file hnode), ?_⟩
          exact hopened node grown hnode fun index hindex => hagree.size ▸ hlt index hindex
      · exact ⟨hspares, hopened node after hnode hlt⟩

end Store

end Backplane
