import Backplane.Host.Changes
import Backplane.Proofs.Content.Ranges
import Backplane.Proofs.Host.Apart
import Backplane.Proofs.Store.Cells

/-!
# Images that outlast their stores

The image file of a persistent store stays when the store is gone, and the next store that is opened
on it, of whatever size, goes on with its bytes.  Two things could lose some of them: opening, which
changes the length of the file, and storing.  Opening only ever makes the file longer and keeps all
its bytes (`Grown`), and storing replaces one byte.  So the file holds what was stored last at each
offset, whichever store it came through (`Holds`), and is as long as the largest store that was
opened on it (`Kept`).  `Reaches.contents` says so of any openings and stores on one path.

A store of another path may be opened at any time.  It may lead to the same file, or to no file at
all; `opened` lists what opening can do.

## Hypotheses

A host can refuse a store in many ways: it may not let the file be opened or made, measured, or
grown, and later it may refuse single bytes.  Whether a store can be opened at all is a matter of
the first three (`exists_openPersistent_iff`), and `CanHold` collects the last two of them.  What
is stored is there afterwards only if the host refuses nothing that a store asks for; `Host.Serves`
says this of the file that a path leads to, or of the one that would be made there.
-/

namespace Backplane

/-! ## Hosts that are willing -/

/-- What a store of at most some size asks of its file.  It is opened, measured and grown once, and
then read and written byte by byte. -/
def FileAccess.IsOfStore (size : Nat) : FileAccess → Prop
  | .openForWriting | .measure => True
  | .setLength length => length ≤ size
  | .read _ count | .write _ count => count = 1
  | .openForReading => False

theorem FileAccess.IsOfStore.mono {size smaller : Nat} {access : FileAccess}
    (h : access.IsOfStore smaller) (hle : smaller ≤ size) : access.IsOfStore size := by
  cases access with
  | setLength length => exact Nat.le_trans h hle
  | _ => exact h

/-- The host refuses nothing that a store of at most some size asks of what a node refers to. -/
def Host.ServesNode (host : Host) (size : Nat) (node : Node) : Prop :=
  ∀ access : FileAccess, access.IsOfStore size → host.refusal? node access = none

/-- The host refuses nothing that a store of at most some size asks of the file of a path, whether
it is there or has to be made.  A file that is made gets the refusals that the rules of the host
give to new files, so these are asked about too. -/
structure Host.Serves (host : Host) (path : Path) (size : Nat) : Prop where
  found : ∀ node, host.find path = .ok node → host.ServesNode size node
  place : ∀ names, host.locate path = .ok names → host.rules.makingRefusal? names = none
  made : ∀ access : FileAccess, access.IsOfStore size → host.rules.newRefusal? access = none

theorem Host.ServesNode.mono {host : Host} {size smaller : Nat} {node : Node}
    (h : host.ServesNode size node) (hle : smaller ≤ size) : host.ServesNode smaller node :=
  fun access haccess => h access (haccess.mono hle)

theorem Host.Serves.mono {host : Host} {path : Path} {size smaller : Nat}
    (h : host.Serves path size) (hle : smaller ≤ size) : host.Serves path smaller := by
  refine ⟨fun node hfind => (h.found node hfind).mono hle, h.place, ?_⟩
  intro access haccess
  exact h.made access (haccess.mono hle)

/-- A host that refuses nothing at all. -/
theorem Host.serves_of_willing {host : Host} {path : Path}
    (hfiles : ∀ node access, host.refusal? node access = none)
    (hmaking : ∀ names, host.rules.makingRefusal? names = none)
    (hnew : ∀ access, host.rules.newRefusal? access = none) (size : Nat) : host.Serves path size :=
  ⟨fun node _ access _ => hfiles node access, fun names _ => hmaking names,
    fun access _ => hnew access⟩

theorem Host.ServesNode.of_agree {touched : Nat → Prop} {host after : Host} {size : Nat}
    {node : Node} (h : host.ServesNode size node) (hagree : Host.Agree touched host after) :
    after.ServesNode size node := by
  intro access haccess
  rw [hagree.refusal?]
  exact h access haccess

/-- A file that is there is served as before when a file is opened or made. -/
theorem Host.ServesNode.openOrCreate {host after : Host} {path : Path} {size file : Nat}
    {node : Node} (h : host.ServesNode size (.regular file)) (hlt : file < host.files.size)
    (hopen : host.openOrCreate path = .ok (node, after)) :
    after.ServesNode size (.regular file) := by
  intro access haccess
  rw [Host.refusal?_openOrCreate hopen fun index heq => Node.regular.inj heq ▸ hlt]
  exact h access haccess

/-- What is opened is served as its path is. -/
theorem Host.Serves.opened {host after : Host} {path : Path} {size : Nat} {node : Node}
    (h : host.Serves path size) (hopen : host.openOrCreate path = .ok (node, after)) :
    after.ServesNode size node := by
  rcases Host.find_of_openOrCreate hopen with ⟨rfl, hfind⟩ | ⟨names, -, -, rfl, rfl⟩
  · exact h.found node hfind
  · intro access haccess
    rw [Host.refusal?_addFile_self]
    exact h.made access haccess

namespace Store

variable {host start after : Host} {path : Path} {size file : Nat} {node : Node}

/-! ## Opening -/

/-- The file of a node was grown with zeros to a size, if it was shorter. -/
structure Grown (node : Node) (size : Nat) (before after : Host) : Prop where
  agree : Host.Agree (fun index => node = .regular index) before after
  byte : ∀ file < before.files.size, ∀ offset,
    (after.content file).byte offset = (before.content file).byte offset
  length : ∀ file < before.files.size, node = .regular file →
    (after.content file).length = max (before.content file).length size
  /-- No file has become longer than a file can be. -/
  limit : ∀ file < before.files.size, (before.content file).length ≤ Host.offsetLimit →
    (after.content file).length ≤ Host.offsetLimit

theorem grown_of_le (h : size ≤ host.length node) : Grown node size host host := by
  refine ⟨Host.Agree.refl _ _, fun _ _ _ => rfl, ?_, fun _ _ hlength => hlength⟩
  intro file _ hnode
  rw [hnode, Host.length] at h
  omega

theorem grown_of_setLength (hlt : host.length node < size)
    (h : host.setLength node size = .ok after) : Grown node size host after := by
  have hagree := Host.agree_setLength h
  obtain ⟨hmax, index, rfl, -, rfl⟩ := Host.setLength_eq_ok_iff.1 h
  have hself (hindex : index < host.files.size) :=
    Host.content_setContent_self (·.resize size) hindex
  rw [Host.length] at hlt
  refine ⟨hagree, ?_, ?_, ?_⟩
  · -- The file has zeros behind its bytes, and they read like what lay behind its end.
    intro file hfile offset
    by_cases heq : file = index
    · subst heq
      rw [hself hfile, Content.byte_resize_of_le _ (Nat.le_of_lt hlt)]
    · rw [Host.content_setContent_of_ne _ _ heq]
  · -- It has the size, which was the greater one.
    intro file hfile hnode
    obtain rfl := Node.regular.inj hnode
    rw [hself hfile, Content.length_resize]
    omega
  · -- A length that was accepted is one that a file can have.
    intro file hfile hlength
    by_cases heq : file = index
    · subst heq
      rwa [hself hfile, Content.length_resize]
    · rwa [Host.content_setContent_of_ne _ _ heq]

/-! ## Whether a store can be opened -/

/-- What a node refers to can be measured, and made as long as a size if it is shorter. -/
structure CanHold (host : Host) (node : Node) (size : Nat) : Prop where
  measured : host.refusal? node .measure = none
  grows : host.length node < size → ∃ after, host.setLength node size = .ok after

/-- A file takes a length that is a signed number, unless the host refuses it. -/
theorem setLength_regular_iff :
    (∃ after, host.setLength (.regular file) size = .ok after) ↔
      size ≤ Host.offsetLimit ∧ host.refusal? (.regular file) (.setLength size) = none := by
  simp [Host.setLength_eq_ok_iff]

/-- A host that serves a file lets it hold a store. -/
theorem canHold_of_serves (h : host.ServesNode size (.regular file))
    (hsize : size ≤ Host.offsetLimit) : CanHold host (.regular file) size :=
  ⟨h .measure trivial,
    fun _ => setLength_regular_iff.2 ⟨hsize, h (.setLength size) (Nat.le_refl _)⟩⟩

/-- A store is there as soon as its file could be opened or made, if the file can have its size. -/
theorem openPersistent_of_canHold {made : Host} (hopen : host.openOrCreate path = .ok (node, made))
    (h : CanHold made node size) :
    ∃ after, (openPersistent host path size).value = (.ok (.persistent node path size), after) ∧
      Grown node size made after := by
  unfold openPersistent
  simp only [hopen, Host.measure, h.measured]
  split
  · rename_i hlt
    obtain ⟨after, hgrow⟩ := h.grows hlt
    simp only [hgrow]
    exact ⟨_, rfl, grown_of_setLength hlt hgrow⟩
  · rename_i hle
    exact ⟨_, rfl, grown_of_le (Nat.le_of_not_lt hle)⟩

/-- Otherwise there is none, and nothing has happened to what was opened. -/
theorem openPersistent_of_not_canHold {made : Host}
    (hopen : host.openOrCreate path = .ok (node, made)) (h : ¬ CanHold made node size) :
    ∃ fault, (openPersistent host path size).value = (.error fault, made) := by
  unfold openPersistent
  simp only [hopen]
  cases hmeasure : made.measure node with
  | error fault => exact ⟨fault, rfl⟩
  | ok length =>
    obtain ⟨hmeasured, rfl⟩ := Host.measure_eq_ok_iff.1 hmeasure
    dsimp only
    split
    · cases hgrow : made.setLength node size with
      | error fault => exact ⟨fault, rfl⟩
      | ok after => exact absurd ⟨hmeasured, fun _ => ⟨after, hgrow⟩⟩ h
    · rename_i hle
      exact absurd ⟨hmeasured, fun hlt => absurd hlt hle⟩ h

/-- Whether files on two hosts can hold a store depends on how long they are and on what is refused
of them. -/
theorem CanHold.of_regular {other : Host} {file' : Nat} (h : CanHold host (.regular file) size)
    (hlength : (other.content file').length = (host.content file).length)
    (hrefusal : ∀ access, other.refusal? (.regular file') access =
      host.refusal? (.regular file) access) : CanHold other (.regular file') size := by
  refine ⟨(hrefusal .measure).trans h.measured, ?_⟩
  intro hlt
  rw [Host.length, hlength] at hlt
  obtain ⟨hmax, hallowed⟩ := setLength_regular_iff.1 (h.grows hlt)
  exact setLength_regular_iff.2 ⟨hmax, (hrefusal _).trans hallowed⟩

/-- No device can be made longer, whichever host it is on. -/
theorem CanHold.of_full {other : Host} (h : CanHold host .full size) :
    CanHold other .full size := by
  refine ⟨rfl, ?_⟩
  intro hlt
  obtain ⟨after, hgrow⟩ := h.grows hlt
  obtain ⟨-, file, hnode, -⟩ := Host.setLength_eq_ok_iff.1 hgrow
  exact absurd hnode (by simp)

/-- A store can be opened exactly if its file can be opened or made and can have its size. -/
theorem exists_openPersistent_iff :
    (∃ store, (openPersistent host path size).value.1 = .ok store) ↔
      ∃ node made, host.openOrCreate path = .ok (node, made) ∧ CanHold made node size := by
  constructor
  · rintro ⟨store, hstore⟩
    cases hopen : host.openOrCreate path with
    | error fault => simp [openPersistent, hopen] at hstore
    | ok opened =>
      refine ⟨opened.1, opened.2, rfl, ?_⟩
      by_contra hnot
      obtain ⟨fault, hfault⟩ := openPersistent_of_not_canHold hopen hnot
      rw [hfault] at hstore
      exact absurd hstore (by simp)
  · rintro ⟨node, made, hopen, hholds⟩
    obtain ⟨after, hstore, -⟩ := openPersistent_of_canHold hopen hholds
    exact ⟨_, by rw [hstore]⟩

/-! ## What opening leaves -/

/-- The ways in which opening a persistent store can end: with the store, and with the host. -/
inductive Opened (host : Host) (path : Path) (size : Nat) : Except Fault Store × Host → Prop
  /-- The file could not be opened. -/
  | refused (fault : Fault) : Opened host path size (.error fault, host)
  /-- The file could not be measured, or not be made long enough. -/
  | stuck {node : Node} {after : Host} (fault : Fault)
    (opens : host.openOrCreate path = .ok (node, after)) :
    Opened host path size (.error fault, after)
  /-- The store is there. -/
  | opened {node : Node} {made after : Host} (opens : host.openOrCreate path = .ok (node, made))
    (grown : Grown node size made after) :
    Opened host path size (.ok (.persistent node path size), after)

theorem opened (host : Host) (path : Path) (size : Nat) :
    Opened host path size (openPersistent host path size).value := by
  cases hopen : host.openOrCreate path with
  | error fault =>
    simp only [openPersistent, hopen]
    exact .refused fault
  | ok result =>
    obtain ⟨node, made⟩ := result
    by_cases hholds : CanHold made node size
    · obtain ⟨after, hvalue, hgrown⟩ := openPersistent_of_canHold hopen hholds
      rw [hvalue]
      exact .opened hopen hgrown
    · obtain ⟨fault, hvalue⟩ := openPersistent_of_not_canHold hopen hholds
      rw [hvalue]
      exact .stuck fault hopen

/-- Opening a persistent store leaves the host as it was, or as opening or making its file left it,
but for the bytes of that file. -/
theorem host_openPersistent (host : Host) (path : Path) (size : Nat) :
    (openPersistent host path size).value.2 = host ∨
      ∃ node made, host.openOrCreate path = .ok (node, made) ∧
        Host.Agree (fun index => node = .regular index) made
          (openPersistent host path size).value.2 := by
  have hcases := opened host path size
  generalize (openPersistent host path size).value = ended at hcases ⊢
  cases hcases with
  | refused fault => exact .inl rfl
  | stuck fault opens => exact .inr ⟨_, _, opens, .refl _ _⟩
  | opened opens grown => exact .inr ⟨_, _, opens, grown.agree⟩

/-- Opening a persistent store keeps what paths find. -/
theorem find_openPersistent_of_find (path : Path) (size : Nat) {other : Path} {found : Node}
    (hfind : host.find other = .ok found) :
    (openPersistent host path size).value.2.find other = .ok found := by
  rcases host_openPersistent host path size with hsame | ⟨node, made, hopen, hagree⟩
  · rwa [hsame]
  · rw [hagree.find]
    exact Host.find_openOrCreate_of_find hopen hfind

/-- Opening a persistent store makes at most its own file. -/
theorem find_of_find_openPersistent {other : Path} {found : Node}
    (hfind : (openPersistent host path size).value.2.find other = .ok found) :
    host.find other = .ok found ∨
      host.find path = .error .notFound ∧ found = .regular host.files.size ∧
        (openPersistent host path size).value.2.find path = .ok found := by
  rcases host_openPersistent host path size with hsame | ⟨node, made, hopen, hagree⟩
  · rw [hsame] at hfind
    exact .inl hfind
  · rw [hagree.find] at hfind ⊢
    exact Host.find_of_find_openOrCreate hopen hfind

/-- Opening a persistent store changes neither how far a path is followed nor where to. -/
theorem toOption_locate_openPersistent (host : Host) (path : Path) (size : Nat) (other : Path) :
    ((openPersistent host path size).value.2.locate other).toOption =
      (host.locate other).toOption := by
  rcases host_openPersistent host path size with hsame | ⟨node, made, hopen, hagree⟩
  · rw [hsame]
  · rw [hagree.locate]
    exact Host.toOption_locate_openOrCreate hopen other

theorem sound_openPersistent (hsound : host.Sound) (path : Path) (size : Nat) :
    (openPersistent host path size).value.2.Sound := by
  rcases host_openPersistent host path size with hsame | ⟨node, made, hopen, hagree⟩
  · rwa [hsame]
  · exact hagree.sound (Host.sound_openOrCreate hsound hopen)

/-- Opening a persistent store changes nothing of what the host refuses. -/
theorem refusal?_openPersistent (path : Path) (size : Nat) (hfile : file < host.files.size)
    (access : FileAccess) :
    (openPersistent host path size).value.2.refusal? (.regular file) access =
      host.refusal? (.regular file) access := by
  rcases host_openPersistent host path size with hsame | ⟨node, made, hopen, hagree⟩
  · rw [hsame]
  · rw [hagree.refusal?]
    exact Host.refusal?_openOrCreate hopen (fun index heq => Node.regular.inj heq ▸ hfile) access

theorem rules_openPersistent (host : Host) (path : Path) (size : Nat) :
    (openPersistent host path size).value.2.rules = host.rules := by
  rcases host_openPersistent host path size with hsame | ⟨node, made, hopen, hagree⟩
  · rw [hsame]
  · exact hagree.rules.trans (Host.rules_openOrCreate hopen)

/-- A path that is kept can be opened and hold a store as before. -/
theorem exists_openPersistent_of_keeps (h : Host.Keeps host after path)
    (hopens : ∃ store, (openPersistent host path size).value.1 = .ok store) :
    ∃ store, (openPersistent after path size).value.1 = .ok store := by
  rw [exists_openPersistent_iff] at hopens ⊢
  obtain ⟨node, made, hopen, hholds⟩ := hopens
  rcases Host.granted_of_openOrCreate hopen with
    ⟨rfl, hfind, hdirectory, hgranted⟩ | ⟨names, hlocate, hnone, hmaking, rfl, rfl⟩
  · -- The same node is found again, as long as it was and with the same refusals.
    have hgrantedAfter := (h.refusal? node hfind .openForWriting).trans hgranted
    refine ⟨node, after, Host.openOrCreate_of_find (h.find_iff.2 hfind) hdirectory hgrantedAfter,
      ?_⟩
    cases node with
    | directory => exact absurd rfl hdirectory
    | regular file =>
      exact hholds.of_regular (congrArg Content.length (h.content file hfind))
        (h.refusal? _ hfind)
    | full => exact hholds.of_full
  · -- The place is empty again, and whatever file is made there is empty and has the same refusals.
    have hplace := h.locate_iff.2 hlocate
    have hmissing : after.node? names = none := by
      cases hnode : after.node? names with
      | none => rfl
      | some found =>
        have hfound : after.find path = .ok found := by simp only [Host.find, hplace, hnode]
        have hbefore := h.find_iff.1 hfound
        simp [Host.find, hlocate, hnone] at hbefore
    refine ⟨.regular after.files.size, (after.addFile names).2,
      Host.openOrCreate_of_missing hplace hmissing (h.rules ▸ hmaking), ?_⟩
    apply hholds.of_regular
    · rw [Host.content_addFile_self, Host.content_addFile_self]
    · intro access
      rw [Host.refusal?_addFile_self, Host.refusal?_addFile_self, h.rules]

/-- So whether a store can be opened depends on what its path finds. -/
theorem openPersistent_fails_iff_of_keeps (h : Host.Keeps host after path) :
    (∃ fault, (openPersistent after path size).value.1 = .error fault) ↔
      ∃ fault, (openPersistent host path size).value.1 = .error fault := by
  have hfails (other : Host) : (∃ fault, (openPersistent other path size).value.1 = .error fault) ↔
      ¬ ∃ store, (openPersistent other path size).value.1 = .ok store := by
    cases (openPersistent other path size).value.1 <;> simp
  rw [hfails, hfails]
  exact not_congr ⟨exists_openPersistent_of_keeps h.symm, exists_openPersistent_of_keeps h⟩

/-! ## Other paths -/

/-- Opening a persistent store keeps every path to another file. -/
theorem keeps_openPersistent (hsound : host.Sound) {other : Path}
    (hother : ¬ host.SameFile path other) (size : Nat) :
    Host.Keeps host (openPersistent host path size).value.2 other := by
  have hcases := opened host path size
  generalize (openPersistent host path size).value = ended at hcases
  cases hcases with
  | refused fault => exact .refl _ _
  | stuck fault opens => exact (Host.keeps_openOrCreate hsound opens hother).1
  | opened opens grown =>
    obtain ⟨hkeeps, hnode⟩ := Host.keeps_openOrCreate hsound opens hother
    exact hkeeps.trans
      (.of_agree grown.agree fun file hfile => hnode file (hkeeps.find_iff.1 hfile))

/-! ## What a file holds -/

/-- The byte that was stored last at an offset, if one was. -/
def lastCell? (cells : List (Nat × UInt8)) (offset : Nat) : Option UInt8 :=
  cells.reverse.lookup offset

/-- The byte at an offset of a file that had some content and into which bytes were stored since:
the last one stored there, or else the one that was there, or else zero. -/
def cellByte (initial : Content) (cells : List (Nat × UInt8)) (offset : Nat) : UInt8 :=
  (lastCell? cells offset).getD ((initial.get? offset).getD 0)

theorem cellByte_append_singleton (initial : Content) (cells : List (Nat × UInt8))
    (stored : Nat) (value : UInt8) (offset : Nat) :
    cellByte initial (cells ++ [(stored, value)]) offset =
      if offset = stored then value else cellByte initial cells offset := by
  unfold cellByte lastCell?
  rw [List.reverse_append, List.reverse_singleton, List.singleton_append, List.lookup_cons]
  by_cases heq : offset = stored
  · rw [if_pos heq, heq, beq_self_eq_true]
    rfl
  · rw [if_neg heq, beq_false_of_ne heq]

/-- A file holds what was stored in it since it had some content. -/
structure Holds (file : Nat) (initial : Content) (cells : List (Nat × UInt8)) (host : Host) :
    Prop where
  lt : file < host.files.size
  byte : ∀ offset, (host.content file).byte offset = cellByte initial cells offset

variable {initial : Content} {cells : List (Nat × UInt8)}

theorem holds_content (h : file < host.files.size) :
    Holds file (host.content file) [] host :=
  ⟨h, fun _ => Content.byte_eq_getD_get? _ _⟩

theorem Holds.of_content (h : Holds file initial cells host)
    (hsize : host.files.size ≤ after.files.size)
    (hcontent : after.content file = host.content file) : Holds file initial cells after :=
  ⟨Nat.lt_of_lt_of_le h.lt hsize, fun offset => hcontent ▸ h.byte offset⟩

theorem Holds.grown (h : Holds file initial cells host) (hgrown : Grown node size host after) :
    Holds file initial cells after := by
  refine ⟨hgrown.agree.size ▸ h.lt, ?_⟩
  intro offset
  rw [hgrown.byte file h.lt, h.byte]

/-- Storing a byte adds it to what is held. -/
theorem Holds.writeInto (h : Holds file initial cells host) (offset : Nat) (value : UInt8) :
    Holds file initial (cells ++ [(offset, value)])
      (host.writeInto (.regular file) offset [value]) := by
  have hagree := host.agree_writeInto (.regular file) offset [value]
  refine ⟨hagree.size ▸ h.lt, ?_⟩
  intro i
  rw [Host.content_writeInto_self _ _ h.lt, Content.splice, Content.splice, Content.byte_put,
    h.byte, cellByte_append_singleton]

theorem Holds.openOrCreate (h : Holds file initial cells host)
    (hopen : host.openOrCreate path = .ok (node, after)) : Holds file initial cells after := by
  rcases Host.find_of_openOrCreate hopen with ⟨rfl, -⟩ | ⟨names, -, -, -, rfl⟩
  · exact h
  · have hsize := Host.size_addFile host names
    exact h.of_content (by omega) (Host.content_addFile names h.lt)

/-! ## Stores that come and go -/

/-- What can be reached on one path: from a host, stores of some sizes were opened and are all still
there, and bytes were stored through them, in any order, at offsets below the size of the store.
The lists keep the sizes in the order of opening and the bytes in the order of storing. -/
inductive Reaches (path : Path) (start : Host) :
    List Nat → List (Nat × UInt8) → List Store → Host → Prop
  | start : Reaches path start [] [] [] start
  | opened {sizes : List Nat} {cells : List (Nat × UInt8)} {stores : List Store} {host : Host}
    (before : Reaches path start sizes cells stores host) {size : Nat} {store : Store}
    {after : Host} (opens : (openPersistent host path size).value = (.ok store, after)) :
    Reaches path start (sizes ++ [size]) cells (stores ++ [store]) after
  | stored {sizes : List Nat} {cells : List (Nat × UInt8)} {stores : List Store} {host : Host}
    (before : Reaches path start sizes cells stores host) {index : Nat} {store : Store}
    (there : stores[index]? = some store) {offset : Nat} (below : offset < store.size)
    (value : UInt8) :
    Reaches path start sizes (cells ++ [(offset, value)])
      (stores.set index (store.store host offset value).2.1)
      (store.store host offset value).2.2

/-- What a file that has been used by stores holds, and how long it is.  This is the invariant of
`Reaches`: the bytes are those stored last, the length is that of the longest store that was opened,
or of the content at the start, and every store that was opened is still the store of that file. -/
structure Kept (path : Path) (initial : Content) (sizes : List Nat)
    (cells : List (Nat × UInt8)) (stores : List Store) (host : Host) (file : Nat) : Prop where
  find : host.find path = .ok (.regular file)
  holds : Holds file initial cells host
  length : (host.content file).length = sizes.foldl max initial.length
  limit : (host.content file).length ≤ Host.offsetLimit
  serves : host.ServesNode 0 (.regular file)
  stores : ∀ store ∈ stores, ∃ size ≤ (host.content file).length,
    store = .persistent (.regular file) path size

variable {sizes : List Nat} {stores : List Store} {store : Store}

/-- Below its size, a store of the file takes every byte and gives those that the file holds. -/
theorem Kept.load (h : Kept path initial sizes cells stores host file) (hmem : store ∈ stores)
    {offset : Nat} (hoffset : offset < store.size) :
    store.load host offset = .ok (cellByte initial cells offset) ∧
      store.storeFault? host offset = none := by
  obtain ⟨size, hsize, rfl⟩ := h.stores store hmem
  have hin : offset < (host.content file).length := Nat.lt_of_lt_of_le hoffset hsize
  have hmax : ¬ Host.offsetLimit ≤ offset := by
    have hlimit := h.limit
    omega
  have hread : host.readFault? (.regular file) offset 1 = none := by
    rw [Host.readFault?, if_neg hmax]
    exact h.serves (.read offset 1) rfl
  constructor
  · simp only [Store.load, Host.readByte, hread, Content.get?, if_pos hin, h.holds.byte]
  · rw [storeFault?, Host.writeFault?, if_neg hmax]
    exact h.serves (.write offset 1) rfl

theorem Kept.opened (h : Kept path initial sizes cells stores host file)
    (hopens : (openPersistent host path size).value = (.ok store, after)) :
    Kept path initial (sizes ++ [size]) cells (stores ++ [store]) after file := by
  have hcases := Store.opened host path size
  rw [hopens] at hcases
  cases hcases with
  | opened opens grown =>
    obtain ⟨rfl, rfl⟩ := Host.openOrCreate_eq_of_find opens h.find
    have hlength := grown.length file h.holds.lt rfl
    refine ⟨?_, h.holds.grown grown, ?_, grown.limit file h.holds.lt h.limit,
      h.serves.of_agree grown.agree, ?_⟩
    · rw [grown.agree.find, h.find]
    · rw [hlength, h.length, List.foldl_append, List.foldl_cons, List.foldl_nil]
    · intro other hmem
      rcases List.mem_append.1 hmem with hmem | hmem
      · obtain ⟨size', hsize, rfl⟩ := h.stores other hmem
        exact ⟨size', by omega, rfl⟩
      · obtain rfl := List.mem_singleton.1 hmem
        exact ⟨size, by omega, rfl⟩

theorem Kept.stored (h : Kept path initial sizes cells stores host file) {index : Nat}
    (hthere : stores[index]? = some store) {offset : Nat} (hoffset : offset < store.size)
    (value : UInt8) :
    Kept path initial sizes (cells ++ [(offset, value)])
      (stores.set index (store.store host offset value).2.1)
      (store.store host offset value).2.2 file := by
  have hmem := List.mem_of_getElem? hthere
  have hfault := (h.load hmem hoffset).2
  obtain ⟨size, hsize, rfl⟩ := h.stores store hmem
  have hstored : (Store.persistent (.regular file) path size).store host offset value =
      (.ok (), .persistent (.regular file) path size,
        host.writeInto (.regular file) offset [value]) := by
    simp only [Store.store, hfault, put]
  have hagree := host.agree_writeInto (.regular file) offset [value]
  -- The byte falls within the file, so the file stays as long as it was.
  have hlength : ((host.writeInto (.regular file) offset [value]).content file).length =
      (host.content file).length := by
    have hin : offset < (host.content file).length := Nat.lt_of_lt_of_le hoffset hsize
    rw [Host.content_writeInto_self _ _ h.holds.lt, Content.splice, Content.splice,
      Content.length_put]
    omega
  rw [hstored]
  refine ⟨?_, h.holds.writeInto offset value, hlength ▸ h.length, hlength ▸ h.limit,
    h.serves.of_agree hagree, ?_⟩
  · rw [hagree.find, h.find]
  · intro other hother
    rw [hlength]
    rcases List.mem_or_eq_of_mem_set hother with hother | rfl
    · exact h.stores other hother
    · exact ⟨size, hsize, rfl⟩

/-- The content that a path leads to at the start, or none. -/
def initialContent (start : Host) (path : Path) : Content := (start.contents? path).getD .empty

/-- Opening a path finds its file with the content that it had, or makes it empty. -/
theorem content_of_openOrCreate (hsound : start.Sound)
    (hopen : start.openOrCreate path = .ok (.regular file, after)) :
    file < after.files.size ∧ after.content file = initialContent start path := by
  rcases Host.find_of_openOrCreate hopen with ⟨rfl, hfind⟩ | ⟨names, hlocate, hnone, hnode, rfl⟩
  · refine ⟨hsound.lt_of_find hfind, ?_⟩
    simp only [initialContent, Host.contents?, hfind, Option.getD_some]
  · obtain rfl := Node.regular.inj hnode
    have hmissing : start.contents? path = none := by
      simp only [Host.contents?, Host.find, hlocate, hnone]
    refine ⟨by simp [Host.size_addFile], ?_⟩
    rw [initialContent, hmissing, Host.content_addFile_self]
    rfl

/-- The first store that is opened on a path finds the file there or makes it. -/
theorem kept_first (hsound : start.Sound)
    (hstart : ∀ node, start.find path = .ok node → ∃ file, node = .regular file)
    (hlimit : (initialContent start path).length ≤ Host.offsetLimit) (hserves : start.Serves path 0)
    (hopens : (openPersistent start path size).value = (.ok store, after)) :
    ∃ file, Kept path (initialContent start path) [size] [] [store] after file := by
  have hcases := Store.opened start path size
  rw [hopens] at hcases
  cases hcases with
  | opened opens grown =>
    rename_i node made
    have hregular : ∃ file, node = .regular file := by
      rcases Host.find_of_openOrCreate opens with ⟨rfl, hfind⟩ | ⟨names, -, -, hnode, -⟩
      · exact hstart node hfind
      · exact ⟨_, hnode⟩
    obtain ⟨file, rfl⟩ := hregular
    obtain ⟨hlt, hcontent⟩ := content_of_openOrCreate hsound opens
    have hlength := grown.length file hlt rfl
    have hholds := (holds_content hlt).grown grown
    rw [hcontent] at hlength hholds
    refine ⟨file, ?_, hholds, hlength, grown.limit file hlt (hcontent ▸ hlimit),
      (hserves.opened opens).of_agree grown.agree, ?_⟩
    · rw [grown.agree.find, Host.find_openOrCreate opens]
    · intro other hmem
      obtain rfl := List.mem_singleton.1 hmem
      exact ⟨size, by omega, rfl⟩

/-- Once there is a file, what was reached on its path has kept it. -/
theorem Reaches.kept (hsound : start.Sound)
    (hstart : ∀ node, start.find path = .ok node → ∃ file, node = .regular file)
    (hlimit : (initialContent start path).length ≤ Host.offsetLimit) (hserves : start.Serves path 0)
    (h : Reaches path start sizes cells stores host) :
    (sizes = [] ∧ stores = [] ∧ cells = [] ∧ host = start) ∨
      ∃ file, Kept path (initialContent start path) sizes cells stores host file := by
  induction h with
  | start => exact .inl ⟨rfl, rfl, rfl, rfl⟩
  | opened before opens ih =>
    rcases ih with ⟨rfl, rfl, rfl, heq⟩ | ⟨file, hkept⟩
    · rw [heq] at opens
      exact .inr (kept_first hsound hstart hlimit hserves opens)
    · exact .inr ⟨file, hkept.opened opens⟩
  | stored before there below value ih =>
    rcases ih with ⟨-, rfl, -, -⟩ | ⟨file, hkept⟩
    · exact absurd there (by simp)
    · exact .inr ⟨file, hkept.stored there below value⟩

/-- Whatever was reached on a path, its file is as long as the longest store and holds what was
stored last, and the stores give these bytes and take others. -/
theorem Reaches.contents (hsound : start.Sound)
    (hstart : ∀ node, start.find path = .ok node → ∃ file, node = .regular file)
    (hlimit : (initialContent start path).length ≤ Host.offsetLimit) (hserves : start.Serves path 0)
    (h : Reaches path start sizes cells stores host) :
    ((host.contents? path).getD .empty).length =
        sizes.foldl max (initialContent start path).length ∧
      (∀ offset < ((host.contents? path).getD .empty).length,
        ((host.contents? path).getD .empty).get? offset =
          some (cellByte (initialContent start path) cells offset)) ∧
      (sizes ≠ [] → (host.contents? path).isSome) ∧
      ∀ store ∈ stores, ∀ offset < store.size,
        store.load host offset = .ok (cellByte (initialContent start path) cells offset) ∧
          ∀ value, (store.store host offset value).1 = .ok () := by
  rcases h.kept hsound hstart hlimit hserves with ⟨rfl, rfl, rfl, rfl⟩ | ⟨file, hkept⟩
  · -- No store was opened yet, and nothing has happened to the path.
    refine ⟨rfl, ?_, by simp, by simp⟩
    intro offset hoffset
    change offset < (initialContent host path).length at hoffset
    show (initialContent host path).get? offset = _
    rw [Content.get?, if_pos hoffset, Content.byte_eq_getD_get?]
    rfl
  · -- The file has been there since the first store was opened.
    have hcontents : host.contents? path = some (host.content file) := by
      simp only [Host.contents?, hkept.find]
    rw [hcontents, Option.getD_some]
    refine ⟨hkept.length, ?_, by simp, ?_⟩
    · intro offset hoffset
      rw [Content.get?, if_pos hoffset, hkept.holds.byte]
    · intro store hmem offset hoffset
      obtain ⟨hload, hfault⟩ := hkept.load hmem hoffset
      refine ⟨hload, ?_⟩
      intro value
      rw [Store.store, hfault]

end Store

end Backplane
