import Backplane.Host.Tree
import Mathlib.Tactic.Common

/-!
# Files that stay as they are

Most of what the machine does leaves most files alone.  `Agree touched before after` says how
little has changed: the same paths lead to the same nodes, there are as many files, only files of
the given numbers may hold other bytes, and the host refuses what it refused.  It is reflexive and
transitive, so a run agrees with its start as soon as each of its steps does, and whatever looks at
paths alone, such as `Host.find`, answers the same before and after.

Nothing forces a path to name a file that is there.  A host on which every path does is `Sound`,
and opening, making and writing files keep it so.

Where others change the host as well, less is known: `Spares file before after` says no more than
that one file has kept its bytes.

## What the host refuses

Refusals are a part of a file and do not change with its bytes.  So `Agree` keeps them, and a
hypothesis about what the host refuses, once made about the host at the start, holds along a run as
long as only the machine changes the host.  A change from outside may bring any refusals with it.
-/

namespace Backplane

theorem toOption_eq_some_iff {ε α : Type} {result : Except ε α} {value : α} :
    result.toOption = some value ↔ result = .ok value := by
  cases result <;> simp [Except.toOption]

/-- Whether a node, if it is a regular file, is one of the first files. -/
def Node.isBelow (size : Nat) : Node → Bool
  | .regular index => index < size
  | _ => true

theorem Node.isBelow_iff {size : Nat} {node : Node} :
    node.isBelow size = true ↔ ∀ index, node = .regular index → index < size := by
  cases node <;> simp [isBelow]

namespace Host

/-! ## Hosts whose paths lead to files -/

/-- A host with these files that refuses nothing. -/
def ofContents (entries : List (List String × Node)) (contents : List Content) : Host where
  entries
  files := (contents.map fun content => { content }).toArray

/-- Every path that names a regular file names one that is there. -/
def Sound (host : Host) : Prop :=
  ∀ entry ∈ host.entries, ∀ index, entry.2 = .regular index → index < host.files.size

instance (host : Host) : Decidable host.Sound :=
  decidable_of_iff (∀ entry ∈ host.entries, entry.2.isBelow host.files.size = true)
    (forall₂_congr fun _ _ => Node.isBelow_iff)

/-- What a path names is the working directory, one above it, the root, or in the list. -/
theorem mem_entries_of_node? {host : Host} {names : List String} {index : Nat}
    (h : host.node? names = some (.regular index)) :
    (names, Node.regular index) ∈ host.entries := by
  unfold node? at h
  split at h
  · exact absurd h (by simp)
  · rw [List.lookup_eq_some_iff] at h
    obtain ⟨before, after, hentries, -⟩ := h
    rw [hentries]
    simp

theorem Sound.lt_of_node? {host : Host} (hsound : host.Sound) {names : List String}
    {index : Nat} (h : host.node? names = some (.regular index)) :
    index < host.files.size :=
  hsound _ (mem_entries_of_node? h) index rfl

/-- A path that is found leads to a place that holds what was found. -/
theorem exists_node?_of_find {host : Host} {path : Path} {node : Node}
    (h : host.find path = .ok node) :
    ∃ names, host.locate path = .ok names ∧ host.node? names = some node := by
  unfold find at h
  cases hlocate : host.locate path with
  | error fault => simp [hlocate] at h
  | ok names =>
    cases hnode : host.node? names with
    | none => simp [hlocate, hnode] at h
    | some found =>
      simp only [hlocate, hnode, Except.ok.injEq] at h
      exact ⟨names, rfl, h ▸ hnode⟩

theorem Sound.lt_of_find {host : Host} (hsound : host.Sound) {path : Path} {index : Nat}
    (h : host.find path = .ok (.regular index)) : index < host.files.size := by
  obtain ⟨names, -, hnode⟩ := exists_node?_of_find h
  exact hsound.lt_of_node? hnode

/-! ## Contents -/

@[simp]
theorem size_setContent (host : Host) (index : Nat) (change : Content → Content) :
    (host.setContent index change).files.size = host.files.size := by
  simp [setContent]

/-- Changing what a file holds does not change what is refused of it. -/
@[simp]
theorem refusal?_setContent (host : Host) (index : Nat) (change : Content → Content) (node : Node)
    (access : FileAccess) :
    (host.setContent index change).refusal? node access = host.refusal? node access := by
  cases node with
  | regular other =>
    by_cases heq : index = other
    · subst heq
      cases hfile : host.files[index]? <;>
        simp [setContent, refusal?, Array.getElem?_modify, hfile]
    · simp [setContent, refusal?, Array.getElem?_modify, heq]
  | _ => rfl

theorem content_setContent_of_ne (host : Host) {index other : Nat}
    (change : Content → Content) (h : other ≠ index) :
    (host.setContent index change).content other = host.content other := by
  simp [setContent, content, Array.getElem?_modify, Ne.symm h]

theorem content_setContent_self {host : Host} {index : Nat} (change : Content → Content)
    (h : index < host.files.size) :
    (host.setContent index change).content index = change (host.content index) := by
  simp [setContent, content, h, Array.getElem_modify_self]

/-! ## Agreement -/

/-- The host's paths are the same, and so are its files apart from those of some numbers.  What the
host refuses is the same for all files, also for those that may hold other bytes. -/
structure Agree (touched : Nat → Prop) (before after : Host) : Prop where
  entries : after.entries = before.entries
  size : after.files.size = before.files.size
  content : ∀ index, ¬ touched index → after.content index = before.content index
  refusal? : ∀ node access, after.refusal? node access = before.refusal? node access
  rules : after.rules = before.rules

namespace Agree

variable {touched more : Nat → Prop} {first second third : Host}

@[refl]
theorem refl (touched : Nat → Prop) (host : Host) : Agree touched host host :=
  ⟨rfl, rfl, fun _ _ => rfl, fun _ _ => rfl, rfl⟩

theorem trans (h : Agree touched first second) (h' : Agree touched second third) :
    Agree touched first third :=
  ⟨h'.entries.trans h.entries, h'.size.trans h.size,
    fun index hout => (h'.content index hout).trans (h.content index hout),
    fun node access => (h'.refusal? node access).trans (h.refusal? node access),
    h'.rules.trans h.rules⟩

theorem mono (h : Agree touched first second) (hmore : ∀ index, touched index → more index) :
    Agree more first second :=
  ⟨h.entries, h.size, fun index hout => h.content index fun hin => hout (hmore index hin),
    h.refusal?, h.rules⟩

/-- A host of which no file was touched is the same host. -/
theorem eq_of_untouched (h : Agree touched first second) (huntouched : ∀ index, ¬touched index) :
    second = first := by
  obtain ⟨entries, files, rules⟩ := first
  obtain ⟨entries', files', rules'⟩ := second
  obtain rfl : entries' = entries := h.entries
  obtain rfl : rules' = rules := h.rules
  have hfiles : files' = files := by
    apply Array.ext h.size
    intro i hi hi'
    have hcontent : files'[i].content = files[i].content := by
      simpa [Host.content, hi, hi'] using h.content i (huntouched i)
    have hrefusal : files'[i].refusal? = files[i].refusal? := by
      funext access
      simpa [Host.refusal?, hi, hi'] using h.refusal? (.regular i) access
    rcases hfile : files[i] with ⟨content, refusal⟩
    rcases hfile' : files'[i] with ⟨content', refusal'⟩
    simp_all
  rw [hfiles]

theorem sound (h : Agree touched first second) (hsound : first.Sound) : second.Sound := by
  intro entry hentry index hindex
  rw [h.size]
  exact hsound entry (h.entries ▸ hentry) index hindex

theorem node? (h : Agree touched first second) (names : List String) :
    second.node? names = first.node? names := by
  unfold Host.node?
  rw [h.entries]

theorem walk (h : Agree touched first second) (here names : List String) :
    second.walk here names = first.walk here names := by
  induction names generalizing here with
  | nil => rfl
  | cons name rest ih => simp only [Host.walk, h.node?, ih]

theorem locate (h : Agree touched first second) (path : Path) :
    second.locate path = first.locate path := by
  unfold Host.locate
  rw [h.walk]

theorem find (h : Agree touched first second) (path : Path) :
    second.find path = first.find path := by
  unfold Host.find
  simp only [h.locate, h.node?]

end Agree

/-- Changing the content of a file touches that file. -/
theorem agree_setContent (host : Host) (file : Nat) (change : Content → Content) :
    Agree (fun index => index = file) host (host.setContent file change) :=
  ⟨rfl, size_setContent _ _ _, fun _ hother => content_setContent_of_ne _ _ hother,
    refusal?_setContent _ _ _, rfl⟩

/-- Writing through a node touches the file of that node. -/
theorem agree_writeInto (host : Host) (node : Node) (offset : Nat) (bytes : List UInt8) :
    Agree (fun index => node = .regular index) host (host.writeInto node offset bytes) := by
  cases node with
  | directory => exact Agree.refl _ _
  | full => exact Agree.refl _ _
  | regular file =>
    refine (agree_setContent host file (·.splice offset bytes)).mono ?_
    rintro index rfl
    rfl

theorem content_writeInto_self {host : Host} {index : Nat} (offset : Nat) (bytes : List UInt8)
    (h : index < host.files.size) :
    (host.writeInto (.regular index) offset bytes).content index =
      (host.content index).splice offset bytes :=
  content_setContent_self _ h

/-! ## Measuring -/

theorem measure_eq_ok_iff {host : Host} {node : Node} {length : Nat} :
    host.measure node = .ok length ↔
      host.refusal? node .measure = none ∧ host.length node = length := by
  unfold measure
  cases host.refusal? node .measure <;> simp

/-! ## Reading a file as a whole -/

/-- What reading the file of a path as a whole gives, if the path names a regular file. -/
def readFile? (host : Host) (path : Path) : Option (Except Fault Content) :=
  match host.find path with
  | .ok (.regular index) => some (host.readAll index)
  | _ => none

theorem isFile_eq_isSome (host : Host) (path : Path) :
    host.isFile path = (host.readFile? path).isSome := by
  unfold isFile readFile?
  rcases host.find path with fault | _ | _ | _ <;> rfl

/-- What is read of a file as a whole is its content. -/
theorem eq_content_of_readAll {host : Host} {file : Nat} {content : Content}
    (h : host.readAll file = .ok content) : content = host.content file := by
  unfold readAll at h
  cases hgrant : host.grant (.regular file) .openForReading with
  | error fault => simp [hgrant] at h
  | ok node =>
    cases hread : host.readFault? node 0 (host.content file).length with
    | some fault => simp [hgrant, hread] at h
    | none => simpa [hgrant, hread] using h.symm

/-- Reading a file as a whole depends on its bytes and on what the host refuses of it. -/
theorem readAll_of_refusal? {host other : Host} {file file' : Nat}
    (hrefusal : ∀ access, other.refusal? (.regular file') access =
      host.refusal? (.regular file) access)
    (hcontent : other.content file' = host.content file) :
    other.readAll file' = host.readAll file := by
  unfold readAll grant
  rw [hrefusal]
  cases host.refusal? (.regular file) .openForReading with
  | some fault => rfl
  | none => simp only [readFault?, hrefusal, hcontent]

/-! ## Opening -/

theorem grant_eq_ok_iff {host : Host} {node found : Node} {access : FileAccess} :
    host.grant node access = .ok found ↔ host.refusal? node access = none ∧ found = node := by
  unfold grant
  cases host.refusal? node access <;> simp [eq_comm]

theorem sound_addFile {host : Host} (hsound : host.Sound) (names : List String) :
    (host.addFile names).2.Sound := by
  intro entry hentry index hindex
  simp only [addFile, Array.size_push]
  rcases List.mem_cons.1 hentry with rfl | hentry
  · obtain rfl := Node.regular.inj hindex
    omega
  · have := hsound entry hentry index hindex
    omega

theorem size_addFile (host : Host) (names : List String) :
    (host.addFile names).2.files.size = host.files.size + 1 := by
  simp [addFile]

theorem content_addFile {host : Host} (names : List String) {index : Nat}
    (h : index < host.files.size) :
    (host.addFile names).2.content index = host.content index := by
  simp [addFile, content, Array.getElem?_push, Nat.ne_of_lt h]

@[simp]
theorem content_addFile_self (host : Host) (names : List String) :
    (host.addFile names).2.content host.files.size = .empty := by
  simp [addFile, content]

/-- A file that is made leaves alone what is refused of the others. -/
theorem refusal?_addFile {host : Host} (names : List String) {node : Node}
    (h : ∀ index, node = .regular index → index < host.files.size) (access : FileAccess) :
    (host.addFile names).2.refusal? node access = host.refusal? node access := by
  cases node with
  | regular index =>
    simp [addFile, refusal?, Array.getElem?_push, Nat.ne_of_lt (h index rfl)]
  | _ => rfl

/-- Of the file that is made the host refuses what it refuses of every new one. -/
@[simp]
theorem refusal?_addFile_self (host : Host) (names : List String) (access : FileAccess) :
    (host.addFile names).2.refusal? (.regular host.files.size) access =
      host.rules.newRefusal? access := by
  simp [addFile, refusal?]

@[simp]
theorem rules_addFile (host : Host) (names : List String) :
    (host.addFile names).2.rules = host.rules := rfl

/-- A file can be made where a path without a slash at its end leads. -/
theorem locateFile_eq_ok_iff {host : Host} {path : Path} {names : List String} :
    host.locateFile path = .ok names ↔
      path.endsInSlash = false ∧ host.locate path = .ok names := by
  unfold locateFile
  cases htext : path.textFault? with
  | some fault => simp [locate, htext]
  | none => cases path.endsInSlash <;> simp

/-- What is opened is at the place of its path and was not refused, or it was made there and the
host allowed it. -/
theorem openOrCreate_eq_ok_iff {host after : Host} {path : Path} {node : Node} :
    host.openOrCreate path = .ok (node, after) ↔
      ∃ names, host.locateFile path = .ok names ∧
        ((host.node? names = some node ∧ node ≠ .directory ∧
            host.refusal? node .openForWriting = none ∧ host = after) ∨
          (host.node? names = none ∧ host.rules.makingRefusal? names = none ∧
            host.addFile names = (node, after))) := by
  constructor
  · intro h
    unfold openOrCreate at h
    cases hfile : host.locateFile path with
    | error fault => simp [hfile] at h
    | ok names =>
      refine ⟨names, rfl, ?_⟩
      cases hnode : host.node? names with
      | none =>
        cases hmaking : host.rules.makingRefusal? names with
        | some fault => simp [hfile, hnode, hmaking] at h
        | none =>
          simp only [hfile, hnode, hmaking] at h
          exact .inr ⟨rfl, rfl, Except.ok.inj h⟩
      | some found =>
        cases hgrant : host.grant found .openForWriting with
        | error fault => cases found <;> simp [hfile, hnode, hgrant] at h
        | ok opened =>
          obtain ⟨hgranted, rfl⟩ := grant_eq_ok_iff.1 hgrant
          -- Directories were refused before the host was asked.
          have hdirectory : opened ≠ .directory := by
            rintro rfl
            simp [hfile, hnode] at h
          have hsame : (opened, host) = (node, after) := by
            cases opened with
            | directory => exact absurd rfl hdirectory
            | _ => simpa only [hfile, hnode, hgrant, Except.ok.injEq] using h
          obtain ⟨rfl, rfl⟩ := Prod.mk.inj hsame
          exact .inl ⟨rfl, hdirectory, hgranted, rfl⟩
  · unfold openOrCreate
    rintro ⟨names, hfile, ⟨hnode, hdirectory, hgranted, rfl⟩ | ⟨hnone, hmaking, hmade⟩⟩
    · have hgrant := grant_eq_ok_iff.2 ⟨hgranted, rfl⟩
      cases node with
      | directory => exact absurd rfl hdirectory
      | _ => simp only [hfile, hnode, hgrant]
    · simp only [hfile, hnone, hmaking, hmade]

/-- Opening a file finds the one that is there, or makes the next one where nothing is.  Either was
granted by the host. -/
theorem granted_of_openOrCreate {host after : Host} {path : Path} {node : Node}
    (h : host.openOrCreate path = .ok (node, after)) :
    (after = host ∧ host.find path = .ok node ∧ node ≠ .directory ∧
        host.refusal? node .openForWriting = none) ∨
      ∃ names, host.locate path = .ok names ∧ host.node? names = none ∧
        host.rules.makingRefusal? names = none ∧
        node = .regular host.files.size ∧ after = (host.addFile names).2 := by
  obtain ⟨names, hfile, hcases⟩ := openOrCreate_eq_ok_iff.1 h
  have hlocate := (locateFile_eq_ok_iff.1 hfile).2
  rcases hcases with ⟨hnode, hdirectory, hgranted, rfl⟩ | ⟨hnone, hmaking, hmade⟩
  · exact .inl ⟨rfl, by simp only [find, hlocate, hnode], hdirectory, hgranted⟩
  · obtain ⟨rfl, rfl⟩ := Prod.mk.inj hmade
    exact .inr ⟨names, hlocate, hnone, hmaking, rfl, rfl⟩

/-- What was granted is left out where only files matter. -/
theorem find_of_openOrCreate {host after : Host} {path : Path} {node : Node}
    (h : host.openOrCreate path = .ok (node, after)) :
    (after = host ∧ host.find path = .ok node) ∨
      ∃ names, host.locate path = .ok names ∧ host.node? names = none ∧
        node = .regular host.files.size ∧ after = (host.addFile names).2 := by
  rcases granted_of_openOrCreate h with ⟨hsame, hfind, -, -⟩ | ⟨names, hlocate, hnone, -, hmade⟩
  · exact .inl ⟨hsame, hfind⟩
  · exact .inr ⟨names, hlocate, hnone, hmade⟩

/-! ## A file that is left alone -/

/-- The host may have changed in any way, but one of its files has the same bytes. -/
structure Spares (file : Nat) (before after : Host) : Prop where
  sound : after.Sound
  size : before.files.size ≤ after.files.size
  content : after.content file = before.content file

namespace Spares

variable {file : Nat} {first second third : Host}

theorem refl (hsound : first.Sound) (file : Nat) : Spares file first first :=
  ⟨hsound, Nat.le_refl _, rfl⟩

theorem trans (h : Spares file first second) (h' : Spares file second third) :
    Spares file first third :=
  ⟨h'.sound, Nat.le_trans h.size h'.size, h'.content.trans h.content⟩

end Spares

theorem Agree.spares {touched : Nat → Prop} {before after : Host}
    (h : Agree touched before after) (hsound : before.Sound) (file : Nat)
    (hout : ¬ touched file) : Spares file before after :=
  ⟨h.sound hsound, Nat.le_of_eq h.size.symm, h.content file hout⟩

/-- Opening or making a file leaves alone any file that the path does not lead to. -/
theorem spares_openOrCreate {host after : Host} (hsound : host.Sound) {file : Nat}
    (hfile : file < host.files.size) {path : Path}
    (hpath : host.find path ≠ .ok (.regular file)) {node : Node}
    (h : host.openOrCreate path = .ok (node, after)) :
    Spares file host after ∧ node ≠ .regular file ∧
      ∀ index, node = .regular index → index < after.files.size := by
  rcases find_of_openOrCreate h with ⟨rfl, hfind⟩ | ⟨names, -, -, rfl, rfl⟩
  · refine ⟨Spares.refl hsound file, ?_, ?_⟩
    · intro hnode
      exact hpath (hnode ▸ hfind)
    · intro index hnode
      exact hsound.lt_of_find (hnode ▸ hfind)
  · have hsize := size_addFile host names
    have hspares : Spares file host (host.addFile names).2 :=
      ⟨sound_addFile hsound names, by omega, content_addFile names hfile⟩
    refine ⟨hspares, ?_, ?_⟩
    · intro hnode
      have hindex := Node.regular.inj hnode
      omega
    · intro index hnode
      have hindex := Node.regular.inj hnode
      omega

/-- Only a regular file takes a length, which has to be a signed number, and only if the host does
not refuse it. -/
theorem setLength_eq_ok_iff {host after : Host} {node : Node} {length : Nat} :
    host.setLength node length = .ok after ↔
      length ≤ offsetLimit ∧ ∃ file, node = .regular file ∧
        host.refusal? (.regular file) (.setLength length) = none ∧
        host.setContent file (·.resize length) = after := by
  unfold setLength
  by_cases hmax : offsetLimit < length
  · simp [if_pos hmax, Nat.not_le.2 hmax]
  · rw [if_neg hmax]
    cases node with
    | directory => simp
    | full => simp
    | regular file =>
      cases hrefused : host.refusal? (.regular file) (.setLength length) <;>
        simp [Nat.le_of_not_lt hmax, hrefused]

/-- Growing or cutting a file leaves alone any other. -/
theorem agree_setLength {host after : Host} {node : Node} {length : Nat}
    (h : host.setLength node length = .ok after) :
    Agree (fun index => node = .regular index) host after := by
  obtain ⟨-, file, rfl, -, rfl⟩ := setLength_eq_ok_iff.1 h
  refine (agree_setContent host file _).mono ?_
  rintro other rfl
  rfl

end Host

end Backplane
