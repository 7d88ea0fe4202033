import Backplane.Host.Changes
import Backplane.Proofs.Host.Opening

/-!
# Paths to different files

Opening a file through one path can change what another path finds in two ways: both lead to the
same empty place, where a file is made, or both find the same file, whose content is lost.
`SameFile` says that neither is ruled out.  Where it does not hold, `Keeps` says what stays: how
far the other path is followed and where to, what it finds, the bytes of the file that it finds,
and what the host refuses of it.  Why a path cannot be followed may change, since a file can have
been made half way along it.

Whether a path can be opened for writing depends on nothing else (`opens_iff`), so it stays too
(`Keeps.opens_iff`).

## Missing files

Two paths can be those of one file although there is none yet, if both lead to the same empty place.
`SameFile` counts them as the same.  Places are compared and not texts, so paths with dots or
doubled slashes are recognised.
-/

namespace Backplane.Host

variable {host before middle after : Host} {path other : Path} {node : Node}

/-- Two paths lead to the same place, or find the same regular file. -/
def SameFile (host : Host) (first second : Path) : Prop :=
  (∃ names, host.locate first = .ok names ∧ host.locate second = .ok names) ∨
    ∃ file, host.find first = .ok (.regular file) ∧ host.find second = .ok (.regular file)

instance (host : Host) (first second : Path) : Decidable (host.SameFile first second) :=
  decidable_of_iff
    ((host.locate first).isOk = true ∧ host.locate second = host.locate first ∨
      host.isFile first = true ∧ host.find second = host.find first) <| by
    unfold SameFile isFile
    refine or_congr ?_ ?_
    · cases host.locate first <;> simp [Except.isOk, Except.toBool]
    · rcases host.find first with fault | _ | file | _ <;> simp

/-- A path is followed as far as before and finds what it found, with the same bytes and the same
refusals. -/
structure Keeps (before after : Host) (path : Path) : Prop where
  locate : (after.locate path).toOption = (before.locate path).toOption
  find : (after.find path).toOption = (before.find path).toOption
  content : ∀ file, before.find path = .ok (.regular file) →
    after.content file = before.content file
  refusal? : ∀ node, before.find path = .ok node →
    ∀ access, after.refusal? node access = before.refusal? node access
  rules : after.rules = before.rules

namespace Keeps

theorem refl (host : Host) (path : Path) : Keeps host host path :=
  ⟨rfl, rfl, fun _ _ => rfl, fun _ _ _ => rfl, rfl⟩

theorem locate_iff (h : Keeps before after path) {names : List String} :
    after.locate path = .ok names ↔ before.locate path = .ok names := by
  rw [← toOption_eq_some_iff, h.locate, toOption_eq_some_iff]

theorem find_iff (h : Keeps before after path) :
    after.find path = .ok node ↔ before.find path = .ok node := by
  rw [← toOption_eq_some_iff, h.find, toOption_eq_some_iff]

theorem trans (h : Keeps before middle path) (h' : Keeps middle after path) :
    Keeps before after path := by
  refine ⟨h'.locate.trans h.locate, h'.find.trans h.find, ?_, ?_, h'.rules.trans h.rules⟩
  · intro file hfind
    rw [h'.content file (h.find_iff.2 hfind), h.content file hfind]
  · intro node hfind access
    rw [h'.refusal? node (h.find_iff.2 hfind), h.refusal? node hfind]

theorem symm (h : Keeps before after path) : Keeps after before path := by
  refine ⟨h.locate.symm, h.find.symm, ?_, ?_, h.rules.symm⟩
  · intro file hfind
    exact (h.content file (h.find_iff.1 hfind)).symm
  · intro node hfind access
    exact (h.refusal? node (h.find_iff.1 hfind) access).symm

/-- A path is kept by changes to other files than the one it finds. -/
theorem of_agree {touched : Nat → Prop} (h : Agree touched before after)
    (hout : ∀ file, before.find path = .ok (.regular file) → ¬ touched file) :
    Keeps before after path :=
  ⟨by rw [h.locate], by rw [h.find], fun file hfind => h.content file (hout file hfind),
    fun node _ => h.refusal? node, h.rules⟩

theorem sameFile_iff (h : Keeps before after path) (h' : Keeps before after other) :
    after.SameFile path other ↔ before.SameFile path other := by
  simp only [SameFile, h.locate_iff, h'.locate_iff, h.find_iff, h'.find_iff]

theorem readFile? (h : Keeps before after path) :
    after.readFile? path = before.readFile? path := by
  unfold Host.readFile?
  cases hfind : before.find path with
  | error fault =>
    cases hafter : after.find path with
    | error other => rfl
    | ok node => exact absurd (hfind.symm.trans (h.find_iff.1 hafter)) (by simp)
  | ok node =>
    rw [h.find_iff.2 hfind]
    cases node with
    | regular file =>
      exact congrArg some (readAll_of_refusal? (h.refusal? _ hfind) (h.content file hfind))
    | _ => rfl

theorem isFile (h : Keeps before after path) : after.isFile path = before.isFile path := by
  rw [isFile_eq_isSome, isFile_eq_isSome, h.readFile?]

end Keeps

/-! ## Opening another file -/

/-- Opening a file keeps every path to another one, which then does not find the opened file. -/
theorem keeps_openOrCreate (hsound : host.Sound)
    (h : host.openOrCreate path = .ok (node, after)) (hother : ¬ host.SameFile path other) :
    Keeps host after other ∧
      ∀ file, host.find other = .ok (.regular file) → node ≠ .regular file := by
  rcases find_of_openOrCreate h with ⟨rfl, hfind⟩ | ⟨names, hlocate, hnone, rfl, rfl⟩
  · refine ⟨Keeps.refl _ _, ?_⟩
    rintro file hfile rfl
    exact hother (.inr ⟨file, hfind, hfile⟩)
  · have hplace : ¬ host.locate other = .ok names := fun hsame =>
      hother (.inl ⟨names, hlocate, hsame⟩)
    refine ⟨⟨toOption_locate_addFile hnone other, ?_, ?_, ?_, rfl⟩, ?_⟩
    · rw [toOption_find_addFile hnone, if_neg hplace]
    · intro file hfile
      exact content_addFile names (hsound.lt_of_find hfile)
    · rintro found hfound access
      exact refusal?_addFile names (fun index heq => hsound.lt_of_find (heq ▸ hfound)) access
    · rintro file hfile hnode
      obtain rfl := Node.regular.inj hnode
      exact Nat.lt_irrefl _ (hsound.lt_of_find hfile)

theorem agree_clear (host : Host) (node : Node) :
    Agree (fun file => node = .regular file) host (host.clear node) := by
  cases node with
  | regular file =>
    refine (agree_setContent host file fun _ => .empty).mono ?_
    rintro index rfl
    rfl
  | _ => exact Agree.refl _ _

/-- So does creating a file, although that drops its content. -/
theorem keeps_create (hsound : host.Sound) (h : host.create path = .ok (node, after)) :
    after.Sound ∧ ∀ other, ¬ host.SameFile path other → Keeps host after other ∧
      ∀ file, host.find other = .ok (.regular file) → node ≠ .regular file := by
  unfold create at h
  cases hopen : host.openOrCreate path with
  | error fault => exact absurd h (by simp [hopen])
  | ok opened =>
    obtain ⟨found, made⟩ := opened
    simp only [hopen, Except.ok.injEq, Prod.mk.injEq] at h
    obtain ⟨rfl, rfl⟩ := h
    refine ⟨(agree_clear made found).sound (sound_openOrCreate hsound hopen), ?_⟩
    intro other hother
    obtain ⟨hkeeps, hnode⟩ := keeps_openOrCreate hsound hopen hother
    refine ⟨hkeeps.trans (.of_agree (agree_clear made found) ?_), hnode⟩
    intro file hfile
    exact hnode file (hkeeps.find_iff.1 hfile)

/-! ## Whether a file can be opened -/

/-- The host lets a path be opened for writing: what it finds is neither a directory nor refused,
and where it finds nothing a file can be made. -/
structure Opens (host : Host) (path : Path) : Prop where
  file : path.endsInSlash = false
  place : ∃ names, host.locate path = .ok names
  found : ∀ node, host.find path = .ok node →
    node ≠ .directory ∧ host.refusal? node .openForWriting = none
  missing : ∀ names, host.locate path = .ok names → (∀ node, host.find path ≠ .ok node) →
    host.rules.makingRefusal? names = none

/-- A file can be opened for writing, or made, if its path can be followed to the end, does not ask
for a directory and does not find one, and if the host lets it. -/
theorem opens_iff :
    (∃ node after, host.openOrCreate path = .ok (node, after)) ↔ host.Opens path := by
  constructor
  · rintro ⟨node, after, hopen⟩
    obtain ⟨names, hfile, -⟩ := openOrCreate_eq_ok_iff.1 hopen
    obtain ⟨hslash, hlocate⟩ := locateFile_eq_ok_iff.1 hfile
    rcases granted_of_openOrCreate hopen with
      ⟨rfl, hfind, hdirectory, hgranted⟩ | ⟨place, hplace, hnone, hmaking, -, -⟩
    · -- Something was there, and was granted.
      refine ⟨hslash, ⟨names, hlocate⟩, ?_, fun _ _ hmissing => absurd hfind (hmissing node)⟩
      intro found hfound
      obtain rfl := Except.ok.inj (hfind.symm.trans hfound)
      exact ⟨hdirectory, hgranted⟩
    · -- Nothing was there, and a file was made.
      have hmissing : host.find path = .error .notFound := by
        simp only [find, hplace, hnone]
      refine ⟨hslash, ⟨names, hlocate⟩,
        fun _ hfound => absurd (hmissing.symm.trans hfound) (by simp), ?_⟩
      intro other hother _
      obtain rfl := Except.ok.inj (hplace.symm.trans hother)
      exact hmaking
  · rintro ⟨hslash, ⟨names, hlocate⟩, hfound, hmissing⟩
    cases hnode : host.node? names with
    | none =>
      -- Where nothing is, a file is made.
      have hnone : ∀ node, host.find path ≠ .ok node := by simp [find, hlocate, hnode]
      exact ⟨_, _, openOrCreate_of_missing hlocate hnode (hmissing names hlocate hnone)⟩
    | some found =>
      -- What is there is opened.
      have hfind : host.find path = .ok found := by simp only [find, hlocate, hnode]
      exact ⟨_, _, openOrCreate_of_find hfind (hfound found hfind).1 (hfound found hfind).2⟩

theorem Keeps.opens (h : Keeps before after path) (hopens : before.Opens path) :
    after.Opens path := by
  obtain ⟨hslash, hplace, hfound, hmissing⟩ := hopens
  refine ⟨hslash, by simpa only [h.locate_iff] using hplace, ?_, ?_⟩
  · intro node hfind
    rw [h.refusal? node (h.find_iff.1 hfind)]
    exact hfound node (h.find_iff.1 hfind)
  · intro names hlocate hnone
    rw [h.rules]
    exact hmissing names (h.locate_iff.1 hlocate) fun node hfind => hnone node (h.find_iff.2 hfind)

theorem Keeps.opens_iff (h : Keeps before after path) :
    (∃ node made, after.openOrCreate path = .ok (node, made)) ↔
      ∃ node made, before.openOrCreate path = .ok (node, made) := by
  rw [Host.opens_iff, Host.opens_iff]
  exact ⟨h.symm.opens, h.opens⟩

end Backplane.Host
