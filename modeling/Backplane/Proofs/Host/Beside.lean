import Backplane.Disk.Image
import Backplane.Host.Changes
import Backplane.Proofs.Host.Opening

/-!
# Two hosts that differ in one file

Two hosts can be followed side by side when the first has one file in which the second takes no
part: it may be missing there, or hold other bytes.  `Beside file first second` says that this is
all the difference.  Every path that does not lead to the file leads to the same node on both hosts,
or to none on both, all other files hold the same bytes, and both hosts refuse the same of them.

Why a path leads nowhere may differ: one that would have to pass through the file is refused for
another reason where there is no file.  So faults are not compared, and it matters that whoever
opens an image shows only that it could not be opened (`openAt_beside`).
-/

namespace Backplane

namespace Host

/-- The hosts differ at most in one file, which the second may not have. -/
structure Beside (file : Nat) (first second : Host) : Prop where
  lt : file < first.files.size
  find : ∀ path, first.find path ≠ .ok (.regular file) →
    (second.find path).toOption = (first.find path).toOption
  size : ∀ index, index ≠ file →
    (index < second.files.size ↔ index < first.files.size)
  content : ∀ index, index ≠ file → second.content index = first.content index
  refusal? : ∀ node, node ≠ .regular file →
    ∀ access, second.refusal? node access = first.refusal? node access
  rules : second.rules = first.rules

variable {file : Nat} {first second after : Host} {path : Path}

/-! ## What both hosts show -/

namespace Beside

/-- A path that does not lead to the file is found on both hosts or on neither. -/
theorem find_cases (h : Beside file first second)
    (hpath : first.find path ≠ .ok (.regular file)) :
    (∃ node, first.find path = .ok node ∧ second.find path = .ok node ∧ node ≠ .regular file) ∨
      ∃ fault fault', first.find path = .error fault ∧ second.find path = .error fault' := by
  have hsame := h.find path hpath
  cases hfirst : first.find path with
  | error fault =>
    rw [hfirst] at hsame
    cases hsecond : second.find path with
    | error fault' => exact .inr ⟨fault, fault', rfl, rfl⟩
    | ok node => simp [hsecond, Except.toOption] at hsame
  | ok node =>
    rw [hfirst] at hsame
    refine .inl ⟨node, rfl, toOption_eq_some_iff.1 hsame, ?_⟩
    rintro rfl
    exact hpath hfirst

theorem content_of_node (h : Beside file first second) {index : Nat}
    (hnode : Node.regular index ≠ .regular file) :
    second.content index = first.content index :=
  h.content index fun heq => hnode (congrArg Node.regular heq)

theorem contents? (h : Beside file first second)
    (hpath : first.find path ≠ .ok (.regular file)) :
    second.contents? path = first.contents? path := by
  unfold Host.contents?
  rcases h.find_cases hpath with ⟨node, hfirst, hsecond, hnode⟩ | ⟨fault, fault', hfirst, hsecond⟩
  · rw [hfirst, hsecond]
    cases node with
    | regular index => simp only [h.content_of_node hnode]
    | _ => rfl
  · rw [hfirst, hsecond]

theorem readFile? (h : Beside file first second)
    (hpath : first.find path ≠ .ok (.regular file)) :
    second.readFile? path = first.readFile? path := by
  unfold Host.readFile?
  rcases h.find_cases hpath with ⟨node, hfirst, hsecond, hnode⟩ | ⟨fault, fault', hfirst, hsecond⟩
  · rw [hfirst, hsecond]
    cases node with
    | regular index =>
      exact congrArg some (readAll_of_refusal? (h.refusal? _ hnode) (h.content_of_node hnode))
    | _ => rfl
  · rw [hfirst, hsecond]

theorem length (h : Beside file first second) {node : Node} (hnode : node ≠ .regular file) :
    second.length node = first.length node := by
  cases node with
  | regular index => simp only [Host.length, h.content_of_node hnode]
  | directory => simp only [Host.length, h.rules]
  | full => rfl

theorem measure (h : Beside file first second) {node : Node} (hnode : node ≠ .regular file) :
    second.measure node = first.measure node := by
  simp only [Host.measure, h.refusal? node hnode, h.length hnode]

theorem read (h : Beside file first second) {node : Node} (hnode : node ≠ .regular file)
    (offset count : Nat) : second.read node offset count = first.read node offset count := by
  cases node with
  | regular index =>
    simp only [Host.read, readFault?, h.refusal? _ hnode, h.content_of_node hnode]
  | _ => rfl

theorem writeFault? (h : Beside file first second) {node : Node} (hnode : node ≠ .regular file)
    (offset count : Nat) :
    second.writeFault? node offset count = first.writeFault? node offset count := by
  cases node with
  | regular index => simp only [Host.writeFault?, h.refusal? _ hnode]
  | _ => rfl

/-! ## Changes that keep hosts side by side -/

/-- The first host may change the file. -/
theorem of_agree (h : Beside file first second)
    (hagree : Agree (fun index => index = file) first after) : Beside file after second := by
  refine ⟨hagree.size ▸ h.lt, ?_, ?_, ?_, ?_, h.rules.trans hagree.rules.symm⟩
  · intro path hpath
    rw [hagree.find] at hpath ⊢
    exact h.find path hpath
  · intro index hindex
    rw [hagree.size]
    exact h.size index hindex
  · intro index hindex
    rw [hagree.content index hindex]
    exact h.content index hindex
  · intro node hnode access
    rw [hagree.refusal?, h.refusal? node hnode]

theorem content_setContent (host : Host) (index other : Nat) (change : Content → Content) :
    (host.setContent index change).content other =
      if other = index ∧ index < host.files.size then change (host.content other)
      else host.content other := by
  by_cases heq : other = index
  · subst heq
    by_cases hlt : other < host.files.size
    · rw [if_pos ⟨rfl, hlt⟩, content_setContent_self _ hlt]
    · rw [if_neg fun both => hlt both.2]
      simp [setContent, Host.content, Nat.le_of_not_lt hlt]
  · rw [if_neg fun both => heq both.1, content_setContent_of_ne _ _ heq]

/-- The same bytes may be written to any other file on both hosts. -/
theorem writeInto (h : Beside file first second) {node : Node} (hnode : node ≠ .regular file)
    (offset : Nat) (bytes : List UInt8) :
    Beside file (first.writeInto node offset bytes) (second.writeInto node offset bytes) := by
  have hfirst := first.agree_writeInto node offset bytes
  have hsecond := second.agree_writeInto node offset bytes
  refine ⟨hfirst.size ▸ h.lt, ?_, ?_, ?_, ?_, ?_⟩
  · intro path hpath
    rw [hfirst.find] at hpath ⊢
    rw [hsecond.find]
    exact h.find path hpath
  · intro index hindex
    rw [hfirst.size, hsecond.size]
    exact h.size index hindex
  · intro index hindex
    cases node with
    | regular written =>
      have hwritten : written ≠ file := fun heq => hnode (congrArg Node.regular heq)
      simp only [Host.writeInto, content_setContent, h.content index hindex,
        h.size written hwritten]
    | _ => exact h.content index hindex
  · intro other hother access
    rw [hfirst.refusal?, hsecond.refusal?, h.refusal? other hother]
  · rw [hfirst.rules, hsecond.rules, h.rules]

end Beside

/-! ## The beginning -/

theorem beside_refl {host : Host} (hfile : file < host.files.size) :
    Beside file host host :=
  ⟨hfile, fun _ _ => rfl, fun _ _ => Iff.rfl, fun _ _ => rfl, fun _ _ _ => rfl, rfl⟩

/-- A host on which a file was made is beside the one without it. -/
theorem beside_addFile {host : Host} {names : List String} (h : host.node? names = none) :
    Beside host.files.size (host.addFile names).2 host := by
  have hsize := size_addFile host names
  refine ⟨by omega, ?_, ?_, ?_, ?_, rfl⟩
  · -- Only the paths to the place of the new file find anything else.
    intro path hpath
    have hmade := toOption_find_addFile h path
    have hplace : ¬ host.locate path = .ok names := by
      intro hlocate
      rw [if_pos hlocate] at hmade
      exact hpath (toOption_eq_some_iff.1 hmade)
    rw [hmade, if_neg hplace]
  · intro index hindex
    omega
  · -- All other files were there before, with the same bytes.
    intro index hindex
    by_cases hlt : index < host.files.size
    · exact (content_addFile names hlt).symm
    · have hmade : ¬ index < (host.addFile names).2.files.size := by omega
      simp [Host.content, hlt, hmade]
  · intro node hnode access
    cases node with
    | regular index =>
      have hindex : index ≠ host.files.size := fun heq => hnode (congrArg Node.regular heq)
      simp [addFile, Host.refusal?, Array.getElem?_push, hindex]
    | _ => rfl

end Host

/-! ## Images -/

namespace Disk.Image

variable {file : Nat} {first second : Host} {path : Path} {node : Node}

/-- An image that is not the file opens on both hosts at the same node, or on neither with the same
status. -/
theorem openAt_beside (h : Host.Beside file first second)
    (hpath : first.find path ≠ .ok (.regular file)) (direction : Direction) (offset : Nat) :
    (∃ node, openAt first path direction offset = .ok node ∧
        openAt second path direction offset = .ok node ∧ node ≠ .regular file) ∨
      ∃ fault fault', openAt first path direction offset = .error fault ∧
        openAt second path direction offset = .error fault' ∧ fault'.status = fault.status := by
  unfold openAt
  rcases h.find_cases hpath with ⟨node, hfirst, hsecond, hnode⟩ | ⟨fault, fault', hfirst, hsecond⟩
  · -- The same node is found, and what is refused of it is the same.
    have hopen : openFault? second node direction = openFault? first node direction := by
      simp only [openFault?, h.refusal? node hnode]
    have hseek : seekFault? second node offset = seekFault? first node offset := by
      simp only [seekFault?, h.measure hnode]
    rw [openFor_of_find hfirst, openFor_of_find hsecond, hopen]
    cases openFault? first node direction with
    | some fault => exact .inr ⟨_, _, rfl, rfl, rfl⟩
    | none =>
      simp only [hseek]
      cases seekFault? first node offset with
      | some fault => exact .inr ⟨fault, fault, rfl, rfl, rfl⟩
      | none => exact .inl ⟨node, rfl, rfl, hnode⟩
  · -- Nothing is found on either.
    rw [openFor_of_not_found hfirst, openFor_of_not_found hsecond]
    exact .inr ⟨_, _, rfl, rfl, rfl⟩

theorem readSector_beside (h : Host.Beside file first second) (hnode : node ≠ .regular file)
    (offset : Nat) : readSector second node offset = readSector first node offset := by
  simp only [readSector, h.read hnode]

/-- A sector can be written on both hosts or on neither, and they stay side by side. -/
theorem writeSector_beside (h : Host.Beside file first second) (hnode : node ≠ .regular file)
    (offset : Nat) (bytes : List UInt8) :
    (∃ after after', writeSector first node offset bytes = .ok after ∧
        writeSector second node offset bytes = .ok after' ∧ Host.Beside file after after' ∧
        after.content file = first.content file) ∨
      ∃ fault, writeSector first node offset bytes = .error fault ∧
        writeSector second node offset bytes = .error fault := by
  unfold writeSector Host.write
  rw [h.writeFault? hnode]
  cases first.writeFault? node offset bytes.length with
  | some fault => exact .inr ⟨_, rfl, rfl⟩
  | none =>
    have hcontent := (first.agree_writeInto node offset bytes).content file hnode
    exact .inl ⟨_, _, rfl, rfl, h.writeInto hnode offset bytes, hcontent⟩

end Disk.Image

end Backplane
