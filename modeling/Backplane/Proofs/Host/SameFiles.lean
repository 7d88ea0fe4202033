import Backplane.Disk.Image
import Backplane.Host.Changes
import Backplane.Proofs.Host.Opening
import Mathlib.Logic.Function.Basic

/-!
# Two hosts with the same files

Somebody who uses some paths only cannot tell two hosts apart on which those paths lead to the same
files.  The hosts need not be alike otherwise, and the files need not have the same numbers, since
a number is no more than the order in which files were made.  `SameFiles paths ρ first second` says
that the paths lead to the same files on both hosts, where `ρ` gives the number that a file of the
first host has on the second.  Reading, writing, opening and making a file keep it, when both hosts
do the same under one of the paths.

The first host may go on to change in any way that the paths do not show (`SameFiles.of_first`).

## Numbers of files

A file that is made on both hosts gets the next number on each, and `ρ` is extended by this pair
(`SameFiles.openOrCreate`).  So `ρ` is different after that, and relations between machines are
stated for some `ρ` and not for a fixed one.  It is injective on the files that the paths lead to:
two paths that lead to different files on one host do so on the other.
-/

namespace Backplane

/-- The same node with another number for its file. -/
def Node.renumber (ρ : Nat → Nat) : Node → Node
  | .directory => .directory
  | .regular index => .regular (ρ index)
  | .full => .full

namespace Host

/-- One of the paths leads to the file. -/
def Reaches (host : Host) (paths : Path → Prop) (file : Nat) : Prop :=
  ∃ path, paths path ∧ host.find path = .ok (.regular file)

/-- A node that is no file, or a file that one of the paths leads to. -/
def Knows (host : Host) (paths : Path → Prop) (node : Node) : Prop :=
  ∀ file, node = .regular file → host.Reaches paths file

/-- Some paths lead to the same files on both hosts. -/
structure SameFiles (paths : Path → Prop) (ρ : Nat → Nat) (first second : Host) : Prop where
  sound : first.Sound
  otherSound : second.Sound
  /-- All paths lead to the same places, whatever is there. -/
  locate : ∀ path, (second.locate path).toOption = (first.locate path).toOption
  find : ∀ path, paths path →
    (second.find path).toOption = (first.find path).toOption.map (Node.renumber ρ)
  content : ∀ file, first.Reaches paths file → second.content (ρ file) = first.content file
  refusal? : ∀ file, first.Reaches paths file → ∀ access,
    second.refusal? (.regular (ρ file)) access = first.refusal? (.regular file) access
  rules : second.rules = first.rules
  injective : ∀ file other, first.Reaches paths file → first.Reaches paths other →
    ρ file = ρ other → file = other

variable {paths : Path → Prop} {ρ : Nat → Nat} {first second after : Host} {path : Path}
  {node : Node} {file : Nat}

theorem sameFiles_refl {host : Host} (hsound : host.Sound) (paths : Path → Prop) :
    SameFiles paths id host host := by
  refine ⟨hsound, hsound, fun _ => rfl, ?_, fun _ _ => rfl, fun _ _ _ => rfl, rfl,
    fun _ _ _ _ h => h⟩
  intro path _
  have hid (node : Node) : node.renumber id = node := by cases node <;> rfl
  cases host.find path <;> simp [Except.toOption, hid]

theorem Reaches.of_find (h : first.Reaches paths file)
    (hfind : ∀ path, paths path → (after.find path).toOption = (first.find path).toOption) :
    after.Reaches paths file := by
  obtain ⟨path, hpath, hto⟩ := h
  refine ⟨path, hpath, toOption_eq_some_iff.1 ?_⟩
  rw [hfind path hpath, hto]
  rfl

/-- What can be reached stays so where nothing is removed. -/
theorem Reaches.kept (h : first.Reaches paths file)
    (hkept : ∀ path node, first.find path = .ok node → after.find path = .ok node) :
    after.Reaches paths file := by
  obtain ⟨path, hpath, hfind⟩ := h
  exact ⟨path, hpath, hkept path _ hfind⟩

theorem Reaches.agree {touched : Nat → Prop} (h : first.Reaches paths file)
    (hagree : Agree touched first after) : after.Reaches paths file :=
  h.kept fun path _ hfind => (hagree.find path).trans hfind

namespace SameFiles

/-! ## What both hosts show -/

/-- One of the paths is found on both hosts or on neither. -/
theorem find_cases (h : SameFiles paths ρ first second) (hpath : paths path) :
    (∃ node, first.find path = .ok node ∧ second.find path = .ok (node.renumber ρ) ∧
        first.Knows paths node) ∨
      ∃ fault fault', first.find path = .error fault ∧ second.find path = .error fault' := by
  have hsame := h.find path hpath
  cases hfirst : first.find path with
  | error fault =>
    rw [hfirst] at hsame
    cases hsecond : second.find path with
    | error fault' => exact .inr ⟨fault, fault', rfl, rfl⟩
    | ok node => simp [hsecond, Except.toOption] at hsame
  | ok node =>
    rw [hfirst] at hsame
    refine .inl ⟨node, rfl, toOption_eq_some_iff.1 hsame, ?_⟩
    rintro file rfl
    exact ⟨path, hpath, hfirst⟩

theorem lt (h : SameFiles paths ρ first second) (hfile : first.Reaches paths file) :
    file < first.files.size ∧ ρ file < second.files.size := by
  obtain ⟨path, hpath, hfind⟩ := hfile
  rcases h.find_cases hpath with ⟨node, hfirst, hsecond, -⟩ | ⟨fault, -, hfirst, -⟩
  · obtain rfl := Except.ok.inj (hfind.symm.trans hfirst)
    exact ⟨h.sound.lt_of_find hfirst, h.otherSound.lt_of_find hsecond⟩
  · exact absurd (hfind.symm.trans hfirst) (by simp)

theorem contents? (h : SameFiles paths ρ first second) (hpath : paths path) :
    second.contents? path = first.contents? path := by
  unfold Host.contents?
  rcases h.find_cases hpath with ⟨node, hfirst, hsecond, hknown⟩ | ⟨_, _, hfirst, hsecond⟩
  · rw [hfirst, hsecond]
    cases node with
    | regular index => simp only [Node.renumber, h.content index (hknown index rfl)]
    | _ => rfl
  · rw [hfirst, hsecond]

theorem length (h : SameFiles paths ρ first second) (hnode : first.Knows paths node) :
    second.length (node.renumber ρ) = first.length node := by
  cases node with
  | regular index => simp only [Node.renumber, Host.length, h.content index (hnode index rfl)]
  | directory => simp only [Node.renumber, Host.length, h.rules]
  | full => rfl

theorem refused (h : SameFiles paths ρ first second) (hnode : first.Knows paths node)
    (access : FileAccess) :
    second.refusal? (node.renumber ρ) access = first.refusal? node access := by
  cases node with
  | regular index => exact h.refusal? index (hnode index rfl) access
  | _ => rfl

theorem measure (h : SameFiles paths ρ first second) (hnode : first.Knows paths node) :
    second.measure (node.renumber ρ) = first.measure node := by
  simp only [Host.measure, h.refused hnode, h.length hnode]

theorem readByte (h : SameFiles paths ρ first second) (hnode : first.Knows paths node)
    (offset : Nat) : second.readByte (node.renumber ρ) offset = first.readByte node offset := by
  cases node with
  | regular index =>
    have hreached := hnode index rfl
    simp only [Node.renumber, Host.readByte, readFault?, h.refusal? index hreached,
      h.content index hreached]
  | _ => rfl

theorem read (h : SameFiles paths ρ first second) (hnode : first.Knows paths node)
    (offset count : Nat) :
    second.read (node.renumber ρ) offset count = first.read node offset count := by
  cases node with
  | regular index =>
    have hreached := hnode index rfl
    simp only [Node.renumber, Host.read, readFault?, h.refusal? index hreached,
      h.content index hreached]
  | _ => rfl

theorem writeFault? (h : SameFiles paths ρ first second) (hnode : first.Knows paths node)
    (offset count : Nat) :
    second.writeFault? (node.renumber ρ) offset count = first.writeFault? node offset count := by
  cases node with
  | regular index =>
    simp only [Node.renumber, Host.writeFault?, h.refusal? index (hnode index rfl)]
  | _ => rfl

/-- The file of one of the paths is read as a whole on both hosts or on neither. -/
theorem readFile? (h : SameFiles paths ρ first second) (hpath : paths path) :
    second.readFile? path = first.readFile? path := by
  unfold Host.readFile?
  rcases h.find_cases hpath with ⟨node, hfirst, hsecond, hknown⟩ | ⟨_, _, hfirst, hsecond⟩
  · rw [hfirst, hsecond]
    cases node with
    | regular index =>
      have hreached := hknown index rfl
      exact congrArg some
        (readAll_of_refusal? (h.refusal? index hreached) (h.content index hreached))
    | _ => rfl
  · rw [hfirst, hsecond]

/-! ## Changes of the first host alone -/

/-- The first host may change where the paths do not lead. -/
theorem of_first (h : SameFiles paths ρ first second) (hsound : after.Sound)
    (hlocate : ∀ path, (after.locate path).toOption = (first.locate path).toOption)
    (hfind : ∀ path, paths path → (after.find path).toOption = (first.find path).toOption)
    (hcontent : ∀ file, first.Reaches paths file → after.content file = first.content file)
    (hrefusal : ∀ file, first.Reaches paths file → ∀ access,
      after.refusal? (.regular file) access = first.refusal? (.regular file) access)
    (hrules : after.rules = first.rules) :
    SameFiles paths ρ after second := by
  have hreaches {file : Nat} (hfile : after.Reaches paths file) : first.Reaches paths file :=
    hfile.of_find fun path hpath => (hfind path hpath).symm
  refine ⟨hsound, h.otherSound, ?_, ?_, ?_, ?_, h.rules.trans hrules.symm, ?_⟩
  · intro path
    rw [hlocate, h.locate]
  · intro path hpath
    rw [hfind path hpath, h.find path hpath]
  · intro file hfile
    rw [hcontent file (hreaches hfile), h.content file (hreaches hfile)]
  · intro file hfile access
    rw [hrefusal file (hreaches hfile), h.refusal? file (hreaches hfile)]
  · intro file other hfile hother
    exact h.injective file other (hreaches hfile) (hreaches hother)

/-! ## The same changes of both -/

/-- The content of a file may change alike. -/
theorem setContent (h : SameFiles paths ρ first second) (hfile : first.Reaches paths file)
    (change : Content → Content) :
    SameFiles paths ρ (first.setContent file change) (second.setContent (ρ file) change) := by
  have hfirst := first.agree_setContent file change
  have hsecond := second.agree_setContent (ρ file) change
  have hreaches {other : Nat} (hother : (first.setContent file change).Reaches paths other) :
      first.Reaches paths other :=
    hother.of_find fun path _ => by rw [hfirst.find]
  refine ⟨hfirst.sound h.sound, hsecond.sound h.otherSound, ?_, ?_, ?_, ?_, ?_, ?_⟩
  · intro path
    rw [hfirst.locate, hsecond.locate, h.locate]
  · intro path hpath
    rw [hfirst.find, hsecond.find, h.find path hpath]
  · intro other hother
    by_cases heq : other = file
    · subst heq
      rw [content_setContent_self _ (h.lt hfile).1, content_setContent_self _ (h.lt hfile).2,
        h.content other hfile]
    · have hne : ρ other ≠ ρ file := fun hsame =>
        heq (h.injective other file (hreaches hother) hfile hsame)
      rw [content_setContent_of_ne _ _ heq, content_setContent_of_ne _ _ hne,
        h.content other (hreaches hother)]
  · intro other hother access
    rw [hfirst.refusal?, hsecond.refusal?, h.refusal? other (hreaches hother)]
  · rw [hfirst.rules, hsecond.rules, h.rules]
  · intro other another hother hanother
    exact h.injective other another (hreaches hother) (hreaches hanother)

theorem writeInto (h : SameFiles paths ρ first second) (hnode : first.Knows paths node)
    (offset : Nat) (bytes : List UInt8) :
    SameFiles paths ρ (first.writeInto node offset bytes)
      (second.writeInto (node.renumber ρ) offset bytes) := by
  cases node with
  | regular index => exact h.setContent (hnode index rfl) (·.splice offset bytes)
  | _ => exact h

/-- A file may be cut or grown alike. -/
theorem setLength (h : SameFiles paths ρ first second) (hnode : first.Knows paths node)
    {length : Nat} (hset : first.setLength node length = .ok after) :
    ∃ after', second.setLength (node.renumber ρ) length = .ok after' ∧
      SameFiles paths ρ after after' := by
  obtain ⟨hmax, index, rfl, hallowed, rfl⟩ := Host.setLength_eq_ok_iff.1 hset
  have hallowed' := (h.refused hnode (.setLength length)).trans hallowed
  exact ⟨_, Host.setLength_eq_ok_iff.2 ⟨hmax, ρ index, rfl, hallowed', rfl⟩,
    h.setContent (hnode index rfl) (·.resize length)⟩

/-- A file may be made at the same place, where the paths lead to it on both hosts. -/
theorem addFile (h : SameFiles paths ρ first second) {names : List String}
    (hfirst : first.node? names = none) (hsecond : second.node? names = none) :
    SameFiles paths (Function.update ρ first.files.size second.files.size)
      (first.addFile names).2 (second.addFile names).2 := by
  have hold {file : Nat} (hlt : file < first.files.size) :
      Function.update ρ first.files.size second.files.size file = ρ file :=
    Function.update_of_ne (Nat.ne_of_lt hlt) _ _
  have hnew : Function.update ρ first.files.size second.files.size first.files.size =
      second.files.size := Function.update_self _ _ _
  -- A file that is reached afterwards is the new one, or one that was reached before.
  have hcases {file : Nat} (hfile : (first.addFile names).2.Reaches paths file) :
      file = first.files.size ∨ first.Reaches paths file := by
    obtain ⟨path, hpath, hfind⟩ := hfile
    have hmade := toOption_find_addFile hfirst path
    rw [hfind] at hmade
    split at hmade
    · exact .inl (Node.regular.inj (Option.some.inj hmade))
    · exact .inr ⟨path, hpath, toOption_eq_some_iff.1 hmade.symm⟩
  refine ⟨sound_addFile h.sound names, sound_addFile h.otherSound names, ?_, ?_, ?_, ?_, h.rules,
    ?_⟩
  · -- Paths are followed as far as before.
    intro path
    rw [toOption_locate_addFile hfirst, toOption_locate_addFile hsecond, h.locate]
  · -- What they find is the new file in the place where it was made, and else what it was.
    intro path hpath
    have hplace : second.locate path = .ok names ↔ first.locate path = .ok names := by
      rw [← toOption_eq_some_iff, ← toOption_eq_some_iff, h.locate]
    rw [toOption_find_addFile hfirst, toOption_find_addFile hsecond, h.find path hpath]
    by_cases hnames : first.locate path = .ok names
    · rw [if_pos hnames, if_pos (hplace.2 hnames), Option.map_some, Node.renumber, hnew]
    · rw [if_neg hnames, if_neg (mt hplace.1 hnames)]
      cases hfound : first.find path with
      | error fault => rfl
      | ok node =>
        cases node with
        | regular index =>
          have hindex := hold (h.sound.lt_of_find hfound)
          simp only [Except.toOption, Option.map_some, Node.renumber, hindex]
        | _ => rfl
  · -- The new files are both empty, and the others keep their bytes.
    intro file hfile
    rcases hcases hfile with rfl | hfile
    · rw [hnew, content_addFile_self, content_addFile_self]
    · obtain ⟨hlt, hotherLt⟩ := h.lt hfile
      rw [hold hlt, content_addFile _ hlt, content_addFile _ hotherLt, h.content file hfile]
  · -- So it is with what is refused.
    intro file hfile access
    rcases hcases hfile with rfl | hfile
    · rw [hnew, refusal?_addFile_self, refusal?_addFile_self, h.rules]
    · obtain ⟨hlt, hotherLt⟩ := h.lt hfile
      have hbelow : ∀ index, Node.regular file = .regular index → index < first.files.size := by
        rintro index ⟨⟩
        exact hlt
      have hotherBelow : ∀ index, Node.regular (ρ file) = .regular index →
          index < second.files.size := by
        rintro index ⟨⟩
        exact hotherLt
      rw [hold hlt, refusal?_addFile _ hbelow, refusal?_addFile _ hotherBelow,
        h.refusal? file hfile]
  · -- The number of the new file on the second host is none that was there.
    intro file other hfile hother hsame
    rcases hcases hfile with rfl | hfile <;> rcases hcases hother with rfl | hother
    · rfl
    · rw [hnew, hold (h.lt hother).1] at hsame
      exact absurd hsame.symm (Nat.ne_of_lt (h.lt hother).2)
    · rw [hnew, hold (h.lt hfile).1] at hsame
      exact absurd hsame (Nat.ne_of_lt (h.lt hfile).2)
    · rw [hold (h.lt hfile).1, hold (h.lt hother).1] at hsame
      exact h.injective file other hfile hother hsame

/-- A file that can be opened under one of the paths can be opened on the other host. -/
theorem openOrCreate (h : SameFiles paths ρ first second) (hpath : paths path)
    (hopen : first.openOrCreate path = .ok (node, after)) :
    ∃ ρ' after', second.openOrCreate path = .ok (node.renumber ρ', after') ∧
      SameFiles paths ρ' after after' ∧ after.Knows paths node := by
  have hknown : after.Knows paths node := by
    rintro file rfl
    exact ⟨path, hpath, find_openOrCreate hopen⟩
  rcases granted_of_openOrCreate hopen with
    ⟨rfl, hfind, hdirectory, hgranted⟩ | ⟨names, hlocate, hnone, hmaking, rfl, rfl⟩
  · -- What is there is on the other host too, and is refused there if it is refused here.
    have hother : second.find path = .ok (node.renumber ρ) := by
      rw [← toOption_eq_some_iff, h.find path hpath, hfind]
      rfl
    have hnode : node.renumber ρ ≠ .directory := by
      cases node <;> simp_all [Node.renumber]
    exact ⟨ρ, second, openOrCreate_of_find hother hnode ((h.refused hknown _).trans hgranted), h,
      hknown⟩
  · -- Where nothing is, both hosts make their next file.
    have hother : second.locate path = .ok names := by
      rw [← toOption_eq_some_iff, h.locate, hlocate]
      rfl
    have hmissing : second.node? names = none := by
      have hsame := h.find path hpath
      rw [toOption_find, toOption_find, hlocate, hother] at hsame
      simpa [Except.toOption, hnone] using hsame
    have hmade := openOrCreate_of_missing hother hmissing (h.rules ▸ hmaking)
    refine ⟨_, _, ?_, h.addFile hnone hmissing, hknown⟩
    rw [hmade, Host.addFile, Node.renumber, Function.update_self]

end SameFiles

end Host

/-! ## Images -/

namespace Disk.Image

variable {paths : Path → Prop} {ρ : Nat → Nat} {first second after : Host} {path : Path}
  {node : Node}

/-- An image under one of the paths opens on both hosts, or on neither with the same status. -/
theorem openAt_sameFiles (h : Host.SameFiles paths ρ first second) (hpath : paths path)
    (direction : Direction) (offset : Nat) :
    (∃ node, openAt first path direction offset = .ok node ∧
        openAt second path direction offset = .ok (node.renumber ρ) ∧
        first.Knows paths node) ∨
      ∃ fault fault', openAt first path direction offset = .error fault ∧
        openAt second path direction offset = .error fault' ∧ fault'.status = fault.status := by
  unfold openAt
  rcases h.find_cases hpath with
    ⟨node, hfirst, hsecond, hknown⟩ | ⟨fault, fault', hfirst, hsecond⟩
  · -- Something is found on both hosts, and each check says the same of it.
    have hopen : openFault? second (node.renumber ρ) direction =
        openFault? first node direction := by
      have hdirectory : node.renumber ρ = .directory ↔ node = .directory := by
        cases node <;> simp [Node.renumber]
      simp only [openFault?, hdirectory, h.refused hknown]
    have hseek : seekFault? second (node.renumber ρ) offset = seekFault? first node offset := by
      simp only [seekFault?, h.measure hknown]
    rw [openFor_of_find hfirst, openFor_of_find hsecond, hopen]
    cases openFault? first node direction with
    | some fault => exact .inr ⟨_, _, rfl, rfl, rfl⟩
    | none =>
      simp only [hseek]
      cases seekFault? first node offset with
      | some fault => exact .inr ⟨fault, fault, rfl, rfl, rfl⟩
      | none => exact .inl ⟨node, rfl, rfl, hknown⟩
  · -- Nothing is found, perhaps for different reasons, which have one status.
    rw [openFor_of_not_found hfirst, openFor_of_not_found hsecond]
    exact .inr ⟨_, _, rfl, rfl, rfl⟩

theorem readSector_sameFiles (h : Host.SameFiles paths ρ first second)
    (hnode : first.Knows paths node) (offset : Nat) :
    readSector second (node.renumber ρ) offset = readSector first node offset := by
  simp only [readSector, h.read hnode]

/-- A sector can be written on both hosts or on neither, and they keep the same files. -/
theorem writeSector_sameFiles (h : Host.SameFiles paths ρ first second)
    (hnode : first.Knows paths node) (offset : Nat) (bytes : List UInt8) :
    (∃ after after', writeSector first node offset bytes = .ok after ∧
        writeSector second (node.renumber ρ) offset bytes = .ok after' ∧
        Host.SameFiles paths ρ after after') ∨
      ∃ fault, writeSector first node offset bytes = .error fault ∧
        writeSector second (node.renumber ρ) offset bytes = .error fault := by
  unfold writeSector Host.write
  rw [h.writeFault? hnode]
  cases first.writeFault? node offset bytes.length with
  | some fault => exact .inr ⟨_, rfl, rfl⟩
  | none => exact .inl ⟨_, _, rfl, rfl, h.writeInto hnode offset bytes⟩

end Disk.Image

end Backplane
