import Backplane.Proofs.Disk.SectorArray
import Backplane.Proofs.Machine.Storage

/-!
# Machines that are refused

A machine is refused if its working storage cannot be opened, or if its storage does not fit into
the address space.  The image of working storage is opened before the sizes are compared, and a
refusal takes nothing back.  So the image can have been made or made longer for a machine that
never was (`image_made_when_refused`).

That is all.  `LeftBehind` goes through what a refused machine can have done to the host: it left
every other file alone, it changed nothing at all unless its image was enlarged, and then the image
has kept its bytes.

## Opening an image

Opening enlarges an image in two cases (`Enlarges`).  Either there is none, and one can be made in
its place (`IsVacant`), or there is one that is shorter than the store and can be made as long
(`Lengthens`).  Each of the two asks something of the host, which may refuse to make a file, to open
it, to measure it or to make it longer, and may have limits of its own on how long a file can be.
None of this is assumed.  `ended` lists for every host how opening can end, by what becomes of the
host, and the cases exclude each other (`Ended.eq_iff`).

In one of the cases a store is refused and the host is changed nonetheless.  An image is made first
and gets its length afterwards, so a file that may be made but not be as long as the store is left
behind empty.  `leftBehind_limited` is about a host with such a limit.

## Panics

A panic is no refusal.  Sizes for which no array can be made stop the program without an answer, and
nothing is said about them here: the results are about builds that end in `.refused`.
-/

namespace Backplane

/-- A path leads to a place where nothing is and where a file can be made. -/
def Host.IsVacant (host : Host) (path : Path) : Prop :=
  ∃ names, host.locate path = .ok names ∧ host.node? names = none ∧
    host.rules.makingRefusal? names = none

theorem Host.IsVacant.contents? {host : Host} {path : Path} (h : host.IsVacant path) :
    host.contents? path = none := by
  obtain ⟨names, hlocate, hnone, -⟩ := h
  simp only [Host.contents?, find, hlocate, hnone]

/-- A file that has just been made can be measured, and made as long as a size. -/
structure Rules.CanHold (rules : Rules) (size : Nat) : Prop where
  measured : rules.newRefusal? .measure = none
  grows : 0 < size → size ≤ Host.offsetLimit ∧ rules.newRefusal? (.setLength size) = none

namespace Store

variable {host made after : Host} {path : Path} {size file : Nat} {names : List String}

/-! ## Opening an image -/

/-- What a host lets be done with the files that are made on it is what it lets be done with any
one of them. -/
theorem canHold_addFile_iff :
    CanHold (host.addFile names).2 (.regular host.files.size) size ↔ host.rules.CanHold size := by
  have hlength : (host.addFile names).2.length (.regular host.files.size) = 0 := by
    rw [Host.length, Host.content_addFile_self]
    rfl
  constructor
  · rintro ⟨hmeasured, hgrows⟩
    rw [Host.refusal?_addFile_self] at hmeasured
    refine ⟨hmeasured, ?_⟩
    intro hpos
    have hgrown := setLength_regular_iff.1 (hgrows (hlength ▸ hpos))
    rwa [Host.refusal?_addFile_self] at hgrown
  · rintro ⟨hmeasured, hgrows⟩
    refine ⟨(Host.refusal?_addFile_self host names .measure).trans hmeasured, ?_⟩
    rw [hlength, setLength_regular_iff, Host.refusal?_addFile_self]
    exact hgrows

/-- A path leads to a regular file that is shorter than a size and can be opened and made as
long. -/
structure LengthensFile (host : Host) (path : Path) (size file : Nat) : Prop where
  find : host.find path = .ok (.regular file)
  granted : host.refusal? (.regular file) .openForWriting = none
  shorter : (host.content file).length < size
  canHold : CanHold host (.regular file) size

/-- A store of some size makes the file of a path longer. -/
def Lengthens (host : Host) (path : Path) (size : Nat) : Prop :=
  ∃ file, LengthensFile host path size file

/-- A store of some size makes the file of a path, or makes it longer. -/
def Enlarges (host : Host) (path : Path) (size : Nat) : Prop :=
  host.IsVacant path ∨ Lengthens host path size

/-- A content has the bytes of another, with zeros behind them up to a length. -/
structure Padded (initial : Content) (length : Nat) (content : Content) : Prop where
  length_eq : content.length = length
  get? : ∀ offset < length, content.get? offset = some ((initial.get? offset).getD 0)

/-- The ways in which opening a store can end, by what becomes of the host. -/
inductive Ended (host : Host) (path : Path) (size : Nat) : Except Fault Store × Host → Prop
  /-- There was nothing to enlarge, whether the store is there or not. -/
  | same (result : Except Fault Store) (settled : ¬ Enlarges host path size) :
    Ended host path size (result, host)
  /-- A file was made, but none that is made can have the size. -/
  | empty {after : Host} (fault : Fault) (vacant : host.IsVacant path)
    (limited : ¬ host.rules.CanHold size) (contents : after.contents? path = some .empty) :
    Ended host path size (.error fault, after)
  /-- The store is there, and its file has just the size. -/
  | enlarged {after : Host} {content : Content} (store : Store)
    (enlarges : Enlarges host path size) (contents : after.contents? path = some content)
    (padded : Padded (initialContent host path) size content) :
    Ended host path size (.ok store, after)

/-- A store whose file was opened, is no longer than the store and can hold it makes the file as
long as it is itself. -/
theorem ended_of_canHold (hsound : host.Sound) (henlarges : Enlarges host path size)
    (hopen : host.openOrCreate path = .ok (.regular file, made))
    (hle : (initialContent host path).length ≤ size) (hholds : CanHold made (.regular file) size) :
    Ended host path size (openPersistent host path size).value := by
  obtain ⟨hlt, hcontent⟩ := content_of_openOrCreate hsound hopen
  obtain ⟨after, hvalue, hgrown⟩ := openPersistent_of_canHold hopen hholds
  have hfind : after.find path = .ok (.regular file) := by
    rw [hgrown.agree.find, Host.find_openOrCreate hopen]
  have hlength := hgrown.length file hlt rfl
  rw [hcontent, Nat.max_eq_right hle] at hlength
  rw [hvalue]
  refine .enlarged _ henlarges (by simp only [Host.contents?, hfind]) ⟨hlength, ?_⟩
  intro offset hoffset
  rw [Content.get?, if_pos (by omega), hgrown.byte file hlt, hcontent,
    Content.byte_eq_getD_get?]

/-- Where a file is made, it is as long as the store or, if it cannot be, empty. -/
theorem ended_of_isVacant (hsound : host.Sound) (h : host.IsVacant path) :
    Ended host path size (openPersistent host path size).value := by
  have hnothing : initialContent host path = .empty := by
    rw [initialContent, h.contents?]
    rfl
  obtain ⟨names, hlocate, hnone, hmaking⟩ := id h
  have hopen : host.openOrCreate path =
      .ok (.regular host.files.size, (host.addFile names).2) :=
    Host.openOrCreate_of_missing hlocate hnone hmaking
  by_cases hholds : host.rules.CanHold size
  · exact ended_of_canHold hsound (.inl h) hopen (by simp [hnothing, Content.empty])
      (canHold_addFile_iff.2 hholds)
  · obtain ⟨fault, hvalue⟩ :=
      openPersistent_of_not_canHold hopen fun hmade => hholds (canHold_addFile_iff.1 hmade)
    have hfind := Host.find_openOrCreate hopen
    rw [hvalue]
    refine .empty _ h hholds ?_
    simp only [Host.contents?, hfind, Host.content_addFile_self]

/-- A file that can be lengthened is lengthened. -/
theorem ended_of_lengthens (hsound : host.Sound) (h : LengthensFile host path size file) :
    Ended host path size (openPersistent host path size).value := by
  have hopen := Host.openOrCreate_of_find h.find (by simp) h.granted
  have hle : (initialContent host path).length ≤ size := by
    have hlt := h.shorter
    simp only [initialContent, Host.contents?, h.find, Option.getD_some]
    omega
  exact ended_of_canHold hsound (.inr ⟨file, h⟩) hopen hle h.canHold

/-- A store whose file is long enough leaves the file as it is. -/
theorem openPersistent_of_le_length {node : Node}
    (hopen : host.openOrCreate path = .ok (node, made))
    (hmeasured : made.refusal? node .measure = none) (hle : size ≤ made.length node) :
    (openPersistent host path size).value = (.ok (.persistent node path size), made) := by
  simp only [openPersistent, hopen, Host.measure, hmeasured, if_neg (Nat.not_lt.2 hle)]
  rfl

/-- Where there is nothing to enlarge, opening changes nothing. -/
theorem host_openPersistent_of_not_enlarges (h : ¬ Enlarges host path size) :
    (openPersistent host path size).value.2 = host := by
  cases hopen : host.openOrCreate path with
  | error fault => simp only [openPersistent, hopen, Logged.value_pure]
  | ok opened =>
    obtain ⟨node, made⟩ := opened
    rcases Host.granted_of_openOrCreate hopen with
      ⟨rfl, hfind, -, hgranted⟩ | ⟨names, hlocate, hnone, hmaking, -, -⟩
    -- Something was there.
    · by_cases hholds : CanHold made node size
      · by_cases hlt : made.length node < size
        · -- Only a regular file takes a new length, and this one would have been lengthened.
          obtain ⟨after, hgrow⟩ := hholds.grows hlt
          obtain ⟨-, file, rfl, -⟩ := Host.setLength_eq_ok_iff.1 hgrow
          exact absurd (.inr ⟨file, hfind, hgranted, hlt, hholds⟩) h
        · rw [openPersistent_of_le_length hopen hholds.measured (Nat.le_of_not_lt hlt)]
      · obtain ⟨fault, hvalue⟩ := openPersistent_of_not_canHold hopen hholds
        rw [hvalue]
    -- A file was made.
    · exact absurd (.inl ⟨names, hlocate, hnone, hmaking⟩) h

theorem ended (hsound : host.Sound) (path : Path) (size : Nat) :
    Ended host path size (openPersistent host path size).value := by
  by_cases h : Enlarges host path size
  · rcases h with hvacant | ⟨file, hlengthens⟩
    · exact ended_of_isVacant hsound hvacant
    · exact ended_of_lengthens hsound hlengthens
  · have hsame : (openPersistent host path size).value =
        ((openPersistent host path size).value.1, host) :=
      Prod.ext rfl (host_openPersistent_of_not_enlarges h)
    rw [hsame]
    exact .same _ h

/-- Enlarging an image shows. -/
theorem Enlarges.contents?_ne (h : Enlarges host path size) {content : Content}
    (hpadded : Padded (initialContent host path) size content) :
    host.contents? path ≠ some content := by
  rcases h with hvacant | ⟨file, hlengthens⟩
  · simp [hvacant.contents?]
  · intro hsame
    have hlength := hpadded.length_eq
    have hshorter := hlengthens.shorter
    simp only [Host.contents?, hlengthens.find] at hsame
    obtain rfl := Option.some.inj hsame
    omega

/-- Opening changes nothing exactly if there is nothing to enlarge. -/
theorem Ended.eq_iff {ended : Except Fault Store × Host} (h : Ended host path size ended) :
    ended.2 = host ↔ ¬ Enlarges host path size := by
  cases h with
  | same result settled => exact iff_of_true rfl settled
  | empty fault vacant limited contents =>
    refine iff_of_false ?_ (fun hnot => hnot (.inl vacant))
    rintro rfl
    exact absurd contents (by simp [vacant.contents?])
  | enlarged store enlarges contents padded =>
    refine iff_of_false ?_ (fun hnot => hnot enlarges)
    rintro rfl
    exact enlarges.contents?_ne padded contents

end Store

namespace Machine

variable {config : Config} {host after : Host} {refusal : MachineError}

/-! ## Refusals -/

/-- A machine is refused because working storage could not be opened, or else because the storage
does not fit. -/
theorem refusal_of_build {line : Console.Line}
    (h : (build config line host).value = (.error (.refused refusal), after)) :
    (∃ fault, (openWorking config host).value = (.error (.refused (.io fault)), after) ∧
        refusal = .io fault) ∨
      ∃ working, (openWorking config host).value = (.ok working, after) ∧
        storageLimit config.reservedPage < config.programSize + config.workingSize ∧
        refusal = .invalidLayout (Memory.overflowReason (config.programSize + config.workingSize)
          (storageLimit config.reservedPage)) := by
  rw [value_build] at h
  cases hprogram : Store.allocate config.programSize with
  | error panic => simp [hprogram] at h
  | ok program =>
    obtain ⟨-, rfl⟩ := Store.allocate_eq_ok_iff.1 hprogram
    rcases hopened : (openWorking config host).value with ⟨failure | working, opened⟩
    -- Working storage could not be opened.
    · simp only [hprogram, hopened, Prod.mk.injEq, Except.error.injEq] at h
      obtain ⟨rfl, rfl⟩ := h
      rcases io_or_panicked_of_not_openWorking hopened with ⟨fault, hfault⟩ | ⟨_, hpanic, -⟩
      · obtain rfl := BuildFailure.refused.inj hfault
        exact .inl ⟨fault, rfl, rfl⟩
      · exact absurd hpanic (by simp)
    -- It could, and the sizes were compared.
    · have hsize := size_of_openWorking hopened
      simp only [hprogram, hopened] at h
      cases hlayout : Memory.layOut (.zeroed config.programSize) working config.reservedPage with
      | ok memory => simp [hlayout] at h
      | error failure =>
        simp only [hlayout, Prod.mk.injEq, Except.error.injEq] at h
        obtain ⟨rfl, rfl⟩ := h
        obtain ⟨hexceeds, hreason⟩ := Memory.exceeds_of_layOut hlayout
        rw [Store.size_zeroed, hsize] at hexceeds hreason
        exact .inr ⟨working, rfl, hexceeds, hreason⟩

/-- A refused machine leaves the host as opening its working storage left it. -/
theorem host_of_refused {line : Console.Line}
    (h : (build config line host).value = (.error (.refused refusal), after)) :
    (openWorking config host).value.2 = after := by
  rcases refusal_of_build h with ⟨fault, hopened, -⟩ | ⟨working, hopened, -, -⟩
  all_goals rw [hopened]

/-- Opening the image of a refused machine has ended in one of the known ways. -/
theorem exists_ended_of_refused (hsound : host.Sound) {line : Console.Line} {image : Path}
    (h : (build config line host).value = (.error (.refused refusal), after))
    (hpath : config.persistentPath = some image) :
    ∃ result, (Store.openPersistent host image config.workingSize).value = (result, after) ∧
      Store.Ended host image config.workingSize (result, after) := by
  have hafter := host_of_refused h
  rw [value_openWorking_of_path hpath] at hafter
  have hended := Store.ended hsound image config.workingSize
  rcases hopened : (Store.openPersistent host image config.workingSize).value with ⟨result, opened⟩
  rw [hopened] at hafter hended
  obtain rfl : opened = after := hafter
  exact ⟨result, rfl, hended⟩

/-- Opening working storage keeps every path that does not lead to its image. -/
theorem keeps_openWorking (hsound : host.Sound) {other : Path}
    (hother : ∀ image, config.persistentPath = some image → ¬ host.SameFile image other) :
    Host.Keeps host (openWorking config host).value.2 other := by
  unfold openWorking
  cases hpath : config.persistentPath with
  | none => exact .refl _ _
  | some image => exact Store.keeps_openPersistent hsound (hother image hpath) _

/-! ## What is left behind -/

/-- What a refused machine has done to the host. -/
structure LeftBehind (config : Config) (host : Host) (refusal : MachineError) (after : Host) :
    Prop where
  /-- There are two reasons for a refusal. -/
  cause : (∃ fault, refusal = .io fault) ∨ ∃ reason, refusal = .invalidLayout reason
  /-- Every path is as it was that does not lead to the image of working storage. -/
  others : ∀ other,
    (∀ image, config.persistentPath = some image → ¬ host.SameFile image other) →
      Host.Keeps host after other
  /-- So is every file but the image, whether there is a path to it or not. -/
  files : ∀ file < host.files.size,
    (∀ image, config.persistentPath = some image → host.find image ≠ .ok (.regular file)) →
      after.content file = host.content file
  /-- Nothing at all is changed unless there is an image to be enlarged. -/
  unchanged_iff : after = host ↔
    ∀ image, config.persistentPath = some image →
      ¬ Store.Enlarges host image config.workingSize
  /-- If the image could not be opened, then the most that is left is an empty one, and only if it
  was missing and no file that is made can have the size. -/
  io : ∀ fault, refusal = .io fault → after = host ∨
    ∃ image, config.persistentPath = some image ∧ host.IsVacant image ∧
      ¬ host.rules.CanHold config.workingSize ∧ after.contents? image = some .empty
  /-- If the storage does not fit, then the image is as a machine would have used it. -/
  layout : ∀ reason, refusal = .invalidLayout reason →
    ∀ image, config.persistentPath = some image →
      Store.Enlarges host image config.workingSize → ∃ content,
        after.contents? image = some content ∧
          Store.Padded (Store.initialContent host image) config.workingSize content

/-- A machine that is refused has changed the host at most by opening the image of its working
storage: where there was none, or a shorter one, the image is there with its bytes and zeros behind
them, or else it is there without any if it could not be as long, and no other file was touched. -/
theorem leftBehind (hsound : host.Sound) (line : Console.Line)
    (hrefused : (build config line host).value = (.error (.refused refusal), after)) :
    LeftBehind config host refusal after := by
  have hafter : (openWorking config host).value.2 = after := host_of_refused hrefused
  have hnone (hpath : config.persistentPath = none) : after = host := by
    rw [← hafter, value_openWorking_of_no_path hpath]
  constructor
  case cause =>
    rcases refusal_of_build hrefused with ⟨fault, -, hrefusal⟩ | ⟨-, -, -, hrefusal⟩
    · exact .inl ⟨fault, hrefusal⟩
    · exact .inr ⟨_, hrefusal⟩
  case others =>
    intro other hother
    rw [← hafter]
    exact keeps_openWorking hsound hother
  case files =>
    intro file hlt hother
    rw [← hafter]
    exact (Disk.spares_openWorking hsound hlt hother).1.content
  case unchanged_iff =>
    cases hpath : config.persistentPath with
    | none => exact iff_of_true (hnone hpath) (by simp)
    | some image =>
      obtain ⟨_, -, hended⟩ := exists_ended_of_refused hsound hrefused hpath
      simp [hended.eq_iff]
  case io =>
    rintro fault rfl
    cases hpath : config.persistentPath with
    | none => exact .inl (hnone hpath)
    | some image =>
      obtain ⟨_, hvalue, hended⟩ := exists_ended_of_refused hsound hrefused hpath
      cases hended with
      | same => exact .inl rfl
      | empty _ vacant limited contents =>
        exact .inr ⟨image, rfl, vacant, limited, contents⟩
      | enlarged store =>
        -- Once the image was open, only the layout could be refused.
        have hworking := (openWorking_of_path_eq_ok_iff hpath).2 hvalue
        rcases refusal_of_build hrefused with ⟨_, hfailed, -⟩ | ⟨_, _, _, hrefusal⟩
        · exact absurd (hworking.symm.trans hfailed) (by simp)
        · exact absurd hrefusal (by simp)
  case layout =>
    rintro reason rfl image hpath henlarges
    rcases refusal_of_build hrefused with ⟨_, _, hrefusal⟩ | ⟨working, hworking, -, -⟩
    · exact absurd hrefusal (by simp)
    · obtain ⟨_, hvalue, hended⟩ := exists_ended_of_refused hsound hrefused hpath
      rw [(openWorking_of_path_eq_ok_iff hpath).1 hworking] at hvalue
      obtain rfl := (Prod.mk.inj hvalue).1
      cases hended with
      | same _ settled => exact absurd henlarges settled
      | enlarged _ _ contents padded => exact ⟨_, contents, padded⟩

/-- A host on which no file can be 2^44 bytes long. -/
def limitedHost : Host where
  rules.newRefusal?
    | .setLength length => if 0x100000000000 ≤ length then some .fileTooLarge else none
    | _ => none

/-- Working storage in a file of 2^44 bytes. -/
def vastConfig : Config :=
  { programSize := 0, workingSize := 0x100000000000, persistentPath := some ⟨"F"⟩ }

/-- Where a file can be made but not be as long as working storage, it is left behind empty. -/
theorem leftBehind_limited :
    limitedHost.Sound ∧ ∃ after,
      (build vastConfig {} limitedHost).value = (.error (.refused (.io .fileTooLarge)), after) ∧
        LeftBehind vastConfig limitedHost (.io .fileTooLarge) after ∧ after ≠ limitedHost ∧
        after.contents? ⟨"F"⟩ = some .empty := by
  have hsound : limitedHost.Sound := by decide
  have hrefused : ∃ after,
      (build vastConfig {} limitedHost).value =
        (.error (.refused (.io .fileTooLarge)), after) ∧
      (after.contents? ⟨"F"⟩).isSome = true := ⟨_, rfl, by decide +kernel⟩
  obtain ⟨after, hrefused, hmade⟩ := hrefused
  have hleft := leftBehind hsound {} hrefused
  have hmissing : (limitedHost.contents? ⟨"F"⟩).isSome = false := by decide +kernel
  have hchanged : after ≠ limitedHost := by
    rintro rfl
    exact absurd hmade (by simp [hmissing])
  rcases hleft.io _ rfl with hsame | ⟨image, himage, -, -, hempty⟩
  · exact absurd hsame hchanged
  · obtain rfl := Option.some.inj himage
    exact ⟨hsound, after, hrefused, hleft, hchanged, hempty⟩

/-- Working storage in a file, one byte longer than what fits. -/
def overlongConfig : Config :=
  { programSize := 0, workingSize := 0xFF01, persistentPath := some ⟨"F"⟩ }

/-- A machine whose storage does not fit is refused, and an image is there that was not. -/
theorem image_made_when_refused :
    ¬ ∀ config line host refusal after,
      (build config line host).value = (.error (.refused refusal), after) → after = host := by
  intro hunchanged
  have hrefused : ∃ refusal after,
      (build overlongConfig {} {}).value = (.error (.refused refusal), after) ∧
        (after.contents? ⟨"F"⟩).isSome = true := ⟨_, _, rfl, by decide +kernel⟩
  obtain ⟨refusal, after, hrefused, hmade⟩ := hrefused
  have hmissing : (({} : Host).contents? ⟨"F"⟩).isSome = false := by decide +kernel
  rw [hunchanged _ _ _ _ _ hrefused, hmissing] at hmade
  exact absurd hmade (by simp)

end Machine

end Backplane
