import Backplane.Name
import Backplane.Proofs.Host.Opening

/-!
# Bare names and where they lead

A bare name becomes a path by the machine's own directory and extension.  `IsBare` spells out which
texts are bare names, and `IsPlaceIn` what it means that a file lies in a directory: one step below
what the directory's path leads to.  A bare name cannot leave its directory
(`isPlaceIn_of_resolve?`): the file it stands for is a single component of the path
(`components_child`), and none of those that lead elsewhere.

## Directories

The directory of a path need not be there, and it may be written with dots, doubled slashes or steps
upwards; it is the machine's own and is not checked.  What `isPlaceIn_of_resolve?` promises is about
the name: the file lies one step below whatever the directory's path leads to.
-/

namespace Backplane

namespace Name

/-- What makes a text a bare name. -/
structure IsBare (name : String) : Prop where
  positive : 1 ≤ name.toList.length
  length : name.toList.length ≤ 8
  plain : ∀ c ∈ name.toList, c ≠ '.' ∧ c ≠ '/' ∧ c ≠ '\\'

theorem isValid_iff {name : String} : isValid name = true ↔ IsBare name := by
  have hplain : name.toList.any isReserved = false ↔
      ∀ c ∈ name.toList, c ≠ '.' ∧ c ≠ '/' ∧ c ≠ '\\' := by
    simp [isReserved, and_assoc]
  simp only [isValid, Bool.and_eq_true, Bool.not_eq_true', hplain, decide_eq_true_eq,
    List.isEmpty_eq_false_iff]
  constructor
  · rintro ⟨⟨hpositive, hlength⟩, hchars⟩
    exact ⟨List.length_pos_iff.2 hpositive, hlength, hchars⟩
  · rintro ⟨hpositive, hlength, hchars⟩
    exact ⟨⟨List.length_pos_iff.1 hpositive, hlength⟩, hchars⟩

instance (name : String) : Decidable (IsBare name) := decidable_of_iff _ isValid_iff

/-- Only bare names stand for files, each for one of the directory. -/
theorem resolve?_eq_some_iff {directory path : Path} {name extension : String} :
    resolve? directory name extension = some path ↔
      IsBare name ∧ path = directory.child (name ++ "." ++ extension) := by
  rw [resolve?, ← isValid_iff]
  split <;> simp [*, eq_comm]

theorem resolve?_eq_none_iff {directory : Path} {name extension : String} :
    resolve? directory name extension = none ↔ ¬ IsBare name := by
  rw [resolve?, ← isValid_iff]
  split <;> simp [*]

end Name

/-! ## The path of a file in a directory -/

namespace Path

theorem cutAtSlashes_append_cons (before after : List Char) :
    cutAtSlashes (before ++ '/' :: after) = cutAtSlashes before ++ cutAtSlashes after := by
  have hcons (c : Char) (rest : List Char) : cutAtSlashes (c :: rest) =
      if c = '/' then [] :: cutAtSlashes rest
      else (c :: (cutAtSlashes rest).headD []) :: (cutAtSlashes rest).drop 1 := rfl
  induction before with
  | nil => rw [List.nil_append, hcons, if_pos rfl]; rfl
  | cons c rest ih =>
    obtain ⟨first, others, hpieces⟩ := List.exists_cons_of_ne_nil (cutAtSlashes_ne_nil rest)
    rw [List.cons_append, hcons, hcons, ih, hpieces]
    split <;> rfl

theorem cutAtSlashes_of_not_mem {text : List Char} (h : '/' ∉ text) :
    cutAtSlashes text = [text] := by
  induction text with
  | nil => rfl
  | cons c rest ih =>
    obtain ⟨hc, hrest⟩ := not_or.1 (mt List.mem_cons.2 h)
    show (if c = '/' then _ else _) = _
    rw [if_neg (Ne.symm hc)]
    show (c :: (cutAtSlashes rest).headD []) :: (cutAtSlashes rest).drop 1 = _
    rw [ih hrest]
    rfl

/-- A component that names a file and leads nowhere else. -/
structure IsFileName (file : String) : Prop where
  plain : '/' ∉ file.toList
  ne_empty : file ≠ ""
  ne_dot : file ≠ "."
  ne_dots : file ≠ ".."

/-- The path of a file in a directory goes through the directory's own components, but for an empty
one at their end, and ends with the file's name. -/
theorem components_child (directory : Path) {file : String} (h : IsFileName file) :
    ∃ above, (directory.child file).components = above ++ [file] ∧
      (directory.components = above ∨ directory.components = above ++ [""]) := by
  have hfile : (cutAtSlashes file.toList).map String.ofList = [file] := by
    rw [cutAtSlashes_of_not_mem h.plain]
    simp
  unfold child
  cases hlast : directory.text.toList.getLast? with
  | none =>
    -- The directory has no text: the working directory.
    have hempty : directory.text.toList = [] := List.getLast?_eq_none_iff.1 hlast
    refine ⟨[], ?_, .inr ?_⟩
    · simp [components, hempty, hfile]
    · simp only [components, hempty]
      rfl
  | some c =>
    obtain ⟨before, htext⟩ := List.getLast?_eq_some_iff.1 hlast
    by_cases hc : c = '/'
    · -- Its text ends with a slash, which leaves an empty component.
      subst hc
      refine ⟨(cutAtSlashes before).map String.ofList, ?_, .inr ?_⟩
      · simp [components, htext, cutAtSlashes_append_cons, hfile]
      · rw [components, htext, cutAtSlashes_append_cons, List.map_append]
        rfl
    · -- A slash is put in between.
      refine ⟨directory.components, ?_, .inl rfl⟩
      have htoList : (directory.text ++ "/" ++ file).toList =
          directory.text.toList ++ '/' :: file.toList := by simp
      simp only [Option.all_some, beq_iff_eq, hc, if_false, components, htoList,
        cutAtSlashes_append_cons, List.map_append, hfile]

theorem isAbsolute_child (directory : Path) {file : String} (h : IsFileName file) :
    (directory.child file).isAbsolute = directory.isAbsolute := by
  unfold child isAbsolute
  cases htext : directory.text.toList with
  | nil =>
    have hhead : file.toList.head? ≠ some '/' := by
      intro hhead
      exact h.plain (List.mem_of_mem_head? hhead)
    simp [htext, hhead]
  | cons c rest => split <;> simp [htext]

end Path

namespace Host

/-- The place of the file of a name in a directory: one step below the directory itself. -/
def IsPlaceIn (host : Host) (directory : Path) (file : String) (place : List String) : Prop :=
  ∃ there, host.walk (startOf directory) directory.components = .ok there ∧
    host.node? there = some .directory ∧ place = there ++ [file]

theorem isPlaceIn_of_locate {host : Host} {directory : Path} {file : String}
    (h : Path.IsFileName file) {place : List String}
    (hlocate : host.locate (directory.child file) = .ok place) :
    host.IsPlaceIn directory file place := by
  obtain ⟨above, hchild, habove⟩ := directory.components_child h
  have hstart : startOf (directory.child file) = startOf directory := by
    unfold startOf
    rw [directory.isAbsolute_child h]
  have hwalk : host.walk (startOf directory) (above ++ [file]) = .ok place := by
    unfold locate at hlocate
    split at hlocate
    · exact absurd hlocate (by simp)
    · rwa [hstart, hchild] at hlocate
  -- The walk goes to the directory first, and then takes one step to a name that is no dots.
  rw [walk_append] at hwalk
  cases hthere : host.walk (startOf directory) above with
  | error fault => simp [hthere] at hwalk
  | ok there =>
    rw [hthere] at hwalk
    simp only [walk] at hwalk
    split at hwalk
    · exact absurd hwalk (by simp)
    · rename_i hnode
      have hne : ¬ (file = "" ∨ file = ".") := not_or.2 ⟨h.ne_empty, h.ne_dot⟩
      rw [if_neg hne, if_neg h.ne_dots] at hwalk
      split at hwalk
      · exact absurd hwalk (by simp)
      · refine ⟨there, ?_, hnode, (Except.ok.inj hwalk).symm⟩
        rcases habove with heq | heq
        · rw [heq, hthere]
        · rw [heq, walk_append, hthere]
          simp [walk, hnode]
    · exact absurd hwalk (by simp)

end Host

namespace Name

/-- A bare name with its extension is a single component, whatever the extension. -/
theorem IsBare.isFileName {name extension : String} (h : IsBare name)
    (hextension : '/' ∉ extension.toList) : Path.IsFileName (name ++ "." ++ extension) := by
  obtain ⟨c, rest, hname⟩ := List.exists_cons_of_ne_nil (List.length_pos_iff.1 h.positive)
  have hdot : c ≠ '.' := (h.plain c (by simp [hname])).1
  have hhead : ∀ other : String, other.toList.head? ≠ some c →
      name ++ "." ++ extension ≠ other := by
    intro other hother heq
    apply hother
    rw [← heq]
    simp [hname]
  refine ⟨?_, hhead "" (by simp), hhead "." (by simpa using hdot.symm),
    hhead ".." (by simpa using hdot.symm)⟩
  intro hmem
  simp only [String.toList_append, List.mem_append] at hmem
  rcases hmem with (hmem | hmem) | hmem
  · exact (h.plain '/' hmem).2.1 rfl
  · simp at hmem
  · exact hextension hmem

/-- Whatever a name stands for in a directory lies in that directory. -/
theorem isPlaceIn_of_resolve? {host : Host} {directory path : Path} {name extension : String}
    (hextension : '/' ∉ extension.toList) (h : resolve? directory name extension = some path)
    {place : List String} (hlocate : host.locate path = .ok place) :
    IsBare name ∧ host.IsPlaceIn directory (name ++ "." ++ extension) place := by
  obtain ⟨hbare, rfl⟩ := resolve?_eq_some_iff.1 h
  exact ⟨hbare, Host.isPlaceIn_of_locate (hbare.isFileName hextension) hlocate⟩

end Name

end Backplane
