import Backplane.Proofs.Host.Names

/-!
# Names and the stems of their paths

A bare name is put into a path together with a directory and an extension, and it is taken out again
as the stem of the path's file name.  Building a path and taking it apart are different functions,
used far from each other.  That they agree rests on two things.  The path ends with the file's name,
whatever the directory is (`fileName?_child`).  And the last dot of that name is the one in front of
the extension, whatever characters a bare name may have besides (`stemOf_append_cons`).

`Resolved` says what the path of a bare name is, and that the name is its stem.  So no two names in
a directory have the same path (`name_injective`).
-/

namespace Backplane

namespace Path

theorem fileName?_child (directory : Path) {file : String} (h : IsFileName file) :
    (directory.child file).fileName? = some file := by
  obtain ⟨above, hchild, -⟩ := directory.components_child h
  simp [fileName?, hchild, List.filter_append, h.ne_empty, h.ne_dot, h.ne_dots]

/-- The stem ends at the last dot, and there is no dot in an extension. -/
theorem stemOf_append_cons {before after : List Char} (hbefore : before ≠ [])
    (hafter : '.' ∉ after) :
    stemOf (before ++ '.' :: after) = before := by
  have hreverse : (before ++ '.' :: after).reverse = after.reverse ++ '.' :: before.reverse := by
    simp
  have hdrop : (after.reverse ++ '.' :: before.reverse).dropWhile (· != '.') =
      '.' :: before.reverse := by
    rw [List.dropWhile_append_of_pos]
    · rfl
    · intro c hc
      rw [bne_iff_ne]
      rintro rfl
      exact hafter (List.mem_reverse.1 hc)
  have hnonempty : ¬before.isEmpty = true := by simpa using hbefore
  simp only [stemOf, hreverse, hdrop, List.drop_succ_cons, List.drop_zero, List.reverse_reverse,
    if_neg hnonempty]

end Path

namespace Name

variable {directory path : Path} {name other extension : String}

/-- The path of a name in a directory. -/
structure Resolved (directory : Path) (name extension : String) (path : Path) : Prop where
  /-- The components of the directory, but for an empty one at their end, and the file's name. -/
  components : ∃ above, path.components = above ++ [name ++ "." ++ extension] ∧
    (directory.components = above ∨ directory.components = above ++ [""])
  isAbsolute : path.isAbsolute = directory.isAbsolute
  fileName : path.fileName? = some (name ++ "." ++ extension)
  stem : path.stem? = some name

theorem IsBare.resolved (h : IsBare name) (hdot : '.' ∉ extension.toList)
    (hslash : '/' ∉ extension.toList) (directory : Path) :
    Resolved directory name extension (directory.child (name ++ "." ++ extension)) := by
  have hfile := h.isFileName hslash
  have hname : (name ++ "." ++ extension).toList = name.toList ++ '.' :: extension.toList := by simp
  refine ⟨directory.components_child hfile, directory.isAbsolute_child hfile,
    directory.fileName?_child hfile, ?_⟩
  rw [Path.stem?, directory.fileName?_child hfile, Option.map_some, hname,
    Path.stemOf_append_cons (List.length_pos_iff.1 h.positive) hdot, String.ofList_toList]

theorem exists_resolve?_iff :
    (∃ path, resolve? directory name extension = some path) ↔ IsBare name := by
  simp only [resolve?_eq_some_iff, exists_and_left, exists_eq, and_true]

theorem resolved_of_resolve? (hdot : '.' ∉ extension.toList) (hslash : '/' ∉ extension.toList)
    (h : resolve? directory name extension = some path) :
    Resolved directory name extension path := by
  obtain ⟨hbare, rfl⟩ := resolve?_eq_some_iff.1 h
  exact hbare.resolved hdot hslash directory

/-- Names can be told from their paths. -/
theorem name_injective (hdot : '.' ∉ extension.toList) (hslash : '/' ∉ extension.toList)
    (hname : resolve? directory name extension = some path)
    (hother : resolve? directory other extension = some path) : name = other := by
  have hstem := (resolved_of_resolve? hdot hslash hname).stem
  rw [(resolved_of_resolve? hdot hslash hother).stem] at hstem
  exact (Option.some.inj hstem).symm

end Name

end Backplane
