import Backplane.Proofs.Host.Files

/-!
# Opening a file by its path

A file that is opened for writing is made if it is missing.  Making it changes what paths lead to
in one way only: the paths that led to the empty place now lead to the new file
(`toOption_find_addFile`). A path that did not get as far as its last component still does not,
although it may be refused for another reason, since it may now pass through a file where it passed
through nothing.  So after opening, a path finds what was opened under it (`find_openOrCreate`),
and everything that could be found before is found still (`find_openOrCreate_of_find`).

The slash at the end of a path asks for a directory.  A path that leads to a file has none
(`node?_of_endsInSlash`), and opening it finds that file unless the host refuses it
(`openOrCreate_of_find`).

## Refusals

A file that is there can refuse to be opened, and a place where nothing is can refuse to take a
file.  Both leave the host as it was.  What a file that has just been made refuses is up to the
rules of the host, and so a file may be made that cannot be written.
-/

namespace Backplane

namespace Path

theorem cutAtSlashes_ne_nil (text : List Char) : cutAtSlashes text ≠ [] := by
  cases text with
  | nil => simp [cutAtSlashes]
  | cons c rest =>
    rw [cutAtSlashes, List.foldr_cons]
    split <;> simp

theorem cutAtSlashes_append_slash (text : List Char) :
    cutAtSlashes (text ++ ['/']) = cutAtSlashes text ++ [[]] := by
  induction text with
  | nil => rfl
  | cons c rest ih =>
    have hcons (pieces : List Char) : cutAtSlashes (c :: pieces) =
        if c = '/' then [] :: cutAtSlashes pieces
        else (c :: (cutAtSlashes pieces).headD []) :: (cutAtSlashes pieces).drop 1 := rfl
    obtain ⟨first, others, hpieces⟩ := List.exists_cons_of_ne_nil (cutAtSlashes_ne_nil rest)
    rw [List.cons_append, hcons, hcons, ih, hpieces]
    split <;> rfl

/-- A slash at the end is followed by an empty component. -/
theorem exists_components_of_endsInSlash {path : Path} (h : path.endsInSlash = true) :
    ∃ names, path.components = names ++ [""] := by
  have hlast : path.text.toList.getLast? = some '/' := by
    simpa [endsInSlash] using h
  obtain ⟨before, htext⟩ := List.getLast?_eq_some_iff.1 hlast
  refine ⟨(cutAtSlashes before).map String.ofList, ?_⟩
  rw [components, htext, cutAtSlashes_append_slash, List.map_append]
  rfl

end Path

namespace Host

variable {host after : Host} {names : List String} {path : Path} {node : Node}

/-! ## Following components -/

theorem walk_append (host : Host) (here first second : List String) :
    host.walk here (first ++ second) =
      match host.walk here first with
      | .error fault => .error fault
      | .ok there => host.walk there second := by
  induction first generalizing here with
  | nil => rfl
  | cons name rest ih =>
    simp only [List.cons_append, walk, ih]
    split
    · rfl
    · split
      · rfl
      · split
        · rfl
        · split <;> rfl
    · rfl

/-- What a path with a slash at its end leads to is a directory. -/
theorem node?_of_endsInSlash (hslash : path.endsInSlash = true)
    (hlocate : host.locate path = .ok names) : host.node? names = some .directory := by
  obtain ⟨before, hcomponents⟩ := Path.exists_components_of_endsInSlash hslash
  unfold locate at hlocate
  cases htext : path.textFault? with
  | some fault => simp [htext] at hlocate
  | none =>
    simp only [htext, hcomponents, walk_append] at hlocate
    cases hbefore : host.walk (startOf path) before with
    | error fault => simp [hbefore] at hlocate
    | ok here =>
      simp only [hbefore, walk] at hlocate
      cases hnode : host.node? here with
      | none => simp [hnode] at hlocate
      | some found =>
        cases found with
        | directory =>
          simp only [hnode, true_or, if_true, Except.ok.injEq] at hlocate
          rw [← hlocate, hnode]
        | regular index => simp [hnode] at hlocate
        | full => simp [hnode] at hlocate

/-- A path to anything but a directory leads to the same place when a file is to be made there. -/
theorem locateFile_of_not_directory (hlocate : host.locate path = .ok names)
    (hnode : host.node? names ≠ some .directory) : host.locateFile path = .ok names := by
  have hslash : path.endsInSlash = false := by
    cases hslash : path.endsInSlash with
    | false => rfl
    | true => exact absurd (node?_of_endsInSlash hslash hlocate) hnode
  exact locateFile_eq_ok_iff.2 ⟨hslash, hlocate⟩

theorem toOption_find (host : Host) (path : Path) :
    (host.find path).toOption = (host.locate path).toOption.bind host.node? := by
  unfold find
  cases host.locate path with
  | error fault => rfl
  | ok names =>
    cases hnode : host.node? names <;> simp [Except.toOption, hnode]

/-! ## Making a file -/

/-- Making a file in an empty place changes what that place holds, and no other. -/
theorem node?_addFile (h : host.node? names = none) (other : List String) :
    (host.addFile names).2.node? other =
      if other = names then some (.regular host.files.size) else host.node? other := by
  unfold node? at h ⊢
  split at h
  · exact absurd h (by simp)
  · rename_i hplace
    simp only [addFile, List.lookup_cons]
    by_cases hother : other = names
    · subst hother
      simp [hplace]
    · rw [if_neg hother, beq_false_of_ne hother]

/-- Making a file changes neither how far a path is followed nor where to, but for the reason why
it is not followed further. -/
theorem toOption_walk_addFile (h : host.node? names = none) (here components : List String) :
    ((host.addFile names).2.walk here components).toOption =
      (host.walk here components).toOption := by
  induction components generalizing here with
  | nil => rfl
  | cons name rest ih =>
    simp only [walk, node?_addFile h]
    by_cases hhere : here = names
    · -- The new file is no directory, so the walk stops where it stopped before.
      subst hhere
      simp [h, Except.toOption]
    · rw [if_neg hhere]
      cases host.node? here with
      | none => rfl
      | some found =>
        cases found with
        | directory =>
          dsimp only
          split
          · exact ih here
          · split
            · exact ih (above here)
            · split
              · rfl
              · exact ih (here ++ [name])
        | regular index => rfl
        | full => rfl

theorem toOption_locate_addFile (h : host.node? names = none) (path : Path) :
    ((host.addFile names).2.locate path).toOption = (host.locate path).toOption := by
  unfold locate
  cases path.textFault? with
  | some fault => rfl
  | none => exact toOption_walk_addFile h _ _

/-- Once a file was made, the paths that led to its place find it, and all others find what they
found before. -/
theorem toOption_find_addFile (h : host.node? names = none) (path : Path) :
    ((host.addFile names).2.find path).toOption =
      if host.locate path = .ok names then some (.regular host.files.size)
      else (host.find path).toOption := by
  rw [toOption_find, toOption_find, toOption_locate_addFile h]
  cases hlocate : host.locate path with
  | error fault => simp [Except.toOption]
  | ok place =>
    simp only [Except.toOption, Option.bind_some, node?_addFile h, Except.ok.injEq]

/-! ## Opening -/

/-- After a file was opened, its path finds it. -/
theorem find_openOrCreate (h : host.openOrCreate path = .ok (node, after)) :
    after.find path = .ok node := by
  rcases find_of_openOrCreate h with ⟨rfl, hfind⟩ | ⟨names, hlocate, hnone, rfl, rfl⟩
  · exact hfind
  · apply toOption_eq_some_iff.1
    rw [toOption_find_addFile hnone, if_pos hlocate]

/-- Opening a file keeps what other paths find. -/
theorem find_openOrCreate_of_find (h : host.openOrCreate path = .ok (node, after))
    {other : Path} {found : Node} (hfind : host.find other = .ok found) :
    after.find other = .ok found := by
  rcases find_of_openOrCreate h with ⟨rfl, -⟩ | ⟨names, -, hnone, rfl, rfl⟩
  · exact hfind
  · apply toOption_eq_some_iff.1
    obtain ⟨place, hlocate, hnode⟩ := exists_node?_of_find hfind
    have hplace : ¬ host.locate other = .ok names := by
      intro heq
      obtain rfl := Except.ok.inj (hlocate.symm.trans heq)
      simp [hnone] at hnode
    rw [toOption_find_addFile hnone, if_neg hplace, hfind]
    rfl

/-- After opening, a path finds what it found before, or it leads to the file that was made. -/
theorem find_of_find_openOrCreate (h : host.openOrCreate path = .ok (node, after)) {other : Path}
    {found : Node} (hfind : after.find other = .ok found) :
    host.find other = .ok found ∨
      host.find path = .error .notFound ∧ found = .regular host.files.size ∧
        after.find path = .ok found := by
  have hopened := find_openOrCreate h
  rcases find_of_openOrCreate h with ⟨rfl, -⟩ | ⟨names, hlocate, hnone, rfl, rfl⟩
  · exact .inl hfind
  · have hmade := toOption_find_addFile hnone other
    rw [hfind] at hmade
    split at hmade
    · obtain rfl := Option.some.inj hmade
      refine .inr ⟨?_, rfl, hopened⟩
      simp only [find, hlocate, hnone]
    · exact .inl (toOption_eq_some_iff.1 hmade.symm)

/-- Opening a file changes neither how far a path is followed nor where to. -/
theorem toOption_locate_openOrCreate (h : host.openOrCreate path = .ok (node, after))
    (other : Path) : (after.locate other).toOption = (host.locate other).toOption := by
  rcases find_of_openOrCreate h with ⟨rfl, -⟩ | ⟨names, -, hnone, -, rfl⟩
  · rfl
  · exact toOption_locate_addFile hnone other

theorem sound_openOrCreate (hsound : host.Sound)
    (h : host.openOrCreate path = .ok (node, after)) : after.Sound := by
  rcases find_of_openOrCreate h with ⟨rfl, -⟩ | ⟨names, -, -, -, rfl⟩
  · exact hsound
  · exact sound_addFile hsound names

/-- Opening what is there, if it is no directory and not refused, finds it and changes nothing. -/
theorem openOrCreate_of_find (h : host.find path = .ok node) (hnode : node ≠ .directory)
    (hgranted : host.refusal? node .openForWriting = none) :
    host.openOrCreate path = .ok (node, host) := by
  obtain ⟨names, hlocate, hfound⟩ := exists_node?_of_find h
  have hfile := locateFile_of_not_directory hlocate (by simpa [hfound] using hnode)
  exact openOrCreate_eq_ok_iff.2 ⟨names, hfile, .inl ⟨hfound, hnode, hgranted, rfl⟩⟩

/-- So whatever is opened where something was found is what was found. -/
theorem openOrCreate_eq_of_find {found : Node} (h : host.openOrCreate path = .ok (node, after))
    (hfind : host.find path = .ok found) : node = found ∧ after = host := by
  rcases find_of_openOrCreate h with ⟨rfl, hsame⟩ | ⟨names, hlocate, hnone, -, -⟩
  · exact ⟨Except.ok.inj (hsame.symm.trans hfind), rfl⟩
  · simp [find, hlocate, hnone] at hfind

/-- What is refused of a file that was there is refused of it still. -/
theorem refusal?_openOrCreate (h : host.openOrCreate path = .ok (node, after)) {other : Node}
    (hlt : ∀ index, other = .regular index → index < host.files.size) (access : FileAccess) :
    after.refusal? other access = host.refusal? other access := by
  rcases find_of_openOrCreate h with ⟨rfl, -⟩ | ⟨names, -, -, -, rfl⟩
  · rfl
  · exact refusal?_addFile names hlt access

theorem rules_openOrCreate (h : host.openOrCreate path = .ok (node, after)) :
    after.rules = host.rules := by
  rcases find_of_openOrCreate h with ⟨rfl, -⟩ | ⟨names, -, -, -, rfl⟩ <;> rfl

/-- Opening makes a file where a path leads to an empty place, if one can be made there. -/
theorem openOrCreate_of_missing (hlocate : host.locate path = .ok names)
    (hnone : host.node? names = none) (hmaking : host.rules.makingRefusal? names = none) :
    host.openOrCreate path = .ok (host.addFile names) := by
  have hfile := locateFile_of_not_directory hlocate (by simp [hnone])
  exact openOrCreate_eq_ok_iff.2 ⟨names, hfile, .inr ⟨hnone, hmaking, rfl⟩⟩

end Host

end Backplane
