import InterfaceGen.Proofs.Files.Changing

/-!
# Putting texts into ordinary trees

A text is put into a file after the directories around it are made.

Main definitions:

- `FileTree.putText`: a tree with a text in the file at a path and the directories around it, or as much of
  this as could be done.
- `FileTree.Allows`: when nothing is in the way of that.

Main results:

- Theorem `grows_putText`: putting a text changes the place of the path, and makes directories on its way.
- Theorems `of_putText_eq_none` and `putText_succeeds`: what is there once a text is put, and when it can be.
-/

namespace InterfaceGen.FileTree

open InterfaceGen.Path Text

/-- A tree with the directories around a path, and what went wrong if they could not be made. -/
def makeAround (tree : FileTree) (home : Location) (p : Text) : FileTree × Option FileError :=
  match parent? p with
  | some outer => tree.makeDirectories home outer
  | none => (tree, none)

/-- A tree with a text in the file at a path and the directories around it, and what went wrong if that could
not be done.  What was made before an error stays. -/
def putText (tree : FileTree) (home : Location) (p t : Text) : FileTree × Option FileError :=
  match tree.makeAround home p with
  | (next, some fault) => (next, some fault)
  | (next, none) =>
    match next.writeText home p t with
    | .ok tree' => (tree', none)
    | .error fault => (next, some fault)

section Putting

variable {tree : FileTree} (ht : tree.IsOrdinary) (home : Location) {p : Text} (hp : isAbsolute p = true)
include ht hp

/-- The directories around a path are on its way. -/
theorem grows_makeAround : Grows [] (way p) tree (tree.makeAround home p).1 := by
  unfold makeAround
  cases hparent : parent? p with
  | none => exact .refl ht
  | some outer =>
    obtain ⟨before, step, tail, k, hends, houter, -, hbefore, -⟩ := exists_of_parent?_eq_some hp hparent
    obtain ⟨n, hsteps⟩ := hends.steps_eq
    have hsplit : steps p = steps outer ++ (List.replicate k stay ++ step :: List.replicate n stay) := by
      rw [hsteps, hbefore, List.append_assoc]
    exact (grows_makeDirectories ht home houter).mono (List.Subset.refl _)
      (passed_subset_way hsplit (by simp))

/-- Putting a text changes what is at the place of the path, if it succeeds, and makes directories on its
way. -/
theorem grows_putText {t : Text} {tree' : FileTree} {fault? : Option FileError}
    (h : tree.putText home p t = (tree', fault?)) :
    Grows (if fault?.isNone then [place p] else []) (way p) tree tree' := by
  have haround := grows_makeAround ht home hp
  unfold putText at h
  split at h
  · next next fault hmake =>
    obtain ⟨rfl, rfl⟩ := Prod.mk.inj h
    rwa [hmake] at haround
  · next next hmake =>
    rw [hmake] at haround
    split at h
    · next done hwrite =>
      obtain ⟨rfl, rfl⟩ := Prod.mk.inj h
      have hgrows := grows_writeText haround.ordinary hp hwrite
      exact (haround.mono (List.nil_subset _) (List.Subset.refl _)).trans
        (hgrows.mono (List.Subset.refl _) (List.nil_subset _))
    · obtain ⟨rfl, rfl⟩ := Prod.mk.inj h
      exact haround

/-- Once a text is put, it is in the file at the path, which was no directory before. -/
theorem of_putText_eq_none {t : Text} {tree' : FileTree} (h : tree.putText home p t = (tree', none)) :
    tree'.Reaches p ∧ tree'.entry? (place p) = some (.file (.text t)) ∧
      tree.entry? (place p) ≠ some .directory ∧
      ∃ above name, fileName? p = some name ∧ place p = above ++ [name] := by
  have haround := grows_makeAround ht home hp
  unfold putText at h
  split at h
  · cases (Prod.mk.inj h).2
  · next next hmake =>
    rw [hmake] at haround
    split at h
    · next done hwrite =>
      obtain ⟨rfl, -⟩ := Prod.mk.inj h
      obtain ⟨-, above, name, hname, hplace, -, -, hdir, -⟩ := exists_of_writeText haround.ordinary hp hwrite
      obtain ⟨hreaches, hentry⟩ := entry?_writeText haround.ordinary hp hwrite
      exact ⟨hreaches, hentry, fun hbefore => hdir (haround.directory hbefore), above, name, hname, hplace⟩
    · cases (Prod.mk.inj h).2

end Putting

/-! ## Success -/

/-- When nothing is in the way of a text: its path is no faulty path, the steps fit, no file is on the way,
and its place is no directory and is not on the way itself. -/
structure Allows (tree : FileTree) (p : Text) : Prop where
  no_fault : pathFault? p = none
  fits : ∀ step ∈ steps p, byteSize step ≤ maxNameBytes
  no_file : ∀ q ∈ way p, ∀ content, tree.entry? q ≠ some (.file content)
  no_directory : tree.entry? (place p) ≠ some .directory
  apart : place p ∉ way p

namespace Allows

variable {tree : FileTree} {p : Text} (h : tree.Allows p)
include h

/-- A path to a file takes a step. -/
theorem steps_ne_nil : steps p ≠ [] := by
  intro hnil
  refine h.no_directory ?_
  rw [place, hnil]
  rfl

/-- A path to a file does not end in a slash. -/
theorem no_slash : endsWithSlash p = false := by
  refine Bool.eq_false_iff.2 fun hslash => h.apart ?_
  rw [way, markedSteps, if_pos hslash, List.dropLast_concat]
  exact destination_mem_passed [] h.steps_ne_nil

/-- A path to a file does not end in a single dot. -/
theorem getLast?_ne_stay : (steps p).getLast? ≠ some stay := by
  intro hstay
  obtain ⟨init, hsteps⟩ := List.getLast?_eq_some_iff.1 hstay
  have hplace : place p = destination [] init := by
    rw [place, hsteps, destination_append]
    rfl
  by_cases hnil : init = []
  · refine h.no_directory ?_
    rw [hplace, hnil]
    rfl
  · refine h.apart (hplace ▸ passed_subset_way hsteps (List.cons_ne_nil _ _) (destination_mem_passed [] hnil))

end Allows

/-- A text can be put where nothing is in its way. -/
theorem putText_succeeds {tree : FileTree} (ht : tree.IsOrdinary) (home : Location) {p : Text}
    (hp : isAbsolute p = true) (h : tree.Allows p) (t : Text) : (tree.putText home p t).2 = none := by
  have haround := grows_makeAround ht home hp
  have hmake : ∃ next, tree.makeAround home p = (next, none) ∧ next.Reaches p := by
    cases hparent : parent? p with
    | none =>
      obtain ⟨n, hsteps⟩ := steps_of_parent?_eq_none hparent
      refine absurd ?_ h.no_directory
      rw [place, hsteps, destination_replicate_stay]
      rfl
    | some outer =>
      obtain ⟨houter, hbegins, -, hlast, step, k, hsteps⟩ :=
        exists_of_parent?_of_getLast? hp hparent h.getLast?_ne_stay
      have hsplit : steps p = steps outer ++ (List.replicate k stay ++ [step]) := by
        rw [hsteps, List.append_assoc]
      have hadmits : tree.Admits outer := admits_outer h.no_fault h.fits houter hbegins hsplit fun q hq =>
        h.no_file q (passed_subset_way hsplit (by simp) hq)
      obtain ⟨next, hnext, hdirs⟩ := makeDirectories_succeeds ht home houter hadmits hlast
      exact ⟨next, by simp only [makeAround, hparent, hnext],
        (reachesAround_of_passed h.no_fault h.fits hsteps hdirs).reaches_of_no_slash h.no_slash⟩
  obtain ⟨next, hnext, hreaches⟩ := hmake
  rw [hnext] at haround
  have hdir : next.entry? (place p) ≠ some .directory := by
    rw [haround.same (by simp) h.apart]
    exact h.no_directory
  simp only [putText, hnext, writeText_succeeds haround.ordinary hp hreaches h.no_slash hdir]

end InterfaceGen.FileTree
