import InterfaceGen.Proofs.Files.Following

/-!
# Changing ordinary trees

Writing a file and making directories change an ordinary tree at a few known locations: no directory goes
away, and what is made is in directories again.

Main definitions:

- `FileTree.Grows`: what a tree has after files are written and directories are made at some locations.

Main results:

- Theorem `grows_makeDirectories`: only directories are made, and only where the path comes to.
- Theorem `makeDirectories_succeeds`: the directories are made if no file is where the path comes to.
- Theorem `exists_of_writeText` and `writeText_succeeds`: when a file can be written, and what the tree is
  then.
- Theorem `makeDirectory_of_reachesAround` and `exists_fault_of_not_reachesAround`: when a directory is
  made, and why not elsewhere.
-/

namespace InterfaceGen.FileTree

open InterfaceGen.Path Text

/-! ## Setting an entry -/

/-- Setting an entry changes what there is at its location only. -/
theorem entry?_set (tree : FileTree) {place : Location} (hplace : place ≠ []) (entry : Entry) (q : Location) :
    entry? (tree.set place entry) q = if q = place then some entry else tree.entry? q := by
  unfold entry? set
  by_cases hroot : q = []
  · simp [hroot, hplace.symm]
  · by_cases hq : q = place
    · subst hq
      simp [hroot]
    · simp [hroot, hq, SortedMap.find?_insert_of_ne _ _ hq]

/-- A file that is there with a new directory was there before. -/
theorem file_of_set_directory {tree : FileTree} {place q : Location} {content : Content} (hplace : place ≠ [])
    (h : entry? (tree.set place .directory) q = some (.file content)) :
    tree.entry? q = some (.file content) := by
  rw [entry?_set tree hplace] at h
  split at h
  · cases h
  · exact h

/-! ## Growing trees -/

/-- What a tree has after files are written at some locations and directories are made at others: all else
is as it was. -/
structure Grows (files dirs : List Location) (tree tree' : FileTree) : Prop where
  ordinary : tree'.IsOrdinary
  cases : ∀ q, tree'.entry? q = tree.entry? q ∨
    (q ∈ files ∧ tree.entry? q ≠ some .directory ∧ ∃ content, tree'.entry? q = some (.file content)) ∨
    (q ∈ dirs ∧ tree.entry? q = none ∧ tree'.entry? q = some .directory)

namespace Grows

variable {files dirs files' dirs' : List Location} {tree tree' tree'' : FileTree}

/-- A tree that is left alone has what it had. -/
theorem refl (ht : tree.IsOrdinary) : Grows files dirs tree tree :=
  ⟨ht, fun _ => .inl rfl⟩

/-- Directories stay. -/
theorem directory (h : Grows files dirs tree tree') {q : Location} (hq : tree.entry? q = some .directory) :
    tree'.entry? q = some .directory := by
  rcases h.cases q with hsame | ⟨-, hdir, -⟩ | ⟨-, hnone, -⟩
  · rw [hsame, hq]
  · exact absurd hq hdir
  · simp [hq] at hnone

/-- What there is at a location where nothing is written or made stays. -/
theorem same (h : Grows files dirs tree tree') {q : Location} (hfile : q ∉ files) (hdir : q ∉ dirs) :
    tree'.entry? q = tree.entry? q := by
  rcases h.cases q with hsame | ⟨hmem, -⟩ | ⟨hmem, -⟩
  · exact hsame
  · exact absurd hmem hfile
  · exact absurd hmem hdir

/-- What there is at a location where no file is written stays. -/
theorem keeps (h : Grows files dirs tree tree') {q : Location} (hfile : q ∉ files) {entry : Entry}
    (hentry : tree.entry? q = some entry) :
    tree'.entry? q = some entry := by
  rcases h.cases q with hsame | ⟨hmem, -⟩ | ⟨-, hnone, -⟩
  · rw [hsame, hentry]
  · exact absurd hmem hfile
  · simp [hnone] at hentry

/-- A file stays where no file is written, and there is no other file in the end. -/
theorem file_iff (h : Grows files dirs tree tree') {q : Location} (hfile : q ∉ files) {content : Content} :
    tree'.entry? q = some (.file content) ↔ tree.entry? q = some (.file content) := by
  rcases h.cases q with hsame | ⟨hmem, -⟩ | ⟨-, hnone, hdir⟩
  · rw [hsame]
  · exact absurd hmem hfile
  · simp [hnone, hdir]

/-- More locations may be allowed for. -/
theorem mono (h : Grows files dirs tree tree') (hfiles : files ⊆ files') (hdirs : dirs ⊆ dirs') :
    Grows files' dirs' tree tree' :=
  ⟨h.ordinary, fun q => (h.cases q).imp_right
    (Or.imp (And.imp_left (hfiles ·)) (And.imp_left (hdirs ·)))⟩

/-- Changes can be made one after the other. -/
theorem trans (h : Grows files dirs tree tree') (h' : Grows files dirs tree' tree'') :
    Grows files dirs tree tree'' := by
  refine ⟨h'.ordinary, fun q => ?_⟩
  rcases h'.cases q with hsame | ⟨hmem, hdir, hfile⟩ | ⟨hmem, hnone, hdir⟩
  · rw [hsame]
    exact h.cases q
  · exact .inr (.inl ⟨hmem, fun hq => hdir (h.directory hq), hfile⟩)
  · rcases h.cases q with hsame | ⟨-, -, content, hfile⟩ | ⟨-, -, hdir'⟩
    · exact .inr (.inr ⟨hmem, hsame ▸ hnone, hdir⟩)
    · simp [hnone] at hfile
    · simp [hnone] at hdir'

end Grows

/-- With a new file or directory that has a name and is in a directory, an ordinary tree is ordinary. -/
theorem IsOrdinary.set {tree : FileTree} (ht : tree.IsOrdinary) (above : Location) (name : Text)
    {entry : Entry}
    (habove : tree.entry? above = some .directory) (hname : IsName name)
    (hentry : entry = .directory ∨
      tree.entry? (above ++ [name]) ≠ some .directory ∧ ∃ content, entry = .file content) :
    (tree.set (above ++ [name]) entry).IsOrdinary := by
  have hne : above ++ [name] ≠ [] := by simp
  have hset := tree.entry?_set hne entry
  have hdir : ∀ q, tree.entry? q = some .directory →
      entry? (tree.set (above ++ [name]) entry) q = some .directory := by
    intro q hq
    rw [hset]
    split
    · next heq =>
      subst heq
      rcases hentry with rfl | ⟨hno, -⟩
      · rfl
      · exact absurd hq hno
    · exact hq
  constructor
  · intro q target
    rw [hset]
    split
    · rcases hentry with rfl | ⟨-, content, rfl⟩ <;> simp
    · exact ht.no_link
  · intro q n e h
    rw [hset] at h
    split at h
    · next heq =>
      obtain rfl := List.singleton_inj.1 (List.append_inj' heq rfl).2
      exact hname
    · exact ht.is_name h
  · intro q n e h
    rw [hset] at h
    split at h
    · next heq => exact hdir q ((List.append_inj' heq rfl).1 ▸ habove)
    · exact hdir q (ht.enclosed h)

/-- A new directory in a directory is all that changes. -/
theorem grows_set_directory {tree : FileTree} (ht : tree.IsOrdinary) {above : Location} {name : Text}
    (habove : tree.entry? above = some .directory) (hname : IsName name)
    (hnone : tree.entry? (above ++ [name]) = none) :
    Grows [] [above ++ [name]] tree (tree.set (above ++ [name]) .directory) := by
  refine ⟨ht.set above name habove hname (.inl rfl), fun q => ?_⟩
  rw [entry?_set _ (by simp)]
  split
  · next heq => exact .inr (.inr ⟨by simp [heq], heq ▸ hnone, rfl⟩)
  · exact .inl rfl

/-- A file in a directory is all that changes. -/
theorem grows_set_file {tree : FileTree} (ht : tree.IsOrdinary) {above : Location} {name : Text}
    (habove : tree.entry? above = some .directory) (hname : IsName name)
    (hdir : tree.entry? (above ++ [name]) ≠ some .directory) (content : Content) :
    Grows [above ++ [name]] [] tree (tree.set (above ++ [name]) (.file content)) := by
  refine ⟨ht.set above name habove hname (.inr ⟨hdir, content, rfl⟩), fun q => ?_⟩
  rw [entry?_set _ (by simp)]
  split
  · next heq => exact .inr (.inl ⟨by simp [heq], heq ▸ hdir, content, rfl⟩)
  · exact .inl rfl

/-! ## Writing files -/

section Writing

variable {tree tree' : FileTree} (ht : tree.IsOrdinary) {home : Location} {p t : Text}
  (hp : isAbsolute p = true)
include ht hp

/-- A file is written at a path that can be followed to a name, which no directory has. -/
theorem exists_of_writeText (h : tree.writeText home p t = .ok tree') :
    tree.Reaches p ∧ ∃ above name, fileName? p = some name ∧ place p = above ++ [name] ∧
      tree.entry? above = some .directory ∧ IsName name ∧ tree.entry? (place p) ≠ some .directory ∧
      tree' = tree.set (place p) (.file (.text t)) := by
  unfold writeText at h
  cases hlocate : tree.locateFor .writing home p with
  | error fault => simp [hlocate, bind, Except.bind] at h
  | ok q =>
    obtain ⟨hreaches, rfl⟩ := reaches_of_locateFor_writing ht hp hlocate
    have hdir : tree.entry? (place p) ≠ some .directory := by
      intro hdir
      simp [hlocate, hdir, bind, Except.bind] at h
    have hset : tree' = tree.set (place p) (.file (.text t)) := by
      simp only [hlocate, bind, Except.bind] at h
      exact (Except.ok.inj h).symm
    refine ⟨hreaches, ?_⟩
    rcases hreaches.around.directory_or_name ht hp with
      ⟨-, hroot⟩ | ⟨above, name, hlast, hplace, habove, hname⟩
    · exact absurd hroot hdir
    · exact ⟨above, name, hlast, hplace, habove, hname, hdir, hset⟩

/-- Writing a file changes nothing else. -/
theorem grows_writeText (h : tree.writeText home p t = .ok tree') : Grows [place p] [] tree tree' := by
  obtain ⟨-, above, name, -, hplace, habove, hname, hdir, rfl⟩ := exists_of_writeText ht hp h
  rw [hplace] at hdir ⊢
  exact grows_set_file ht habove hname hdir _

/-- A file that is written can be read. -/
theorem entry?_writeText (h : tree.writeText home p t = .ok tree') :
    tree'.Reaches p ∧ tree'.entry? (place p) = some (.file (.text t)) := by
  have hgrows := grows_writeText ht hp h
  obtain ⟨hreaches, above, name, -, hplace, -, -, -, rfl⟩ := exists_of_writeText ht hp h
  refine ⟨hreaches.mono fun q => hgrows.directory, ?_⟩
  rw [entry?_set _ (by simp [hplace]), if_pos rfl]

/-- A file can be written at a path that can be followed and does not end in a slash, unless there is a
directory. -/
theorem writeText_succeeds (h : tree.Reaches p) (hslash : endsWithSlash p = false)
    (hdir : tree.entry? (place p) ≠ some .directory) :
    tree.writeText home p t = .ok (tree.set (place p) (.file (.text t))) := by
  unfold writeText
  rw [locateFor_writing_of_reaches ht hp h hslash]
  simp only [bind, Except.bind]

/-- What is read at a path that can be followed depends on what there is at its place only. -/
theorem readText_of_reaches (h : tree.Reaches p) : tree.readText home p =
    match tree.entry? (place p) with
    | some (.file content) => content.text?
    | some .directory => .error .isDirectory
    | _ => .error .notFound := by
  rw [readText, (locate_eq_ok_iff ht hp).2 ⟨h, rfl⟩]
  rfl

/-- The text in a file is what is read from it. -/
theorem readText_eq_ok_iff : tree.readText home p = .ok t ↔
    tree.Reaches p ∧ tree.entry? (place p) = some (.file (.text t)) := by
  by_cases hreaches : tree.Reaches p
  · rw [readText_of_reaches ht hp hreaches]
    rcases ht.entry?_cases (place p) with hentry | hentry | ⟨content, hentry⟩
    · simp [hentry]
    · simp [hentry]
    · cases content <;> simp [hentry, hreaches, Content.text?]
  · cases hlocate : tree.locate home p with
    | error fault => simp [readText, hlocate, hreaches, bind, Except.bind]
    | ok q => exact absurd ((locate_eq_ok_iff ht hp).1 hlocate).1 hreaches

/-- What is read at a path to a file or a directory stays the same where no file is written at its place. -/
theorem Grows.readText_eq {files dirs : List Location} (h : Grows files dirs tree tree')
    (hentry : (tree.entry? (place p)).isSome) (hreaches : pathFault? p = none → tree.Reaches p)
    (hfile : tree.Reaches p → place p ∉ files) : tree'.readText home p = tree.readText home p := by
  cases hfault : pathFault? p with
  | some fault => simp [readText, locate, locateFor, hfault, bind, Except.bind]
  | none =>
    have hbefore := hreaches hfault
    have hsame : tree'.entry? (place p) = tree.entry? (place p) := by
      rcases ht.entry?_cases (place p) with hnone | hdir | ⟨content, hcontent⟩
      · simp [hnone] at hentry
      · rw [hdir, h.directory hdir]
      · rw [hcontent, h.file_iff (hfile hbefore), hcontent]
    have hafter := hbefore.mono fun q => h.directory
    rw [readText_of_reaches ht hp hbefore, readText_of_reaches h.ordinary hp hafter, hsame]

end Writing

/-! ## Making one directory -/

/-- Whether directories can be made at and around a path: it is no faulty path, its steps fit, and no file is
where they come to. -/
structure Admits (tree : FileTree) (p : Text) : Prop where
  no_fault : pathFault? p = none
  fits : ∀ step ∈ steps p, byteSize step ≤ maxNameBytes
  no_file : ∀ q ∈ passed [] (steps p), ∀ content, tree.entry? q ≠ some (.file content)

section OneDirectory

variable {tree : FileTree} (ht : tree.IsOrdinary) (home : Location) {p : Text} (hp : isAbsolute p = true)

/-- A tree with a new directory that a step leads to from another directory. -/
def makeInside (tree : FileTree) (dir : Location) (step : Text) : Except FileError FileTree :=
  if step = stay ∨ step = up then .error .alreadyExists
  else if maxNameBytes < byteSize step then .error .nameTooLong
  else if (tree.entry? (dir ++ [step])).isSome then .error .alreadyExists
  else .ok (tree.set (dir ++ [step]) .directory)

/-- A directory is made by the last step of its path, in the directory that the others lead to. -/
theorem makeDirectory_eq (tree : FileTree) {init : List Text} {last : Text} (hp : isAbsolute p = true)
    (hfault : pathFault? p = none) (hsteps : steps p = init ++ [last]) :
    tree.makeDirectory home p =
      (tree.follow .finding maxLinks [] (init ++ [directoryMark])).bind (tree.makeInside · last) := by
  unfold makeDirectory locateParent
  simp only [hfault, hsteps, List.getLast?_concat, List.dropLast_concat, origin, hp, if_true]
  cases tree.follow .finding maxLinks [] (init ++ [directoryMark]) <;> rfl

/-- No directory is made by a step that is too long. -/
theorem makeInside_of_long (tree : FileTree) (dir : Location) {step : Text}
    (h : maxNameBytes < byteSize step) :
    tree.makeInside dir step = .error .nameTooLong := by
  have hname : ¬ (step = stay ∨ step = up) := by
    rintro (rfl | rfl) <;> exact absurd h (by decide)
  rw [makeInside, if_neg hname, if_pos h]

/-- A step makes a directory where it leads from another one, unless there is an entry already. -/
theorem makeInside_of_fits {tree : FileTree} (ht : tree.IsOrdinary) {dir : Location} {step : Text}
    (hdir : tree.entry? dir = some .directory) (hmark : step ≠ directoryMark)
    (hfits : byteSize step ≤ maxNameBytes) :
    tree.makeInside dir step = if (tree.entry? (next dir step)).isSome then .error .alreadyExists
      else .ok (tree.set (next dir step) .directory) := by
  by_cases hname : step = stay ∨ step = up
  · have hthere : tree.entry? (next dir step) = some .directory := by
      rcases hname with rfl | rfl
      · rwa [next_stay]
      · rw [next_up]
        exact ht.directory_dropLast hdir
    rw [makeInside, if_pos hname, hthere, Option.isSome_some, if_pos rfl]
  · obtain ⟨hstay, hup⟩ := not_or.1 hname
    have hnext : next dir step = dir ++ [step] := by simp only [next, hstay, hmark, hup, or_self, if_false]
    rw [makeInside, if_neg hname, if_neg (Nat.not_lt.2 hfits), hnext]

include ht hp

/-- Where the location around the last step can be reached, a directory is made unless there is an entry
already. -/
theorem makeDirectory_of_reachesAround (h : tree.ReachesAround p) :
    tree.makeDirectory home p =
      if (tree.entry? (place p)).isSome then .error .alreadyExists
      else .ok (tree.set (place p) .directory) := by
  rcases List.eq_nil_or_concat (steps p) with hnil | ⟨init, last, hsteps⟩
  · simp [makeDirectory, locateParent, h.no_fault, hnil, place, bind, Except.bind]
  · rw [List.concat_eq_append] at hsteps
    have hlast : last ∈ steps p := by simp [hsteps]
    have hpassed : (steps p).dropLast = (init ++ [directoryMark]).dropLast := by simp [hsteps]
    have hfits : ∀ step ∈ init ++ [directoryMark], byteSize step ≤ maxNameBytes := by
      intro step hstep
      rcases List.mem_append.1 hstep with hstep | hstep
      · exact h.fits step (by simp [hsteps, hstep])
      · rw [List.mem_singleton.1 hstep]
        decide
    have hfollow := (following ht maxLinks rfl).eq_ok hfits (hpassed ▸ h.directories)
    have habove : tree.entry? (destination [] init) = some .directory := by
      by_cases hempty : init = []
      · subst hempty
        rfl
      · refine h.directories _ ?_
        rw [hsteps, List.dropLast_concat]
        exact destination_mem_passed [] hempty
    have hplace : place p = next (destination [] init) last := by
      rw [place, hsteps, destination_append]
      rfl
    rw [makeDirectory_eq home tree hp h.no_fault hsteps, hfollow, destination_append, destination_cons,
      next_directoryMark, destination_nil, hplace]
    exact makeInside_of_fits ht habove (of_mem_steps hlast).1 (h.fits last hlast)

/-- Elsewhere no directory is made, and where one could be made that is because one around it is missing. -/
theorem exists_fault_of_not_reachesAround (h : ¬ tree.ReachesAround p) :
    ∃ fault, tree.makeDirectory home p = .error fault ∧ (tree.Admits p → fault = .notFound) := by
  cases hfault : pathFault? p with
  | some fault =>
    refine ⟨fault, ?_, fun hadmits => by simp [hadmits.no_fault] at hfault⟩
    simp [makeDirectory, locateParent, hfault, bind, Except.bind]
  | none =>
    rcases List.eq_nil_or_concat (steps p) with hnil | ⟨init, last, hsteps⟩
    · exact absurd ⟨hfault, by simp [hnil], by simp [hnil, passed]⟩ h
    · rw [List.concat_eq_append] at hsteps
      have hpassed : (steps p).dropLast = (init ++ [directoryMark]).dropLast := by simp [hsteps]
      have hfollowing : Following tree [] (init ++ [directoryMark])
          (tree.follow .finding maxLinks [] (init ++ [directoryMark])) := following ht maxLinks rfl
      rw [makeDirectory_eq home tree hp hfault hsteps]
      generalize tree.follow .finding maxLinks [] (init ++ [directoryMark]) = result at hfollowing
      cases hfollowing with
      | tooLong step mem long =>
        refine ⟨.nameTooLong, rfl, fun hadmits => absurd long (Nat.not_lt.2 ?_)⟩
        rcases List.mem_append.1 mem with hstep | hstep
        · exact hadmits.fits step (by simp [hsteps, hstep])
        · rw [List.mem_singleton.1 hstep]
          decide
      | missing q mem none => exact ⟨.notFound, rfl, fun _ => rfl⟩
      | blocked q content mem file =>
        have hq : q ∈ passed [] (steps p) := way_subset p (passed_dropLast_subset_way p (hpassed ▸ mem))
        exact ⟨.notDirectory, rfl, fun hadmits => absurd file (hadmits.no_file q hq content)⟩
      | arrives fits directories =>
        -- As all directories around it are there, it is the last step itself that is too long.
        have hlong : maxNameBytes < byteSize last := by
          refine Nat.not_le.1 fun hlast => h ⟨hfault, fun step hstep => ?_, hpassed ▸ directories⟩
          rw [hsteps] at hstep
          rcases List.mem_append.1 hstep with hstep | hstep
          · exact fits step (List.mem_append_left _ hstep)
          · exact List.mem_singleton.1 hstep ▸ hlast
        have hmem : last ∈ steps p := by simp [hsteps]
        exact ⟨.nameTooLong, makeInside_of_long tree _ hlong,
          fun hadmits => absurd hlong (Nat.not_lt.2 (hadmits.fits last hmem))⟩

/-- Making a directory changes nothing but the location of its path. -/
theorem grows_makeDirectory {tree' : FileTree} (h : tree.makeDirectory home p = .ok tree') :
    Grows [] (passed [] (steps p)) tree tree' := by
  by_cases haround : tree.ReachesAround p
  · rw [makeDirectory_of_reachesAround ht home hp haround] at h
    cases hentry : tree.entry? (place p) with
    | some entry => simp [hentry] at h
    | none =>
      obtain rfl : tree.set (place p) .directory = tree' := by simpa [hentry] using h
      rcases haround.directory_or_name ht hp with ⟨-, hdir⟩ | ⟨above, name, -, hplace, habove, hname⟩
      · simp [hdir] at hentry
      · have hne : steps p ≠ [] := by
          intro hnil
          simp [place, hnil] at hplace
        have hmem : place p ∈ passed [] (steps p) := destination_mem_passed [] hne
        rw [hplace] at hentry hmem ⊢
        exact (grows_set_directory ht habove hname hentry).mono (List.Subset.refl _)
          (List.cons_subset.2 ⟨hmem, List.nil_subset _⟩)
  · obtain ⟨fault, heq, -⟩ := exists_fault_of_not_reachesAround ht home hp haround
    simp [heq] at h

/-- Making sure of a directory changes nothing but the location of its path. -/
theorem grows_ensureDirectory : Grows [] (passed [] (steps p)) tree (tree.ensureDirectory home p).1 := by
  unfold ensureDirectory
  cases hmake : tree.makeDirectory home p with
  | ok next => exact grows_makeDirectory ht home hp hmake
  | error fault => exact .refl ht

/-- There is a directory in the end where the location around the last step can be reached and no file
is in the way. -/
theorem ensureDirectory_of_reachesAround (h : tree.ReachesAround p)
    (hfile : ∀ content, tree.entry? (place p) ≠ some (.file content)) :
    ∃ tree', tree.ensureDirectory home p = (tree', none) ∧ tree'.entry? (place p) = some .directory := by
  have heq := makeDirectory_of_reachesAround ht home hp h
  rcases ht.entry?_cases (place p) with hentry | hentry | ⟨content, hentry⟩
  · refine ⟨tree.set (place p) .directory, ?_, ?_⟩
    · simp [ensureDirectory, heq, hentry]
    · rw [entry?_set, if_pos rfl]
      intro hroot
      simp [hroot] at hentry
  · have hdir : tree.isDirectory home p = true :=
      (isDirectory_eq_true_iff ht hp).2 ⟨h.reaches hentry, hentry⟩
    exact ⟨tree, by simp [ensureDirectory, heq, hentry, hdir], hentry⟩
  · exact absurd hentry (hfile content)

/-- A directory around which one is missing is not made. -/
theorem ensureDirectory_of_not_reachesAround (h : ¬ tree.ReachesAround p) (hadmits : tree.Admits p) :
    tree.ensureDirectory home p = (tree, some .notFound) := by
  obtain ⟨fault, heq, hfault⟩ := exists_fault_of_not_reachesAround ht home hp h
  have hdir : tree.isDirectory home p = false := by
    refine Bool.eq_false_iff.2 fun hdir => h ?_
    exact ((isDirectory_eq_true_iff ht hp).1 hdir).1.around
  simp [ensureDirectory, heq, hdir, hfault hadmits]

omit ht in
/-- Nothing is left to do where the location around the last step can be reached, once directories are made
where the steps come to. -/
theorem ensureDirectory_of_grows {tree' : FileTree} (hadmits : tree.Admits p)
    (hgrows : Grows [] (passed [] (steps p)) tree tree') (h : tree'.ReachesAround p) :
    ∃ tree'', tree'.ensureDirectory home p = (tree'', none) ∧
      ∀ q ∈ passed [] (steps p), tree''.entry? q = some .directory := by
  have hfile : ∀ content, tree'.entry? (place p) ≠ some (.file content) := by
    intro content hentry
    rw [hgrows.file_iff List.not_mem_nil] at hentry
    by_cases hnil : steps p = []
    · simp [place, hnil] at hentry
    · exact hadmits.no_file _ (destination_mem_passed [] hnil) content hentry
  obtain ⟨tree'', heq, hdir⟩ := ensureDirectory_of_reachesAround hgrows.ordinary home hp h hfile
  have hensure := grows_ensureDirectory hgrows.ordinary home hp
  rw [heq] at hensure
  exact ⟨tree'', heq, (h.mono fun q => hensure.directory).passed_directory hdir⟩

end OneDirectory

/-! ## Making all directories of a path -/

/-- The directories around an absolute path are at absolute paths, and their steps come to nothing new. -/
theorem of_mem_ancestorsWithin {limit : Nat} {p q : Text} (hp : isAbsolute p = true)
    (h : q ∈ ancestorsWithin limit p) : isAbsolute q = true ∧ passed [] (steps q) ⊆ passed [] (steps p) := by
  induction limit generalizing p with
  | zero =>
    obtain rfl : q = p := by simpa [ancestorsWithin] using h
    exact ⟨hp, List.Subset.refl _⟩
  | succ limit ih =>
    rw [ancestorsWithin] at h
    cases hparent : parent? p with
    | none =>
      obtain rfl : q = p := by simpa [hparent] using h
      exact ⟨hp, List.Subset.refl _⟩
    | some outer =>
      rw [hparent] at h
      rcases List.mem_cons.1 h with rfl | h
      · exact ⟨hp, List.Subset.refl _⟩
      · obtain ⟨before, step, tail, k, hends, houter, -, hbefore, -⟩ := exists_of_parent?_eq_some hp hparent
        obtain ⟨n, hsteps⟩ := hends.steps_eq
        obtain ⟨hq, hsubset⟩ := ih houter h
        refine ⟨hq, fun r hr => ?_⟩
        rw [hsteps, hbefore, List.append_assoc, passed_append]
        exact List.mem_append_left _ (hsubset hr)

/-- Making the first of some directories changes nothing but what their steps come to. -/
theorem grows_makeFirst {tree : FileTree} (ht : tree.IsOrdinary) (home : Location) {dirs : List Location}
    {ps : List Text} (h : ∀ p ∈ ps, isAbsolute p = true ∧ passed [] (steps p) ⊆ dirs) :
    Grows [] dirs tree (tree.makeFirst home ps).1 := by
  induction ps generalizing tree with
  | nil => exact .refl ht
  | cons p outer ih =>
    obtain ⟨hp, hdirs⟩ := h p List.mem_cons_self
    have hensure : ∀ {t : FileTree}, t.IsOrdinary → Grows [] dirs t (t.ensureDirectory home p).1 := fun ht' =>
      (grows_ensureDirectory ht' home hp).mono (List.Subset.refl _) hdirs
    have houter := ih ht fun q hq => h q (List.mem_cons_of_mem p hq)
    unfold makeFirst
    split
    · exact .refl ht
    · split
      · split
        · next next hnext =>
          rw [hnext] at houter
          exact houter.trans (hensure houter.ordinary)
        · exact houter
      · exact hensure ht

/-- Making the directories of a path changes nothing but what its steps come to. -/
theorem grows_makeDirectories {tree : FileTree} (ht : tree.IsOrdinary) (home : Location) {p : Text}
    (hp : isAbsolute p = true) : Grows [] (passed [] (steps p)) tree (tree.makeDirectories home p).1 :=
  grows_makeFirst ht home fun _ hq => of_mem_ancestorsWithin hp hq

/-- Directories can be made around a path where they come to no file. -/
theorem admits_outer {tree : FileTree} {p outer : Text} {after : List Text} (hfault : pathFault? p = none)
    (hfits : ∀ step ∈ steps p, byteSize step ≤ maxNameBytes) (houter : isAbsolute outer = true)
    (hbegins : outer <+: p)
    (hsteps : steps p = steps outer ++ after)
    (hfile : ∀ q ∈ passed [] (steps outer), ∀ content, tree.entry? q ≠ some (.file content)) :
    tree.Admits outer := by
  have hno := pathFault?_of_begins hfault hbegins (ne_nil_of_isAbsolute houter)
  refine ⟨hno, fun step hstep => hfits step ?_, hfile⟩
  rw [hsteps]
  exact List.mem_append_left _ hstep

/-- A path and the directories around it can be made, outermost first, where no file is in the way. -/
theorem makeFirst_ancestorsWithin {tree : FileTree} (ht : tree.IsOrdinary) (home : Location) {limit : Nat}
    {p : Text}
    (hlimit : p.length ≤ limit) (hp : isAbsolute p = true) (hadmits : tree.Admits p)
    (hstay : (steps p).getLast? ≠ some stay) :
    ∃ tree', tree.makeFirst home (ancestorsWithin limit p) = (tree', none) ∧
      ∀ q ∈ passed [] (steps p), tree'.entry? q = some .directory := by
  -- By induction on the limit: where a directory around the path is missing, those around it are made first.
  induction limit generalizing p with
  | zero => exact absurd (List.eq_nil_of_length_eq_zero (Nat.le_zero.1 hlimit)) (ne_nil_of_isAbsolute hp)
  | succ limit ih =>
    have hempty : p.isEmpty = false := by simpa using ne_nil_of_isAbsolute hp
    by_cases haround : tree.ReachesAround p
    · obtain ⟨tree', heq, hdirs⟩ := ensureDirectory_of_grows home hp hadmits (.refl ht) haround
      refine ⟨tree', ?_, hdirs⟩
      cases hparent : parent? p <;> simp [ancestorsWithin, hparent, makeFirst, hempty, heq]
    · have hensure := ensureDirectory_of_not_reachesAround ht home hp haround hadmits
      cases hparent : parent? p with
      | none =>
        obtain ⟨n, hsteps⟩ := steps_of_parent?_eq_none hparent
        refine absurd ⟨hadmits.no_fault, hadmits.fits, fun q hq => ?_⟩ haround
        rw [hsteps, List.dropLast_replicate] at hq
        rw [eq_of_mem_passed_stay hq]
        rfl
      | some outer =>
        obtain ⟨houter, hbegins, hshorter, hlast, step, k, hsteps⟩ :=
          exists_of_parent?_of_getLast? hp hparent hstay
        have hsplit : steps p = steps outer ++ (List.replicate k stay ++ [step]) := by
          rw [hsteps, List.append_assoc]
        have hinner : passed [] (steps outer) ⊆ passed [] (steps p) := by
          rw [hsplit, passed_append]
          exact List.subset_append_left _ _
        have houteradmits := admits_outer hadmits.no_fault hadmits.fits houter hbegins hsplit fun q hq =>
          hadmits.no_file q (hinner hq)
        obtain ⟨next, hnext, hdirs⟩ := ih (by omega) houter houteradmits hlast
        have hgrows : Grows [] (passed [] (steps p)) tree
            (tree.makeFirst home (ancestorsWithin limit outer)).1 := by
          refine grows_makeFirst ht home fun q hq => ?_
          exact (of_mem_ancestorsWithin houter hq).imp_right fun hsubset => List.Subset.trans hsubset hinner
        rw [hnext] at hgrows
        have hnextaround := reachesAround_of_passed hadmits.no_fault hadmits.fits hsteps hdirs
        obtain ⟨tree', heq, hall⟩ := ensureDirectory_of_grows home hp hadmits hgrows hnextaround
        exact ⟨tree', by simp [ancestorsWithin, hparent, makeFirst, hempty, hensure, hnext, heq], hall⟩

/-- The directories of a path can be made where no file is in the way, if the path does not end in a dot. -/
theorem makeDirectories_succeeds {tree : FileTree} (ht : tree.IsOrdinary) (home : Location) {p : Text}
    (hp : isAbsolute p = true) (hadmits : tree.Admits p) (hstay : (steps p).getLast? ≠ some stay) :
    ∃ tree', tree.makeDirectories home p = (tree', none) ∧
      ∀ q ∈ passed [] (steps p), tree'.entry? q = some .directory :=
  makeFirst_ancestorsWithin ht home (Nat.le_refl _) hp hadmits hstay

end InterfaceGen.FileTree
