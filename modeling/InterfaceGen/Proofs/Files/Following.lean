import InterfaceGen.Proofs.Files.Places

/-!
# Following paths in ordinary trees

In an ordinary tree every entry is in a directory and there are no links.  There a path is followed if its
steps fit and all locations on its way are directories, and it leads to its place then.

Main definitions:

- `FileTree.IsOrdinary`: the trees without links whose entries are in directories.
- `FileTree.Following`: what can come of following steps.
- `FileTree.Reaches`, `FileTree.ReachesAround`: the paths that can be followed in a tree, and those that
  can be followed up to their last step.

Main results:

- Theorem `following`: what following steps comes to, with the reason for it.
- Theorem `locate_eq_ok_iff`: a path leads to its place if it can be followed, and else nowhere.
- Theorem `ReachesAround.directory_or_name`: such a path leads to a directory, or to a name in one.
-/

namespace InterfaceGen.FileTree

open InterfaceGen.Path Text

/-! ## Ordinary trees -/

/-- The trees as a disk without links holds them: every entry has a name and is in a directory. -/
structure IsOrdinary (tree : FileTree) : Prop where
  no_link : ∀ {q : Location} {target : Text}, tree.entry? q ≠ some (.link target)
  is_name : ∀ {q : Location} {name : Text} {entry : Entry},
    tree.entry? (q ++ [name]) = some entry → IsName name
  enclosed : ∀ {q : Location} {name : Text} {entry : Entry},
    tree.entry? (q ++ [name]) = some entry → tree.entry? q = some .directory

/-- The root is a directory. -/
@[simp] theorem entry?_nil (tree : FileTree) : tree.entry? [] = some .directory := rfl

/-- There is nothing below the root of the empty tree. -/
theorem eq_of_entry?_empty {q : Location} {entry : Entry} (h : empty.entry? q = some entry) :
    q = [] ∧ entry = .directory := by
  by_cases hq : q = []
  · subst hq
    exact ⟨rfl, (Option.some.inj h).symm⟩
  · simp [FileTree.entry?, hq, empty, SortedMap.find?, SortedMap.empty] at h

/-- The tree with nothing below the root is ordinary. -/
theorem isOrdinary_empty : empty.IsOrdinary := by
  constructor
  · intro q target h
    cases (eq_of_entry?_empty h).2
  · intro q name entry h
    exact absurd (eq_of_entry?_empty h).1 (by simp)
  · intro q name entry h
    exact absurd (eq_of_entry?_empty h).1 (by simp)

/-- An entry is a directory or a file, if there is one. -/
theorem IsOrdinary.entry?_cases {tree : FileTree} (ht : tree.IsOrdinary) (q : Location) :
    tree.entry? q = none ∨ tree.entry? q = some .directory ∨
      ∃ content, tree.entry? q = some (.file content) := by
  cases h : tree.entry? q with
  | none => exact .inl rfl
  | some entry =>
    cases entry with
    | file content => exact .inr (.inr ⟨content, rfl⟩)
    | directory => exact .inr (.inl rfl)
    | link target => exact absurd h ht.no_link

/-- A directory is in a directory. -/
theorem IsOrdinary.directory_dropLast {tree : FileTree} (ht : tree.IsOrdinary) {q : Location}
    (h : tree.entry? q = some .directory) : tree.entry? q.dropLast = some .directory := by
  rcases List.eq_nil_or_concat q with rfl | ⟨above, name, rfl⟩
  · exact h
  · rw [List.concat_eq_append] at h ⊢
    rw [List.dropLast_concat]
    exact ht.enclosed h

/-- All locations above an entry are directories, and the names below them are names of entries. -/
theorem IsOrdinary.above_entry {tree : FileTree} (ht : tree.IsOrdinary) {q : Location} {names : List Text}
    {entry : Entry} (h : tree.entry? (q ++ names) = some entry) :
    (∀ name ∈ names, IsName name) ∧
      ∀ before after, names = before ++ after → after ≠ [] → tree.entry? (q ++ before) = some .directory := by
  induction names generalizing q with
  | nil =>
    refine ⟨by simp, fun before after hsplit hafter => ?_⟩
    exact absurd (List.append_eq_nil_iff.1 hsplit.symm).2 hafter
  | cons name rest ih =>
    rw [List.append_cons] at h
    obtain ⟨hrest, habove⟩ := ih h
    obtain ⟨inner, hinner⟩ : ∃ inner, tree.entry? (q ++ [name]) = some inner := by
      by_cases hempty : rest = []
      · subst hempty
        exact ⟨entry, by rwa [List.append_nil] at h⟩
      · exact ⟨.directory, by simpa using habove [] rest rfl hempty⟩
    refine ⟨List.forall_mem_cons.2 ⟨ht.is_name hinner, hrest⟩, fun before after hsplit hafter => ?_⟩
    cases before with
    | nil => simpa using ht.enclosed hinner
    | cons n before =>
      obtain ⟨rfl, hinside⟩ := List.cons.inj hsplit
      rw [List.append_cons]
      exact habove before after hinside hafter

/-! ## Following steps -/

/-- What can come of following steps from a directory: they lead to their destination, unless one of them
is too long or a location that they have to go through is no directory. -/
inductive Following (tree : FileTree) (dir : Location) (steps : List Text) : Except FileError Location → Prop
  | arrives (fits : ∀ step ∈ steps, byteSize step ≤ maxNameBytes)
      (directories : ∀ q ∈ passed dir steps.dropLast, tree.entry? q = some .directory) :
      Following tree dir steps (.ok (destination dir steps))
  | tooLong (step : Text) (mem : step ∈ steps) (long : maxNameBytes < byteSize step) :
      Following tree dir steps (.error .nameTooLong)
  | missing (q : Location) (mem : q ∈ passed dir steps.dropLast) (none : tree.entry? q = none) :
      Following tree dir steps (.error .notFound)
  | blocked (q : Location) (content : Content) (mem : q ∈ passed dir steps.dropLast)
      (file : tree.entry? q = some (.file content)) : Following tree dir steps (.error .notDirectory)

namespace Following

variable {tree : FileTree} {dir : Location} {step : Text} {rest : List Text}
    {result : Except FileError Location}

/-- A step that leads to a directory may stand before others. -/
theorem cons (hfits : byteSize step ≤ maxNameBytes) (hnext : tree.entry? (next dir step) = some .directory)
    (h : Following tree (next dir step) rest result) : Following tree dir (step :: rest) result := by
  have hmem : ∀ q ∈ passed (next dir step) rest.dropLast, q ∈ passed dir (step :: rest).dropLast := by
    intro q hq
    cases rest with
    | nil => cases hq
    | cons r rs => exact List.mem_cons_of_mem _ hq
  cases h with
  | arrives fits directories =>
    refine .arrives (List.forall_mem_cons.2 ⟨hfits, fits⟩) fun q hq => ?_
    cases rest with
    | nil => cases hq
    | cons r rs => exact (List.mem_cons.1 hq).elim (fun heq => heq ▸ hnext) (directories q)
  | tooLong s mem long => exact .tooLong s (List.mem_cons_of_mem step mem) long
  | missing q mem none => exact .missing q (hmem q mem) none
  | blocked q content mem file => exact .blocked q content (hmem q mem) file

/-- Steps that fit lead to their destination if all locations that they have to go through are directories. -/
theorem eq_ok {steps : List Text} (h : Following tree dir steps result)
    (hfits : ∀ step ∈ steps, byteSize step ≤ maxNameBytes)
    (hdirs : ∀ q ∈ passed dir steps.dropLast, tree.entry? q = some .directory) :
    result = .ok (destination dir steps) := by
  cases h with
  | arrives fits directories => rfl
  | tooLong step mem long => exact absurd (hfits step mem) (Nat.not_le.2 long)
  | missing q mem none => simp [hdirs q mem] at none
  | blocked q content mem file => simp [hdirs q mem] at file

/-- Steps that lead somewhere fit and go through directories, to their destination. -/
theorem of_ok {steps : List Text} {q : Location} (h : Following tree dir steps (.ok q)) :
    (∀ step ∈ steps, byteSize step ≤ maxNameBytes) ∧
      (∀ q ∈ passed dir steps.dropLast, tree.entry? q = some .directory) ∧ q = destination dir steps := by
  cases h with
  | arrives fits directories => exact ⟨fits, directories, rfl⟩

end Following

/-- The purpose of writing differs for a path that is marked as a directory only. -/
theorem follow_writing {tree : FileTree} (ht : tree.IsOrdinary) (links : Nat) (dir : Location)
    (steps : List Text) :
    tree.follow .writing links dir steps = tree.follow .finding links dir steps ∨
      tree.follow .writing links dir steps = .error .isDirectory ∧ steps.getLast? = some directoryMark := by
  induction steps generalizing dir with
  | nil => exact .inl (by rw [follow, follow])
  | cons step rest ih =>
    have hlast : ∀ s, rest.getLast? = some s → (step :: rest).getLast? = some s := by
      intro s hs
      rw [List.getLast?_cons, hs]
      rfl
    have hrest := fun d => (ih d).imp_right (And.imp_right (hlast _))
    rw [follow, follow]
    by_cases hidle : step = stay ∨ step = directoryMark
    · simpa only [if_pos hidle] using hrest dir
    · by_cases hup : step = up
      · simpa only [if_neg hidle, if_pos hup] using hrest dir.dropLast
      · simp only [if_neg hidle, if_neg hup, true_and, reduceCtorEq, false_and, if_false]
        by_cases hmark : rest = [directoryMark]
        · exact .inr ⟨if_pos hmark, hlast _ (hmark ▸ rfl)⟩
        · rw [if_neg hmark]
          by_cases hlong : maxNameBytes < byteSize step
          · simp only [if_pos hlong, true_or]
          · simp only [if_neg hlong]
            rcases ht.entry?_cases (dir ++ [step]) with hentry | hentry | ⟨content, hentry⟩ <;>
              simp only [hentry, true_or]
            exact hrest (dir ++ [step])

/-- Following steps from a directory comes to one of its outcomes. -/
theorem following {tree : FileTree} (ht : tree.IsOrdinary) (links : Nat) {dir : Location} {steps : List Text}
    (hdir : tree.entry? dir = some .directory) :
    Following tree dir steps (tree.follow .finding links dir steps) := by
  induction steps generalizing dir with
  | nil =>
    rw [follow]
    exact .arrives (by simp) (by simp [passed])
  | cons step rest ih =>
    rw [follow]
    by_cases hidle : step = stay ∨ step = directoryMark
    · have hfits : byteSize step ≤ maxNameBytes := by rcases hidle with rfl | rfl <;> decide
      have hnext : next dir step = dir := if_pos hidle
      rw [if_pos hidle]
      exact .cons hfits (by rwa [hnext]) (by rw [hnext]; exact ih hdir)
    · by_cases hup : step = up
      · subst hup
        rw [if_neg hidle, if_pos rfl]
        exact .cons (by decide) (ht.directory_dropLast hdir) (ih (ht.directory_dropLast hdir))
      · have hnext : next dir step = dir ++ [step] := by rw [next, if_neg hidle, if_neg hup]
        rw [if_neg hidle, if_neg hup, if_neg (by simp)]
        by_cases hlong : maxNameBytes < byteSize step
        · rw [if_pos hlong]
          exact .tooLong step List.mem_cons_self hlong
        · have hfits := Nat.not_lt.1 hlong
          -- A location that is no directory is in the way only if there are more steps to take.
          have hend : ∀ {error}, (rest ≠ [] → Following tree dir (step :: rest) (.error error)) →
              Following tree dir (step :: rest)
                (if rest.isEmpty then .ok (dir ++ [step]) else .error error) := by
            intro error herror
            cases rest with
            | nil =>
              rw [← hnext]
              exact .arrives (by simpa using hfits) (by simp [passed])
            | cons r rs => exact herror (List.cons_ne_nil r rs)
          have hmem : rest ≠ [] → dir ++ [step] ∈ passed dir (step :: rest).dropLast := by
            intro hne
            rw [List.dropLast_cons_of_ne_nil hne, passed, hnext]
            exact List.mem_cons_self
          rw [if_neg hlong]
          rcases ht.entry?_cases (dir ++ [step]) with hentry | hentry | ⟨content, hentry⟩ <;>
            simp only [hentry]
          · exact hend fun hne => .missing _ (hmem hne) hentry
          · exact .cons hfits (by rwa [hnext]) (by rw [hnext]; exact ih hentry)
          · exact hend fun hne => .blocked _ content (hmem hne) hentry

/-! ## Following paths -/

/-- Whether a path can be followed in a tree: it is no faulty path, its steps fit, and the locations on its
way are directories. -/
structure Reaches (tree : FileTree) (p : Text) : Prop where
  no_fault : pathFault? p = none
  fits : ∀ step ∈ steps p, byteSize step ≤ maxNameBytes
  directories : ∀ q ∈ way p, tree.entry? q = some .directory

/-- A path has no fault if it is not empty, has no character with the code zero and is short enough. -/
theorem pathFault?_eq_none_iff {p : Text} :
    pathFault? p = none ↔ '\x00' ∉ p ∧ p ≠ [] ∧ byteSize p ≤ maxPathBytes := by
  unfold pathFault?
  by_cases hnul : '\x00' ∈ p
  · simp [hnul]
  · by_cases hempty : p = []
    · simp [hempty]
    · by_cases hlong : maxPathBytes < byteSize p
      · simp [hnul, hempty, hlong]
      · simp [hnul, hempty, Nat.not_lt.1 hlong]

/-- The beginning of a path without a fault has none either. -/
theorem pathFault?_of_begins {p q : Text} (h : pathFault? p = none) (hq : q <+: p) (hne : q ≠ []) :
    pathFault? q = none := by
  obtain ⟨hnul, -, hshort⟩ := pathFault?_eq_none_iff.1 h
  obtain ⟨rest, rfl⟩ := hq
  rw [byteSize_append] at hshort
  exact pathFault?_eq_none_iff.2 ⟨fun hmem => hnul (List.mem_append_left _ hmem), hne, by omega⟩

/-- A path can still be followed where all directories have stayed. -/
theorem Reaches.mono {tree tree' : FileTree} {p : Text} (h : tree.Reaches p)
    (hdirs : ∀ q, tree.entry? q = some .directory → tree'.entry? q = some .directory) : tree'.Reaches p :=
  ⟨h.no_fault, h.fits, fun q hq => hdirs q (h.directories q hq)⟩

section Locating

variable {tree : FileTree} (ht : tree.IsOrdinary) {p : Text} (hp : isAbsolute p = true)
include ht hp

/-- A path leads to its place if it can be followed, and nowhere else. -/
theorem locate_eq_ok_iff {home q : Location} : tree.locate home p = .ok q ↔ tree.Reaches p ∧ q = place p := by
  cases hfault : pathFault? p with
  | some fault =>
    have hlocate : tree.locate home p = .error fault := by rw [locate, locateFor, hfault]
    have hnot : ¬ tree.Reaches p := fun h => by simp [h.no_fault] at hfault
    simp [hlocate, hnot]
  | none =>
    have hfollowing : Following tree [] (markedSteps p) (tree.locate home p) := by
      rw [locate, locateFor, hfault, origin, if_pos hp]
      exact following ht maxLinks rfl
    constructor
    · intro h
      rw [h] at hfollowing
      obtain ⟨hfits, hdirs, rfl⟩ := hfollowing.of_ok
      have hreaches : tree.Reaches p := ⟨hfault, fun step hs => hfits step (List.mem_append_left _ hs), hdirs⟩
      exact ⟨hreaches, destination_markedSteps p⟩
    · rintro ⟨h, rfl⟩
      have hfits : ∀ step ∈ markedSteps p, byteSize step ≤ maxNameBytes := by
        intro step hstep
        rcases List.mem_append.1 hstep with hstep | hstep
        · exact h.fits step hstep
        · have hmark : step = directoryMark := by
            split at hstep
            · exact List.mem_singleton.1 hstep
            · cases hstep
          rw [hmark]
          decide
      rw [hfollowing.eq_ok hfits h.directories, destination_markedSteps]

/-- A file is written at the place of a path that can be followed. -/
theorem reaches_of_locateFor_writing {home q : Location} (h : tree.locateFor .writing home p = .ok q) :
    tree.Reaches p ∧ q = place p := by
  rw [← locate_eq_ok_iff ht hp, locate]
  unfold locateFor at h ⊢
  cases hfault : pathFault? p with
  | some fault => simp [hfault] at h
  | none =>
    simp only [hfault] at h ⊢
    rcases follow_writing ht maxLinks (origin home p) (markedSteps p) with hsame | ⟨herror, -⟩
    · rw [← hsame, h]
    · simp [herror] at h

/-- A file can be written at a path that can be followed and does not end in a slash. -/
theorem locateFor_writing_of_reaches {home : Location} (h : tree.Reaches p)
    (hslash : endsWithSlash p = false) :
    tree.locateFor .writing home p = .ok (place p) := by
  have hlocate : tree.locate home p = .ok (place p) := (locate_eq_ok_iff ht hp).2 ⟨h, rfl⟩
  unfold locate locateFor at hlocate
  unfold locateFor
  simp only [h.no_fault] at hlocate ⊢
  rcases follow_writing ht maxLinks (origin home p) (markedSteps p) with hsame | ⟨-, hmark⟩
  · rw [hsame, hlocate]
  · rw [markedSteps, hslash, if_neg Bool.false_ne_true, List.append_nil] at hmark
    exact absurd rfl (of_mem_steps (List.mem_of_getLast? hmark)).1

/-- What there is where a path leads is what there is at its place. -/
theorem find?_eq_some_iff {home : Location} {entry : Entry} :
    tree.find? home p = some entry ↔ tree.Reaches p ∧ tree.entry? (place p) = some entry := by
  unfold find?
  cases hlocate : tree.locate home p with
  | error fault =>
    have hnot : ¬ tree.Reaches p := by
      intro h
      rw [(locate_eq_ok_iff ht hp).2 ⟨h, rfl⟩] at hlocate
      cases hlocate
    simp [hnot]
  | ok q =>
    obtain ⟨hreaches, rfl⟩ := (locate_eq_ok_iff ht hp).1 hlocate
    simp [hreaches]

/-- There is something at a path if it can be followed to an entry. -/
theorem pathExists_iff {home : Location} :
    tree.pathExists home p = true ↔ tree.Reaches p ∧ ∃ entry, tree.entry? (place p) = some entry := by
  rw [pathExists, Option.isSome_iff_exists]
  simp only [find?_eq_some_iff ht hp, exists_and_left]

/-- A path leads to a directory if it can be followed and there is one at its place. -/
theorem isDirectory_eq_true_iff {home : Location} :
    tree.isDirectory home p = true ↔ tree.Reaches p ∧ tree.entry? (place p) = some .directory := by
  rw [isDirectory, beq_iff_eq, find?_eq_some_iff ht hp]

end Locating

/-! ## Where paths lead -/

/-- Whether the location around the last step of a path can be reached in a tree. -/
structure ReachesAround (tree : FileTree) (p : Text) : Prop where
  no_fault : pathFault? p = none
  fits : ∀ step ∈ steps p, byteSize step ≤ maxNameBytes
  directories : ∀ q ∈ passed [] (steps p).dropLast, tree.entry? q = some .directory

/-- Where a path can be followed, the location around its last step can be reached. -/
theorem Reaches.around {tree : FileTree} {p : Text} (h : tree.Reaches p) : tree.ReachesAround p :=
  ⟨h.no_fault, h.fits, fun q hq => h.directories q (passed_dropLast_subset_way p hq)⟩

/-- The location around the last step can still be reached where all directories have stayed. -/
theorem ReachesAround.mono {tree tree' : FileTree} {p : Text} (h : tree.ReachesAround p)
    (hdirs : ∀ q, tree.entry? q = some .directory → tree'.entry? q = some .directory) :
    tree'.ReachesAround p :=
  ⟨h.no_fault, h.fits, fun q hq => hdirs q (h.directories q hq)⟩

/-- All steps of a path that leads to a directory come to directories. -/
theorem ReachesAround.passed_directory {tree : FileTree} {p : Text} (h : tree.ReachesAround p)
    (hplace : tree.entry? (place p) = some .directory) :
    ∀ q ∈ passed [] (steps p), tree.entry? q = some .directory := by
  intro q hq
  rcases mem_dropLast_or_eq_destination hq with hinit | rfl
  · exact h.directories q hinit
  · exact hplace

/-- A path to a directory can be followed if the location around its last step can be reached. -/
theorem ReachesAround.reaches {tree : FileTree} {p : Text} (h : tree.ReachesAround p)
    (hplace : tree.entry? (place p) = some .directory) : tree.Reaches p :=
  ⟨h.no_fault, h.fits, fun q hq => h.passed_directory hplace q (way_subset p hq)⟩

/-- A path that does not end in a slash can be followed if the location around its last step can be
reached. -/
theorem ReachesAround.reaches_of_no_slash {tree : FileTree} {p : Text} (h : tree.ReachesAround p)
    (hslash : endsWithSlash p = false) : tree.Reaches p :=
  ⟨h.no_fault, h.fits, fun q hq => h.directories q (way_of_no_slash hslash ▸ hq)⟩

/-- The location around the last step of a path can be reached if all directories of the path of the
directory around it are there. -/
theorem reachesAround_of_passed {tree : FileTree} {p outer step : Text} {k : Nat}
    (hfault : pathFault? p = none)
    (hfits : ∀ step ∈ steps p, byteSize step ≤ maxNameBytes)
    (hsteps : steps p = steps outer ++ List.replicate k stay ++ [step])
    (hdirs : ∀ q ∈ passed [] (steps outer), tree.entry? q = some .directory) : tree.ReachesAround p := by
  refine ⟨hfault, hfits, fun q hq => ?_⟩
  rw [hsteps, List.dropLast_concat, passed_append, List.mem_append] at hq
  rcases hq with hq | hq
  · exact hdirs q hq
  · rw [eq_of_mem_passed_stay hq]
    by_cases hnil : steps outer = []
    · rw [hnil]
      rfl
    · exact hdirs _ (destination_mem_passed [] hnil)

/-- A path leads to a directory, or to the name at its end in a directory, if the location around its last
step can be reached. -/
theorem ReachesAround.directory_or_name {tree : FileTree} (ht : tree.IsOrdinary) {p : Text}
    (hp : isAbsolute p = true) (h : tree.ReachesAround p) :
    fileName? p = none ∧ tree.entry? (place p) = some .directory ∨
      ∃ above name, fileName? p = some name ∧ place p = above ++ [name] ∧
        tree.entry? above = some .directory ∧ IsName name := by
  have hbefore : ∀ before after, steps p = before ++ after → after ≠ [] →
      tree.entry? (destination [] before) = some .directory := by
    intro before after hsplit hafter
    by_cases hempty : before = []
    · subst hempty
      rfl
    · refine h.directories _ ?_
      rw [hsplit, List.dropLast_append_of_ne_nil hafter, passed_append]
      exact List.mem_append_left _ (destination_mem_passed [] hempty)
  rcases fileName?_cases hp with ⟨before, name, n, hlast, hsteps, hne, hslash, hstay, hup⟩ | ⟨hnone, hrest⟩
  · have hmem : name ∈ steps p := by simp [hsteps]
    have hnul := (pathFault?_eq_none_iff.1 h.no_fault).1
    have hname : IsName name :=
      ⟨hne, hslash, hstay, hup, fun hc => hnul (mem_of_mem_steps hmem hc), h.fits name hmem⟩
    have habove := hbefore before _ hsteps (List.cons_ne_nil _ _)
    refine .inr ⟨destination [] before, name, hlast, ?_, habove, hname⟩
    rw [place, hsteps, destination_append, destination_cons, destination_replicate_stay, next_name hname]
  · refine .inl ⟨hnone, ?_⟩
    rcases hrest with ⟨n, hsteps⟩ | ⟨before, n, hsteps⟩
    · rw [place, hsteps, destination_replicate_stay]
      rfl
    · rw [place, hsteps, destination_append, destination_cons, destination_replicate_stay, next_up]
      exact ht.directory_dropLast (hbefore before _ hsteps (List.cons_ne_nil _ _))

/-- What is below a path can be reached if its own path has no fault. -/
theorem Reaches.below {tree : FileTree} (ht : tree.IsOrdinary) {p : Text} (h : tree.Reaches p)
    {names : List Text} {entry : Entry} (hentry : tree.entry? (place p ++ names) = some entry)
    (hfault : pathFault? (below p names) = none) : tree.Reaches (below p names) := by
  rcases List.eq_nil_or_concat names with rfl | ⟨dirs, last, hsplit⟩
  · exact h
  · rw [List.concat_eq_append] at hsplit
    obtain ⟨hnames, habove⟩ := ht.above_entry hentry
    have hpath : p ≠ [] := (pathFault?_eq_none_iff.1 h.no_fault).2.1
    have hslash := endsWithSlash_below hnames hpath (by simp [hsplit])
    have hplace : tree.entry? (place p) = some .directory := by
      simpa using habove [] names rfl (by simp [hsplit])
    refine ⟨hfault, fun step hs => ?_, fun q hq => ?_⟩
    · rw [steps_below hnames] at hs
      exact (List.mem_append.1 hs).elim (h.fits step) fun hs => (hnames step hs).fits
    · rw [way_of_no_slash hslash, steps_below hnames, hsplit, ← List.append_assoc, List.dropLast_concat,
        passed_append, List.mem_append] at hq
      rcases hq with hq | hq
      · exact h.around.passed_directory hplace q hq
      · obtain ⟨before, after, hdirs, -, rfl⟩ :=
          of_mem_passed_names (fun n hn => hnames n (hsplit ▸ List.mem_append_left _ hn)) hq
        exact habove before (after ++ [last]) (by rw [hsplit, hdirs, List.append_assoc]) (by simp)

/-- The directory around a name that can be reached can be reached as well. -/
theorem Reaches.above {tree : FileTree} {p name : Text} (hp : p ≠ []) (hname : IsName name)
    (h : tree.Reaches (join p name)) : tree.Reaches p ∧ tree.entry? (place p) = some .directory := by
  have hnames : ∀ n ∈ [name], IsName n := List.forall_mem_singleton.2 hname
  have hjoin : Path.below p [name] = join p name := (place_join_name hp hname).1
  have hsteps : steps (join p name) = steps p ++ [name] := hjoin ▸ steps_below hnames p
  have hdirs : ∀ q ∈ passed [] (steps p), tree.entry? q = some .directory := fun q hq =>
    h.directories q (passed_subset_way hsteps (List.cons_ne_nil _ _) hq)
  constructor
  · refine ⟨pathFault?_of_begins h.no_fault (hjoin ▸ prefix_below hnames hp) hp, ?_, ?_⟩
    · intro step hstep
      apply h.fits
      rw [hsteps]
      exact List.mem_append_left _ hstep
    · exact fun q hq => hdirs q (way_subset p hq)
  · by_cases hroot : steps p = []
    · rw [place, hroot]
      rfl
    · exact hdirs _ (destination_mem_passed [] hroot)

end InterfaceGen.FileTree
