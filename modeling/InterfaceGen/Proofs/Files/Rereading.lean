import InterfaceGen.Proofs.Files.Changing
import InterfaceGen.Proofs.Results

/-!
# Reading what was written

A text that is written at a path is read at the same path, in any tree: if there are links on the path, writing
and reading follow them to the same place, and what is written there is not on the way.

Main definitions:

- `FileTree.Leads`: how steps lead to a place, through directories and by way of links.
- `FileTree.IsInside`: a location with directories all the way from the root.

Main results:

- Theorem `follow_finding_eq_ok_iff`: steps are followed to a place if and only if they lead there.
- Theorem `Leads.directory_or_no_link`: steps do not lead to a link.
- Theorem `Leads.set_file`: steps to a place still lead there once a file is there.
- Theorem `reads_written`: a text that is written at a path is read at the path.
-/

namespace InterfaceGen.FileTree

open InterfaceGen.Path Text

variable {tree : FileTree} {purpose : Purpose} {links : Nat} {dir place : Location} {step : Text}
  {steps rest : List Text}

/-! ## Leading to a place -/

/-- Whether a step is the name of something in a directory. -/
structure IsProper (step : Text) : Prop where
  not_idle : ¬ (step = stay ∨ step = directoryMark)
  not_up : step ≠ up
  fits : byteSize step ≤ maxNameBytes

/-- How steps lead from a directory to a place with at most so many links on the way. -/
inductive Leads (tree : FileTree) : Nat → Location → List Text → Location → Prop
  | arrives {links : Nat} {dir : Location} : Leads tree links dir [] dir
  | stays {links : Nat} {dir place : Location} {step : Text} {rest : List Text}
      (idle : step = stay ∨ step = directoryMark) (more : Leads tree links dir rest place) :
      Leads tree links dir (step :: rest) place
  | rises {links : Nat} {dir place : Location} {rest : List Text}
      (more : Leads tree links dir.dropLast rest place) : Leads tree links dir (up :: rest) place
  | ends {links : Nat} {dir : Location} {step : Text} (proper : IsProper step)
      (no_directory : tree.entry? (dir ++ [step]) ≠ some .directory)
      (no_link : ∀ target, tree.entry? (dir ++ [step]) ≠ some (.link target)) :
      Leads tree links dir [step] (dir ++ [step])
  | enters {links : Nat} {dir place : Location} {step : Text} {rest : List Text} (proper : IsProper step)
      (directory : tree.entry? (dir ++ [step]) = some .directory)
      (more : Leads tree links (dir ++ [step]) rest place) : Leads tree links dir (step :: rest) place
  | jumps {links : Nat} {dir place : Location} {step target : Text} {rest : List Text} (proper : IsProper step)
      (link : tree.entry? (dir ++ [step]) = some (.link target))
      (more : Leads tree links (if isAbsolute target then [] else dir) (markedSteps target ++ rest) place) :
      Leads tree (links + 1) dir (step :: rest) place

/-- Steps that are followed to a place lead there, for whatever purpose. -/
theorem leads_of_follow (h : tree.follow purpose links dir steps = .ok place) :
    tree.Leads links dir steps place := by
  fun_induction follow tree purpose links dir steps with
  | case1 links dir => exact Except.ok.inj h ▸ .arrives
  | case2 links dir step rest hidle ih => exact .stays hidle (ih h)
  | case3 links dir rest hidle ih => exact .rises (ih h)
  | case4 => cases h
  | case5 => cases h
  | case6 links dir step rest hidle hup hmark hlong place' hnone hlast =>
    obtain rfl := List.isEmpty_iff.1 hlast
    obtain rfl := Except.ok.inj h
    exact .ends ⟨hidle, hup, Nat.not_lt.1 hlong⟩ (by simp [place', hnone]) (by simp [place', hnone])
  | case7 => cases h
  | case8 links dir step rest hidle hup hmark hlong place' hdir ih =>
    exact .enters ⟨hidle, hup, Nat.not_lt.1 hlong⟩ hdir (ih h)
  | case9 links dir step rest hidle hup hmark hlong place' content hfile hlast =>
    obtain rfl := List.isEmpty_iff.1 hlast
    obtain rfl := Except.ok.inj h
    exact .ends ⟨hidle, hup, Nat.not_lt.1 hlong⟩ (by simp [place', hfile]) (by simp [place', hfile])
  | case10 => cases h
  | case11 => cases h
  | case12 dir step rest hidle hup hmark hlong place' target hlink links start ih =>
    exact .jumps ⟨hidle, hup, Nat.not_lt.1 hlong⟩ hlink (ih h)

/-- Steps are followed to a place where they lead. -/
theorem Leads.follow_eq_ok (h : tree.Leads links dir steps place) :
    tree.follow .finding links dir steps = .ok place := by
  induction h with
  | arrives => rw [follow]
  | stays idle more ih => rw [follow, if_pos idle, ih]
  | rises more ih => rw [follow, if_neg (by decide), if_pos rfl, ih]
  | @ends _ dir step proper no_directory no_link =>
    rw [follow, if_neg proper.not_idle, if_neg proper.not_up, if_neg (by simp), if_neg (Nat.not_lt.2 proper.fits)]
    cases hentry : tree.entry? (dir ++ [step]) with
    | none => simp only [hentry, List.isEmpty_nil, if_true]
    | some entry =>
      cases entry with
      | directory => exact absurd hentry no_directory
      | file content => simp only [hentry, List.isEmpty_nil, if_true]
      | link target => exact absurd hentry (no_link target)
  | enters proper directory more ih =>
    rw [follow, if_neg proper.not_idle, if_neg proper.not_up, if_neg (by simp), if_neg (Nat.not_lt.2 proper.fits)]
    simp only [directory, ih]
  | jumps proper link more ih =>
    rw [follow, if_neg proper.not_idle, if_neg proper.not_up, if_neg (by simp), if_neg (Nat.not_lt.2 proper.fits)]
    simp only [link, ih]

/-- Steps are followed to a place if and only if they lead there. -/
theorem follow_finding_eq_ok_iff :
    tree.follow .finding links dir steps = .ok place ↔ tree.Leads links dir steps place :=
  ⟨leads_of_follow, Leads.follow_eq_ok⟩

/-! ## Where steps lead -/

/-- All locations from the root to a location are directories, and so is the location itself. -/
def IsInside (tree : FileTree) (dir : Location) : Prop :=
  ∀ q, q <+: dir → tree.entry? q = some .directory

/-- There is nothing around the root. -/
theorem isInside_root (tree : FileTree) : tree.IsInside [] := by
  intro q hq
  rw [List.prefix_nil.1 hq, entry?_nil]

/-- There are directories all the way to the directory around another one. -/
theorem IsInside.dropLast (h : tree.IsInside dir) : tree.IsInside dir.dropLast :=
  fun q hq => h q (hq.trans dir.dropLast_prefix)

/-- There are directories all the way to a directory in another one. -/
theorem IsInside.concat (h : tree.IsInside dir) (hentry : tree.entry? (dir ++ [step]) = some .directory) :
    tree.IsInside (dir ++ [step]) := by
  intro q hq
  rcases List.prefix_concat_iff.1 hq with rfl | hq
  · exact hentry
  · exact h q hq

/-- Steps lead to a directory or to a place without a link, as links are followed. -/
theorem Leads.directory_or_no_link (h : tree.Leads links dir steps place) (hdir : tree.IsInside dir) :
    tree.entry? place = some .directory ∨ ∀ target, tree.entry? place ≠ some (.link target) := by
  induction h with
  | arrives => exact .inl (hdir _ (List.prefix_refl _))
  | stays idle more ih => exact ih hdir
  | rises more ih => exact ih hdir.dropLast
  | ends proper no_directory no_link => exact .inr no_link
  | enters proper directory more ih => exact ih (hdir.concat directory)
  | @jumps _ _ _ _ target _ proper link more ih =>
    apply ih
    cases isAbsolute target with
    | true => exact tree.isInside_root
    | false => exact hdir

/-- Steps to a place that is neither a directory nor a link still lead there once a file is there: the place is
not on the way. -/
theorem Leads.set_file (h : tree.Leads links dir steps place) (hroot : place ≠ [])
    (hdir : tree.entry? place ≠ some .directory) (hlink : ∀ target, tree.entry? place ≠ some (.link target))
    (content : Content) : (tree.set place (.file content)).Leads links dir steps place := by
  have hset := tree.entry?_set hroot (.file content)
  have hkeeps : ∀ q, tree.entry? q ≠ tree.entry? place →
      entry? (tree.set place (.file content)) q = tree.entry? q := by
    intro q hq
    rw [hset, if_neg fun heq => hq (congrArg tree.entry? heq)]
  induction h with
  | arrives => exact .arrives
  | stays idle more ih => exact .stays idle (ih hroot hdir hlink hset hkeeps)
  | rises more ih => exact .rises (ih hroot hdir hlink hset hkeeps)
  | ends proper no_directory no_link => exact .ends proper (by simp [hset]) (by simp [hset])
  | enters proper directory more ih =>
    have hsame := hkeeps _ fun heq => hdir (heq ▸ directory)
    exact .enters proper (hsame.trans directory) (ih hroot hdir hlink hset hkeeps)
  | jumps proper link more ih =>
    have hsame := hkeeps _ fun heq => hlink _ (heq ▸ link)
    exact .jumps proper (hsame.trans link) (ih hroot hdir hlink hset hkeeps)

/-! ## Texts -/

/-- A text that is written at a path is found and read at the path. -/
theorem reads_written {tree' : FileTree} {home : Location} {p t : Text} (hp : isAbsolute p = true)
    (h : tree.writeText home p t = .ok tree') :
    tree'.pathExists home p = true ∧ tree'.readText home p = .ok t := by
  unfold writeText at h
  obtain ⟨q, hlocate, hwrite⟩ := bind_eq_ok_iff.1 h
  have hdir : tree.entry? q ≠ some .directory := by
    intro hdir
    rw [hdir] at hwrite
    cases hwrite
  have hset : tree' = tree.set q (.file (.text t)) := by
    split at hwrite
    · cases hwrite
    · exact (Except.ok.inj hwrite).symm
  have hroot : q ≠ [] := by
    rintro rfl
    exact hdir rfl
  have hentry : tree'.entry? q = some (.file (.text t)) := by
    rw [hset, tree.entry?_set hroot, if_pos rfl]
  have hfound : tree'.locate home p = .ok q := by
    unfold locateFor at hlocate
    rw [locate, locateFor]
    cases hfault : pathFault? p with
    | some fault => simp [hfault] at hlocate
    | none =>
      simp only [hfault, origin, hp, if_true] at hlocate ⊢
      have hleads := leads_of_follow hlocate
      have hlink := (hleads.directory_or_no_link tree.isInside_root).resolve_left hdir
      rw [follow_finding_eq_ok_iff, hset]
      exact hleads.set_file hroot hdir hlink _
  constructor
  · simp [pathExists, find?, hfound, hentry]
  · simp only [readText, hfound, bind, Except.bind, hentry]
    rfl

end InterfaceGen.FileTree
