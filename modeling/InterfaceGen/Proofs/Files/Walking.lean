import InterfaceGen.Files.Walk
import InterfaceGen.Proofs.Files.Following

/-!
# Walking ordinary trees

A walk finds every entry below a directory once.  Only entries in directories whose paths are too long are
passed over.

Main results:

- Theorem `mem_belowWithin_iff` and `nodup_belowWithin`: what a walk finds down to a depth, each once.
- Theorem `mem_sources_iff` and `nodup_sources`: the entries at or below a path that have an extension.
-/

namespace InterfaceGen.FileTree

open InterfaceGen.Path Text

/-! ## Directories -/

/-- What is in a location is in it by one name. -/
theorem inside_eq_some_iff {key q : Location} {name : Text} :
    (if key.dropLast = q then key.getLast? else none) = some name ↔ key = q ++ [name] := by
  constructor
  · intro h
    split at h
    · next hq =>
      obtain ⟨init, rfl⟩ := List.getLast?_eq_some_iff.1 h
      rw [List.dropLast_concat] at hq
      rw [hq]
    · cases h
  · rintro rfl
    simp

/-- The names in a directory are the names of the entries there. -/
theorem mem_names_iff {tree : FileTree} {q : Location} {name : Text} :
    name ∈ tree.names q ↔ (tree.entry? (q ++ [name])).isSome := by
  have hentry : tree.entry? (q ++ [name]) = tree.entries.find? (q ++ [name]) := by simp [FileTree.entry?]
  simp only [hentry, ← SortedMap.mem_keys_iff, names, List.mem_filterMap, inside_eq_some_iff, exists_eq_right]

/-- Every name is in a directory once. -/
theorem nodup_names (tree : FileTree) (q : Location) : (tree.names q).Nodup := by
  refine List.Pairwise.filterMap _ (fun key key' hne name hname name' hname' heq => hne ?_)
    tree.entries.nodup_keys
  rw [inside_eq_some_iff.1 hname, inside_eq_some_iff.1 hname', heq]

/-! ## Walking -/

section Walk

variable {tree : FileTree} (ht : tree.IsOrdinary) {home : Location}
include ht

/-- A walk goes through the directory at a path name by name. -/
theorem belowWithin_succ {p : Text} (hp : isAbsolute p = true) (h : tree.Reaches p) (depth : Nat)
    (visiting : List Location) :
    tree.belowWithin home (depth + 1) visiting p = (tree.names (place p)).flatMap fun name =>
      [name] :: if tree.entry? (place p ++ [name]) = some .directory then
        (tree.belowWithin home depth ((place p ++ [name]) :: visiting) (join p name)).map (name :: ·)
      else [] := by
  rw [belowWithin, (locate_eq_ok_iff ht hp).2 ⟨h, rfl⟩]
  refine congrArg List.flatten (List.map_congr_left fun name hname => ?_)
  rcases ht.entry?_cases (place p ++ [name]) with hentry | hentry | ⟨content, hentry⟩
  · simp [mem_names_iff, hentry] at hname
  · simp [hentry]
  · simp [hentry]

/-- A walk finds nothing where its path cannot be followed. -/
theorem belowWithin_of_not_reaches {p : Text} (hp : isAbsolute p = true) (h : ¬ tree.Reaches p) (depth : Nat)
    (visiting : List Location) : tree.belowWithin home depth visiting p = [] := by
  cases depth with
  | zero => rfl
  | succ depth =>
    rw [belowWithin]
    cases hlocate : tree.locate home p with
    | error fault => rfl
    | ok q => exact absurd ((locate_eq_ok_iff ht hp).1 hlocate).1 h

/-- A walk that finds something follows its path. -/
theorem reaches_of_mem_belowWithin {depth : Nat} {visiting : List Location} {p : Text}
    (hp : isAbsolute p = true) {names : List Text} (hmem : names ∈ tree.belowWithin home depth visiting p) :
    tree.Reaches p := by
  refine Classical.byContradiction fun hnot => ?_
  rw [belowWithin_of_not_reaches ht hp hnot] at hmem
  cases hmem

/-- What a walk finds in a directory is found by its name, or below the directory that has its first name. -/
theorem mem_belowWithin_succ {depth : Nat} {visiting : List Location} {p : Text} (hp : isAbsolute p = true)
    (h : tree.Reaches p) {names : List Text} :
    names ∈ tree.belowWithin home (depth + 1) visiting p ↔ ∃ name inner, names = name :: inner ∧
      (tree.entry? (place p ++ [name])).isSome ∧ (inner = [] ∨
        tree.entry? (place p ++ [name]) = some .directory ∧
          inner ∈ tree.belowWithin home depth ((place p ++ [name]) :: visiting) (join p name)) := by
  rw [belowWithin_succ ht hp h, List.mem_flatMap]
  constructor
  · rintro ⟨name, hname, hmem⟩
    rcases List.mem_cons.1 hmem with rfl | hmem
    · exact ⟨name, [], rfl, mem_names_iff.1 hname, .inl rfl⟩
    · split at hmem
      · next hdir =>
        obtain ⟨inner, hinner, rfl⟩ := List.mem_map.1 hmem
        exact ⟨name, inner, rfl, mem_names_iff.1 hname, .inr ⟨hdir, hinner⟩⟩
      · cases hmem
  · rintro ⟨name, inner, rfl, hsome, hinner⟩
    refine ⟨name, mem_names_iff.2 hsome, ?_⟩
    rcases hinner with rfl | ⟨hdir, hinner⟩
    · exact List.mem_cons_self
    · rw [if_pos hdir]
      exact List.mem_cons_of_mem _ (List.mem_map_of_mem hinner)

/-- A directory in another one can be reached if a path below it has no fault. -/
theorem reaches_join_name {p name : Text} {dirs : List Text} (hp : isAbsolute p = true) (h : tree.Reaches p)
    (hdir : tree.entry? (place p ++ [name]) = some .directory) (hdirs : ∀ n ∈ dirs, IsName n)
    (hfault : pathFault? (below (join p name) dirs) = none) : tree.Reaches (join p name) := by
  have hjoin := ne_nil_of_isAbsolute (isAbsolute_join hp name)
  have hpath := (place_join_name (ne_nil_of_isAbsolute hp) (ht.is_name hdir)).1
  have hbelow := h.below ht hdir
  rw [hpath] at hbelow
  exact hbelow (pathFault?_of_begins hfault (prefix_below hdirs hjoin) hjoin)

/-- A walk finds the entries down to a depth that are in directories whose paths have no fault. -/
theorem mem_belowWithin_iff {depth : Nat} {visiting : List Location} {p : Text} (hp : isAbsolute p = true)
    (h : tree.Reaches p) {names : List Text} :
    names ∈ tree.belowWithin home depth visiting p ↔ names ≠ [] ∧ names.length ≤ depth ∧
      (tree.entry? (place p ++ names)).isSome ∧ pathFault? (below p names.dropLast) = none := by
  -- By induction on the depth: an entry is found by its name, or below the directory that has its first name.
  induction depth generalizing visiting p names with
  | zero =>
    rw [belowWithin]
    refine ⟨fun hmem => (by cases hmem), fun ⟨hne, hlength, _⟩ => ?_⟩
    exact absurd (List.eq_nil_of_length_eq_zero (Nat.le_zero.1 hlength)) hne
  | succ depth ih =>
    have hpath := ne_nil_of_isAbsolute hp
    rw [mem_belowWithin_succ ht hp h]
    constructor
    · rintro ⟨name, inner, rfl, hsome, rfl | ⟨hdir, hinner⟩⟩
      · exact ⟨by simp, by simp, hsome, h.no_fault⟩
      · have hname := ht.is_name hdir
        have hjoin := isAbsolute_join hp name
        obtain ⟨hne, hlength, hinside, hfault⟩ :=
          (ih hjoin (reaches_of_mem_belowWithin ht hjoin hinner)).1 hinner
        rw [(place_join_name hpath hname).2, List.append_assoc, List.singleton_append] at hinside
        obtain ⟨last, hlast⟩ := Option.isSome_iff_exists.1 hinside
        have hnames : ∀ n ∈ inner.dropLast, IsName n := fun n hn =>
          (ht.above_entry hlast).1 n (List.mem_cons_of_mem name (List.dropLast_subset inner hn))
        rw [← below_cons hnames hpath hname, ← List.dropLast_cons_of_ne_nil hne] at hfault
        exact ⟨by simp, by simpa using hlength, hinside, hfault⟩
    · rintro ⟨hne, hlength, hsome, hfault⟩
      obtain ⟨name, inner, rfl⟩ := List.exists_cons_of_ne_nil hne
      obtain ⟨entry, hentry⟩ := Option.isSome_iff_exists.1 hsome
      obtain ⟨hnames, habove⟩ := ht.above_entry hentry
      obtain ⟨hname, hinner⟩ := List.forall_mem_cons.1 hnames
      by_cases hempty : inner = []
      · subst hempty
        exact ⟨name, [], rfl, hsome, .inl rfl⟩
      · have hdir : tree.entry? (place p ++ [name]) = some .directory := habove [name] inner rfl hempty
        have hdirs : ∀ n ∈ inner.dropLast, IsName n := fun n hn => hinner n (List.dropLast_subset inner hn)
        rw [List.dropLast_cons_of_ne_nil hempty, below_cons hdirs hpath hname] at hfault
        have hreaches := reaches_join_name ht hp h hdir hdirs hfault
        have hinside : (tree.entry? (place (join p name) ++ inner)).isSome := by
          rwa [(place_join_name hpath hname).2, ← List.append_cons]
        refine ⟨name, inner, rfl, by simp [hdir], .inr ⟨hdir, ?_⟩⟩
        exact (ih (isAbsolute_join hp name) hreaches).2 ⟨hempty, by simpa using hlength, hinside, hfault⟩

/-- A walk takes at least one step to what it finds. -/
theorem ne_nil_of_mem_belowWithin {depth : Nat} {visiting : List Location} {p : Text}
    (hp : isAbsolute p = true) {names : List Text}
    (hmem : names ∈ tree.belowWithin home depth visiting p) : names ≠ [] :=
  ((mem_belowWithin_iff ht hp (reaches_of_mem_belowWithin ht hp hmem)).1 hmem).1

/-- A walk finds every entry once. -/
theorem nodup_belowWithin {depth : Nat} {visiting : List Location} {p : Text} (hp : isAbsolute p = true) :
    (tree.belowWithin home depth visiting p).Nodup := by
  induction depth generalizing visiting p with
  | zero => exact List.nodup_nil
  | succ depth ih =>
    by_cases h : tree.Reaches p
    · rw [belowWithin_succ ht hp h]
      refine List.pairwise_flatMap.2 ⟨fun name _ => List.nodup_cons.2 ⟨?_, ?_⟩,
        (nodup_names tree (place p)).imp fun hne x hx y hy heq => hne ?_⟩
      · split
        · intro hmem
          obtain ⟨inner, hinner, heq⟩ := List.mem_map.1 hmem
          exact ne_nil_of_mem_belowWithin ht (isAbsolute_join hp name) hinner (List.cons.inj heq).2
        · exact List.not_mem_nil
      · split
        · exact List.pairwise_map.2
            ((ih (isAbsolute_join hp name)).imp fun hne heq => hne (List.cons.inj heq).2)
        · exact List.nodup_nil
      · have hhead : ∀ {name : Text} {rest : List (List Text)} {x : List Text},
            x ∈ [name] ::
              (if tree.entry? (place p ++ [name]) = some .directory then rest.map (name :: ·) else []) →
              x.head? = some name := by
          intro name rest x hx
          rcases List.mem_cons.1 hx with rfl | hx
          · rfl
          · split at hx
            · obtain ⟨inner, -, rfl⟩ := List.mem_map.1 hx
              rfl
            · cases hx
        have hheads := congrArg List.head? heq
        rw [hhead hx, hhead hy] at hheads
        exact Option.some.inj hheads
    · rw [belowWithin_of_not_reaches ht hp h]
      exact List.nodup_nil

omit ht in
/-- A longest key is as long as every key. -/
theorem length_le_foldl {entries : List (Location × Entry)} {e : Location × Entry} (h : e ∈ entries)
    (n : Nat) :
    e.1.length ≤ entries.foldl (fun n e => max n e.1.length) n := by
  have hstart : ∀ (entries : List (Location × Entry)) (n : Nat),
      n ≤ entries.foldl (fun n e => max n e.1.length) n := by
    intro entries
    induction entries with
    | nil => exact fun n => Nat.le_refl n
    | cons e rest ih => exact fun n => Nat.le_trans (Nat.le_max_left _ _) (ih _)
  induction entries generalizing n with
  | nil => cases h
  | cons first rest ih =>
    rcases List.mem_cons.1 h with rfl | h
    · exact Nat.le_trans (Nat.le_max_right _ _) (hstart rest _)
    · exact ih h _

omit ht in
/-- No entry is deeper in a tree than a walk may go. -/
theorem length_le_maxDepth {q names : Location} (h : (tree.entry? (q ++ names)).isSome) :
    names.length ≤ tree.maxDepth := by
  by_cases hroot : q ++ names = []
  · simp [(List.append_eq_nil_iff.1 hroot).2]
  · have hkey : q ++ names ∈ tree.entries.keys := by
      rw [SortedMap.mem_keys_iff]
      simpa [FileTree.entry?, hroot] using h
    obtain ⟨e, he, hplace⟩ := List.mem_map.1 hkey
    have hlongest := length_le_foldl he 0
    rw [hplace, List.length_append] at hlongest
    unfold maxDepth
    calc names.length
      _ ≤ tree.entries.entries.foldl (fun n e => max n e.1.length) 0 + 1 := by omega
      _ ≤ (tree.entries.entries.length + 1) *
        (tree.entries.entries.foldl (fun n e => max n e.1.length) 0 + 1) :=
        Nat.le_mul_of_pos_left _ (Nat.succ_pos _)
      _ ≤ _ := Nat.le_succ _

/-! ## Sources -/

omit ht in
/-- A slash behind a path does not change its extension. -/
theorem extension?_join_nil {p : Text} (hp : p ≠ []) : extension? (join p []) = extension? p := by
  have hlast : lastStep (join p []) = lastStep p := by
    rw [join_eq hp rfl, List.append_nil]
    split
    · rfl
    · simp [lastStep, dropTrailing]
  rw [extension?, fileName?, hlast, extension?, fileName?]

/-- The sources at or below a path are the entries with the extension, where they are in directories whose
paths have no fault. -/
theorem mem_sources_iff {p : Text} (hp : isAbsolute p = true) {ext : Text} {names : List Text} :
    names ∈ tree.sources home p ext ↔ tree.Reaches p ∧ (tree.entry? (place p ++ names)).isSome ∧
      pathFault? (below p names.dropLast) = none ∧ extension? (below p names) = some ext := by
  by_cases h : tree.Reaches p
  · have hextension : extension? (join p (ofSteps names)) = extension? (below p names) := by
      cases names with
      | nil => exact extension?_join_nil (ne_nil_of_isAbsolute hp)
      | cons name rest => rfl
    rw [sources, (locate_eq_ok_iff ht hp).2 ⟨h, rfl⟩]
    simp only [List.mem_filter, decide_eq_true_eq, hextension, h, true_and, ← and_assoc]
    refine and_congr_left fun _ => ?_
    have hroot : names ≠ [] → (tree.entry? (place p ++ names)).isSome →
        tree.entry? (place p) = some .directory := by
      intro hne hsome
      obtain ⟨entry, hentry⟩ := Option.isSome_iff_exists.1 hsome
      simpa using (ht.above_entry hentry).2 [] names rfl hne
    by_cases hnames : names = []
    · subst hnames
      rcases ht.entry?_cases (place p) with hentry | hentry | ⟨content, hentry⟩ <;> simp [hentry, h.no_fault]
    · rcases ht.entry?_cases (place p) with hentry | hentry | ⟨content, hentry⟩
      · have hno := mt (hroot hnames) (by simp [hentry])
        simp [hentry, hno]
      · have hlength : (tree.entry? (place p ++ names)).isSome → names.length ≤ tree.maxDepth :=
          length_le_maxDepth
        simp only [hentry, List.mem_cons, hnames, false_or, mem_belowWithin_iff ht hp h, ne_eq,
          not_false_eq_true, true_and]
        exact ⟨fun hmem => hmem.2, fun hmem => ⟨hlength hmem.1, hmem⟩⟩
      · have hno := mt (hroot hnames) (by simp [hentry])
        simp [hentry, hno, hnames]
  · rw [sources]
    cases hlocate : tree.locate home p with
    | error fault => simp [h]
    | ok q => exact absurd ((locate_eq_ok_iff ht hp).1 hlocate).1 h

/-- Every source is found once. -/
theorem nodup_sources {p : Text} (hp : isAbsolute p = true) (ext : Text) :
    (tree.sources home p ext).Nodup := by
  unfold sources
  split
  · exact List.nodup_nil
  · refine List.Pairwise.filter _ ?_
    split
    · exact List.nodup_cons.2 ⟨List.not_mem_nil, List.nodup_nil⟩
    · exact List.nodup_cons.2 ⟨fun hmem => ne_nil_of_mem_belowWithin ht hp hmem rfl, nodup_belowWithin ht hp⟩
    · exact List.nodup_nil

end Walk

end InterfaceGen.FileTree
