import InterfaceGen.Files.Tree
import InterfaceGen.Proofs.Files.Steps

/-!
# Places

Where there are no links, the steps of a path say by themselves which location it leads to: a name leads one
level down, two dots lead one level up.  So the place of a path that is made of names below a directory is
the place of the directory with these names behind it.

Main definitions:

- `IsName`: the names that entries have.
- `destination`, `passed`: the location that steps lead to, and all locations that they come to.
- `place`: the location of an absolute path.
- `below`: the path of what is found below a path by taking some names.

Main results:

- Theorem `place_below`: the place of what is below a path.
- Theorem `steps_withExtension_below`: the steps to a name in a directory, with another extension.
- Theorem `hasExtension_place`: the place of a path has the extension of the path.
-/

namespace InterfaceGen.Path

open Text

/-! ## Names -/

/-- The names that entries have: they are single steps that lead down, and no part of a path that they are
in keeps it from being followed. -/
structure IsName (name : Text) : Prop where
  ne_nil : name ≠ []
  no_slash : '/' ∉ name
  ne_stay : name ≠ stay
  ne_up : name ≠ up
  no_nul : '\x00' ∉ name
  fits : byteSize name ≤ FileTree.maxNameBytes

instance (name : Text) : Decidable (IsName name) :=
  decidable_of_iff (name ≠ [] ∧ '/' ∉ name ∧ name ≠ stay ∧ name ≠ up ∧ '\x00' ∉ name ∧
      byteSize name ≤ FileTree.maxNameBytes)
    ⟨fun h => ⟨h.1, h.2.1, h.2.2.1, h.2.2.2.1, h.2.2.2.2.1, h.2.2.2.2.2⟩,
      fun h => ⟨h.ne_nil, h.no_slash, h.ne_stay, h.ne_up, h.no_nul, h.fits⟩⟩

/-- A name is one step. -/
theorem IsName.isStep {name : Text} (h : IsName name) : name ≠ [] ∧ '/' ∉ name :=
  ⟨h.ne_nil, h.no_slash⟩

/-! ## Destinations -/

/-- The location that a step leads to from a directory. -/
def next (dir : Location) (step : Text) : Location :=
  if step = stay ∨ step = directoryMark then dir
  else if step = up then dir.dropLast
  else dir ++ [step]

/-- The location that steps lead to from a directory. -/
def destination (dir : Location) (steps : List Text) : Location :=
  steps.foldl next dir

/-- The locations that steps from a directory come to, one after the other. -/
def passed (dir : Location) : List Text → List Location
  | [] => []
  | step :: rest => next dir step :: passed (next dir step) rest

@[simp] theorem destination_nil (dir : Location) : destination dir [] = dir := rfl

@[simp] theorem destination_cons (dir : Location) (step : Text) (rest : List Text) :
    destination dir (step :: rest) = destination (next dir step) rest := rfl

@[simp] theorem destination_append (dir : Location) (before after : List Text) :
    destination dir (before ++ after) = destination (destination dir before) after :=
  List.foldl_append

@[simp] theorem next_stay (dir : Location) : next dir stay = dir := rfl

@[simp] theorem next_directoryMark (dir : Location) : next dir directoryMark = dir := rfl

@[simp] theorem next_up (dir : Location) : next dir up = dir.dropLast := rfl

/-- A name leads one level down. -/
theorem next_name {name : Text} (h : IsName name) (dir : Location) : next dir name = dir ++ [name] := by
  have hmark : name ≠ directoryMark := h.ne_nil
  simp [next, h.ne_stay, hmark, h.ne_up]

/-- Names lead down. -/
theorem destination_names {names : List Text} (h : ∀ name ∈ names, IsName name) (dir : Location) :
    destination dir names = dir ++ names := by
  induction names generalizing dir with
  | nil => simp
  | cons name rest ih =>
    obtain ⟨hname, hrest⟩ := List.forall_mem_cons.1 h
    rw [destination_cons, next_name hname, ih hrest, List.append_assoc, List.singleton_append]

/-- Staying leads nowhere else. -/
@[simp] theorem destination_replicate_stay (dir : Location) (n : Nat) :
    destination dir (List.replicate n stay) = dir := by
  induction n with
  | zero => rfl
  | succ n ih => rw [List.replicate_succ, destination_cons, next_stay, ih]

/-- Steps come to the locations before a step and to those from there on. -/
theorem passed_append (dir : Location) (before after : List Text) :
    passed dir (before ++ after) = passed dir before ++ passed (destination dir before) after := by
  induction before generalizing dir with
  | nil => rfl
  | cons step rest ih => rw [List.cons_append, passed, passed, ih, destination_cons, List.cons_append]

/-- Staying comes to no other location. -/
theorem eq_of_mem_passed_stay {dir q : Location} {n : Nat} (h : q ∈ passed dir (List.replicate n stay)) :
    q = dir := by
  induction n with
  | zero => cases h
  | succ n ih =>
    rw [List.replicate_succ, passed, next_stay] at h
    rcases List.mem_cons.1 h with rfl | h
    · rfl
    · exact ih h

/-- Steps come to the location that they lead to. -/
theorem destination_mem_passed (dir : Location) {steps : List Text} (hne : steps ≠ []) :
    destination dir steps ∈ passed dir steps := by
  induction steps generalizing dir with
  | nil => exact absurd rfl hne
  | cons step rest ih =>
    rw [destination_cons, passed]
    by_cases hrest : rest = []
    · subst hrest
      exact List.mem_cons_self
    · exact List.mem_cons_of_mem _ (ih (next dir step) hrest)

/-- All steps but the last come to the locations that steps come to before their destination. -/
theorem mem_dropLast_or_eq_destination {dir q : Location} {steps : List Text} (h : q ∈ passed dir steps) :
    q ∈ passed dir steps.dropLast ∨ q = destination dir steps := by
  rcases List.eq_nil_or_concat steps with rfl | ⟨init, last, rfl⟩
  · cases h
  · rw [List.concat_eq_append] at h ⊢
    rw [passed_append, List.mem_append] at h
    rw [List.dropLast_concat, destination_append]
    exact h.imp_right List.mem_singleton.1

/-! ## The place of a path -/

/-- The location of an absolute path. -/
def place (p : Text) : Location :=
  destination [] (steps p)

/-- A slash behind a path leads nowhere else. -/
theorem destination_markedSteps (p : Text) : destination [] (markedSteps p) = place p := by
  rw [markedSteps, destination_append]
  split <;> rfl

/-- The locations on the way of a path, which are directories where the path can be followed. -/
def way (p : Text) : List Location :=
  passed [] (markedSteps p).dropLast

/-- The way of a path that does not end in a slash is where its steps before the last one come to. -/
theorem way_of_no_slash {p : Text} (h : endsWithSlash p = false) : way p = passed [] (steps p).dropLast := by
  rw [way, markedSteps, h, if_neg Bool.false_ne_true, List.append_nil]

/-- The way of a path is where its steps come to. -/
theorem way_subset (p : Text) : way p ⊆ passed [] (steps p) := by
  intro q hq
  cases hslash : endsWithSlash p with
  | true => simpa [way, markedSteps, hslash] using hq
  | false =>
    rw [way_of_no_slash hslash] at hq
    rcases List.eq_nil_or_concat (steps p) with hnil | ⟨above, last, hsplit⟩
    · simp [hnil, passed] at hq
    · rw [List.concat_eq_append] at hsplit
      rw [hsplit, List.dropLast_concat] at hq
      rw [hsplit, passed_append]
      exact List.mem_append_left _ hq

/-- All steps of a path but the last come to locations on its way. -/
theorem passed_subset_way {p : Text} {before after : List Text} (h : steps p = before ++ after)
    (hafter : after ≠ []) : passed [] before ⊆ way p := by
  intro q hq
  rw [way, markedSteps, h, List.append_assoc, List.dropLast_append_of_ne_nil (by simp [hafter]),
    passed_append]
  exact List.mem_append_left _ hq

/-- The steps before the last one come to locations on the way of a path. -/
theorem passed_dropLast_subset_way (p : Text) : passed [] (steps p).dropLast ⊆ way p := by
  rcases List.eq_nil_or_concat (steps p) with hnil | ⟨init, last, hsteps⟩
  · simp [hnil, passed]
  · rw [List.concat_eq_append] at hsteps
    rw [hsteps, List.dropLast_concat]
    exact passed_subset_way hsteps (List.cons_ne_nil _ _)

/-! ## Names below a directory -/

/-- A path that takes names does not start at the root. -/
theorem isAbsolute_ofSteps {names : List Text} (h : ∀ name ∈ names, IsName name) :
    isAbsolute (ofSteps names) = false := by
  cases names with
  | nil => rfl
  | cons name rest =>
    have hname := h name List.mem_cons_self
    obtain ⟨c, more, hsplit⟩ := List.exists_cons_of_ne_nil hname.ne_nil
    have hc : c ≠ '/' := by
      rintro rfl
      exact hname.no_slash (hsplit ▸ List.mem_cons_self)
    have hhead : ∃ t, ofSteps (name :: rest) = c :: t := by
      cases rest with
      | nil => exact ⟨more, by rw [ofSteps, List.intercalate_singleton, hsplit]⟩
      | cons n ns => exact ⟨_, by rw [ofSteps, List.intercalate_cons_cons, hsplit]; rfl⟩
    obtain ⟨t, ht⟩ := hhead
    simp [isAbsolute, ht, hc]

/-- Names that end in one more are taken with a slash behind each but the last. -/
theorem ofSteps_concat (dirs : List Text) (name : Text) :
    ofSteps (dirs ++ [name]) = dirs.flatMap (· ++ ['/']) ++ name := by
  unfold ofSteps
  induction dirs with
  | nil => simp
  | cons dir rest ih =>
    cases rest with
    | nil => simp
    | cons n ns =>
      rw [List.cons_append, List.cons_append, List.intercalate_cons_cons, ← List.cons_append, ih]
      simp

/-- A path inside a directory stands behind one slash. -/
theorem join_eq {dir p : Text} (hdir : dir ≠ []) (hp : isAbsolute p = false) :
    join dir p = (if endsWithSlash dir then dir else dir ++ ['/']) ++ p := by
  rw [join, if_neg (by simp [hp, hdir])]
  split <;> simp

/-- What is in a directory with an absolute path has an absolute path. -/
theorem isAbsolute_join {dir : Text} (h : isAbsolute dir = true) (p : Text) :
    isAbsolute (join dir p) = true := by
  obtain ⟨rest, rfl⟩ := exists_of_isAbsolute h
  cases hp : isAbsolute p with
  | true => rw [join, hp, Bool.true_or, if_pos rfl, hp]
  | false =>
    rw [join_eq (List.cons_ne_nil _ _) hp]
    split <;> rfl

/-- The path of what is found below a path by taking some names. -/
def below (p : Text) (names : List Text) : Text :=
  if names.isEmpty then p else join p (ofSteps names)

/-- What is below an absolute path has an absolute path. -/
theorem isAbsolute_below {p : Text} (hp : isAbsolute p = true) (names : List Text) :
    isAbsolute (below p names) = true := by
  unfold below
  split
  · exact hp
  · exact isAbsolute_join hp _

/-- Nothing but the path itself is found by taking no names. -/
@[simp] theorem below_nil (p : Text) : below p [] = p := rfl

section Below

variable {names : List Text} (h : ∀ name ∈ names, IsName name)
include h

/-- The steps to what is below a path. -/
theorem steps_below (p : Text) : steps (below p names) = steps p ++ names := by
  unfold below
  cases hempty : names.isEmpty with
  | true =>
    obtain rfl := List.isEmpty_iff.1 hempty
    simp
  | false =>
    have hsteps := steps_ofSteps fun name hn => (h name hn).isStep
    rw [if_neg (by simp), steps_join p (isAbsolute_ofSteps h), hsteps]

/-- What is below a path is found below its place. -/
theorem place_below (p : Text) : place (below p names) = place p ++ names := by
  rw [place, steps_below h, destination_append, destination_names h, place]

/-- All names in one directory have paths that begin alike, up to a slash. -/
theorem exists_below_concat {p : Text} (hp : p ≠ []) :
    ∃ dir, steps (dir ++ ['/']) = steps p ++ names ∧
      ∀ name, IsName name → below p (names ++ [name]) = dir ++ '/' :: name := by
  have hpath : ∃ dir, ∀ name, IsName name → below p (names ++ [name]) = dir ++ '/' :: name := by
    have hjoin : ∀ name, IsName name → below p (names ++ [name]) =
        (if endsWithSlash p then p else p ++ ['/']) ++ (names.flatMap (· ++ ['/']) ++ name) := by
      intro name hname
      have hall : ∀ n ∈ names ++ [name], IsName n := fun n hn =>
        (List.mem_append.1 hn).elim (h n) fun hn => List.mem_singleton.1 hn ▸ hname
      have hrelative := isAbsolute_ofSteps hall
      rw [below, if_neg (by simp), join_eq hp hrelative, ofSteps_concat]
    rcases List.eq_nil_or_concat names with rfl | ⟨dirs, last, rfl⟩
    · cases hslash : endsWithSlash p with
      | true =>
        obtain ⟨dir, rfl⟩ := List.getLast?_eq_some_iff.1 (by simpa [endsWithSlash] using hslash)
        exact ⟨dir, fun name hname => by rw [hjoin name hname]; simp [hslash]⟩
      | false => exact ⟨p, fun name hname => by rw [hjoin name hname]; simp [hslash]⟩
    · exact ⟨(if endsWithSlash p then p else p ++ ['/']) ++ (dirs.flatMap (· ++ ['/']) ++ last),
        fun name hname => by rw [hjoin name hname]; simp⟩
  obtain ⟨dir, hdir⟩ := hpath
  refine ⟨dir, ?_, hdir⟩
  have hname : IsName ['a'] := by decide
  have hall : ∀ n ∈ names ++ [['a']], IsName n := fun n hn =>
    (List.mem_append.1 hn).elim (h n) fun hn => List.mem_singleton.1 hn ▸ hname
  have hsteps := steps_below hall p
  rw [hdir _ hname, List.append_cons, steps_append_step (.inr ⟨dir, rfl⟩) hname.ne_nil hname.no_slash,
    ← List.append_assoc] at hsteps
  exact List.append_cancel_right hsteps

/-- What is below a path has a path that begins with it. -/
theorem prefix_below {p : Text} (hp : p ≠ []) : p <+: below p names := by
  unfold below
  split
  · exact List.prefix_rfl
  · rw [join_eq hp (isAbsolute_ofSteps h)]
    split
    · exact List.prefix_append p _
    · exact List.append_assoc p _ _ ▸ List.prefix_append p _

/-- The path of what is below another path does not end in a slash. -/
theorem endsWithSlash_below {p : Text} (hp : p ≠ []) (hne : names ≠ []) :
    endsWithSlash (below p names) = false := by
  obtain ⟨dirs, name, rfl⟩ := (List.eq_nil_or_concat names).resolve_left hne
  rw [List.concat_eq_append] at h ⊢
  have hname := h name (by simp)
  obtain ⟨dir, -, hdir⟩ := exists_below_concat (fun n hn => h n (List.mem_append_left _ hn)) hp
  rw [hdir name hname, endsWithSlash, List.getLast?_append, List.getLast?_cons]
  cases hlast : name.getLast? with
  | none => exact absurd (List.getLast?_eq_none_iff.1 hlast) hname.ne_nil
  | some c =>
    have hc : c ≠ '/' := fun heq => hname.no_slash (heq ▸ List.mem_of_getLast? hlast)
    simpa [hlast] using hc

/-- The first of some names may be taken by itself. -/
theorem below_cons {p name : Text} (hp : p ≠ []) (hname : IsName name) :
    below p (name :: names) = below (join p name) names := by
  have hsingle : ofSteps [name] = name := List.intercalate_singleton
  have hjoin := join_eq hp (hsingle ▸ isAbsolute_ofSteps (List.forall_mem_singleton.2 hname))
  cases names with
  | nil => rw [below_nil, below, if_neg (by simp), hsingle]
  | cons n rest =>
    have hslash : endsWithSlash (join p name) = false := by
      have hinner := endsWithSlash_below (List.forall_mem_singleton.2 hname) hp (List.cons_ne_nil _ _)
      rwa [below, if_neg (by simp), hsingle] at hinner
    have hne : join p name ≠ [] := by
      rw [hjoin]
      simp [hname.ne_nil]
    have hwhole : ofSteps (name :: n :: rest) = name ++ ['/'] ++ ofSteps (n :: rest) :=
      List.intercalate_cons_cons
    have hall : ∀ m ∈ name :: n :: rest, IsName m := List.forall_mem_cons.2 ⟨hname, h⟩
    rw [below, if_neg (by simp), below, if_neg (by simp), join_eq hp (isAbsolute_ofSteps hall),
      join_eq hne (isAbsolute_ofSteps h), hslash, if_neg Bool.false_ne_true, hwhole, hjoin]
    simp only [List.append_assoc]

omit h in
/-- A name in the directory at a path is found below its place. -/
theorem place_join_name {p name : Text} (hp : p ≠ []) (hname : IsName name) :
    below p [name] = join p name ∧ place (join p name) = place p ++ [name] := by
  have hpath : below p [name] = join p name := by rw [below_cons (by simp) hp hname, below_nil]
  exact ⟨hpath, by rw [← hpath, place_below (List.forall_mem_singleton.2 hname)]⟩

/-- Names lead down from a location, one level each. -/
theorem of_mem_passed_names {dir q : Location} (hq : q ∈ passed dir names) :
    ∃ before after, names = before ++ after ∧ before ≠ [] ∧ q = dir ++ before := by
  induction names generalizing dir with
  | nil => cases hq
  | cons name rest ih =>
    rw [passed, next_name (h name List.mem_cons_self)] at hq
    rcases List.mem_cons.1 hq with rfl | hq
    · exact ⟨[name], rest, rfl, by simp, rfl⟩
    · obtain ⟨before, after, rfl, -, rfl⟩ := ih (fun n hn => h n (List.mem_cons_of_mem name hn)) hq
      exact ⟨name :: before, after, rfl, by simp, by simp⟩

/-- What is below a path is named by the last of the names. -/
theorem fileName?_below {p name : Text} (hp : p ≠ []) (hname : IsName name) :
    fileName? (below p (names ++ [name])) = some name := by
  obtain ⟨dir, -, hdir⟩ := exists_below_concat h hp
  have hends : EndsIn (below p (names ++ [name])) (dir ++ ['/']) name [] :=
    ⟨by simp [hdir name hname], .inr ⟨dir, rfl⟩, hname.ne_nil, hname.no_slash,
      fun hstay => absurd hstay hname.ne_stay, .nil⟩
  rw [hends.fileName?_eq, if_neg (not_or.2 ⟨hname.ne_stay, hname.ne_up⟩)]

/-- With another extension, what is below a path keeps its steps but for the end of its name; where nothing
but a dot is left of the name, the path leads to the directory around instead. -/
theorem steps_withExtension_below {p stem old : Text} (hp : p ≠ []) (hname : IsName (stem ++ '.' :: old))
    (hstem : stem ≠ []) (hold : old ≠ []) (hdot : '.' ∉ old) {ext : Text} (hext : '/' ∉ ext) :
    steps (withExtension (below p (names ++ [stem ++ '.' :: old])) ext) =
      steps p ++ names ++ [if stem = stay then up else stem ++ '.' :: ext] := by
  obtain ⟨dir, hsteps, hdir⟩ := exists_below_concat h hp
  have hslash := hname.no_slash
  rw [List.mem_append, List.mem_cons, not_or, not_or] at hslash
  have hpath : below p (names ++ [stem ++ '.' :: old]) = (dir ++ ['/']) ++ (stem ++ '.' :: old) := by
    simp [hdir _ hname]
  rw [hpath, withExtension_append (.inr ⟨dir, rfl⟩) hstem (by simp [hslash]) hold hdot,
    steps_append_step (.inr ⟨dir, rfl⟩), hsteps]
  · split
    · exact List.cons_ne_nil _ _
    · simp
  · split
    · decide
    · simp [hslash, hext]

end Below

/-! ## The name at the end of a path -/

/-- An absolute path ends in a name, or else it stays at the root or leads upwards. -/
theorem fileName?_cases {p : Text} (hp : isAbsolute p = true) :
    (∃ before name n, fileName? p = some name ∧ steps p = before ++ name :: List.replicate n stay ∧
        name ≠ [] ∧ '/' ∉ name ∧ name ≠ stay ∧ name ≠ up) ∨
      fileName? p = none ∧ ((∃ n, steps p = List.replicate n stay) ∨
        ∃ before n, steps p = before ++ up :: List.replicate n stay) := by
  rcases trailing_or_endsIn p with ⟨htrailing, hlast⟩ | ⟨before, step, tail, h⟩
  · obtain ⟨n, hn⟩ := htrailing.steps_append []
    exact .inr ⟨by simp [fileName?, hlast], .inl ⟨n, by simpa [steps, pieces] using hn⟩⟩
  · obtain ⟨n, hn⟩ := h.steps_eq
    by_cases hstay : step = stay
    · exact absurd (h.of_stay hstay) (h.before_ne_nil hp)
    · by_cases hup : step = up
      · subst hup
        exact .inr ⟨by rw [h.fileName?_eq, if_pos (.inr rfl)], .inr ⟨steps before, n, hn⟩⟩
      · refine .inl ⟨steps before, step, n, ?_, hn, h.ne_nil, h.no_slash, hstay, hup⟩
        rw [h.fileName?_eq, if_neg (not_or.2 ⟨hstay, hup⟩)]

/-- A path that leads upwards in the end has no name. -/
theorem fileName?_eq_none_of_getLast?_up {p : Text} (hp : isAbsolute p = true)
    (h : (steps p).getLast? = some up) :
    fileName? p = none := by
  rcases fileName?_cases hp with ⟨before, name, n, -, hsteps, -, -, -, hup⟩ | ⟨hnone, -⟩
  · rw [hsteps, List.getLast?_append, List.getLast?_cons] at h
    cases n with
    | zero => exact absurd (by simpa using h) hup
    | succ n => simp [List.getLast?_replicate, stay, up] at h
  · exact hnone

/-- A path that has been given an extension has it, if it ends in a name at all. -/
theorem extension?_withExtension (p : Text) {ext : Text} (hext : ext ≠ []) (hslash : '/' ∉ ext)
    (hdot : '.' ∉ ext) :
    fileName? (withExtension p ext) = none ∨ extension? (withExtension p ext) = some ext := by
  rcases trailing_or_endsIn (cutExtension p) with ⟨-, hlast⟩ | ⟨before, step, tail, h⟩
  · have hnone : fileName? (cutExtension p) = none := by simp [fileName?, hlast]
    have hcut : withExtension p ext = cutExtension p := by simp only [withExtension, hnone]
    exact .inl (by rw [hcut, hnone])
  · by_cases hname : step = stay ∨ step = up
    · rw [withExtension_of_cut h, if_pos hname, h.fileName?_eq, if_pos hname]
      exact .inl rfl
    · have hstem := splitName_ne_nil h.ne_nil
      have hne := append_dot_ne hstem (.inr hext)
      have hends : EndsIn (before ++ ((splitName step).1 ++ '.' :: ext)) before
          ((splitName step).1 ++ '.' :: ext) [] := by
        refine ⟨by simp, h.behind_slash, by simp, ?_, fun hstay => absurd hstay hne.1, .nil⟩
        rw [List.mem_append, List.mem_cons, not_or, not_or]
        exact ⟨fun hmem => h.no_slash (mem_of_mem_splitName hmem), by decide, hslash⟩
      rw [withExtension_of_cut h, if_neg hname, extension?, hends.fileName?_eq, if_neg (not_or.2 hne),
        Option.bind_some, splitName_append hstem hdot]
      exact .inr rfl

/-- A path that ends in a name leads to it. -/
theorem exists_place_eq_concat {p name : Text} (hp : isAbsolute p = true) (h : fileName? p = some name) :
    ∃ above, place p = above ++ [name] := by
  rcases fileName?_cases hp with ⟨before, last, n, hlast, hsteps, hne, -, hstay, hup⟩ | ⟨hnone, -⟩
  · obtain rfl := Option.some.inj (hlast.symm.trans h)
    have hmark : last ≠ directoryMark := hne
    refine ⟨destination [] before, ?_⟩
    rw [place, hsteps, destination_append, destination_cons, destination_replicate_stay]
    simp only [next, hstay, hmark, hup, or_self, if_false]
  · simp [hnone] at h

/-- Whether a location has a name with an extension. -/
def HasExtension (q : Location) (ext : Text) : Prop :=
  ∃ above name, q = above ++ [name] ∧ (splitName name).2 = some ext

/-- A location has one extension. -/
theorem HasExtension.unique {q : Location} {ext ext' : Text} (h : HasExtension q ext)
    (h' : HasExtension q ext') :
    ext = ext' := by
  obtain ⟨above, name, rfl, hname⟩ := h
  obtain ⟨above', name', heq, hname'⟩ := h'
  obtain rfl := List.singleton_inj.1 (List.append_inj' heq rfl).2
  exact Option.some.inj (hname.symm.trans hname')

/-- The place of a path has the extension of the path. -/
theorem hasExtension_place {p ext : Text} (hp : isAbsolute p = true) (h : extension? p = some ext) :
    HasExtension (place p) ext := by
  obtain ⟨name, hname, hext⟩ := Option.bind_eq_some_iff.1 h
  obtain ⟨above, hplace⟩ := exists_place_eq_concat hp hname
  exact ⟨above, name, hplace, hext⟩

end InterfaceGen.Path
