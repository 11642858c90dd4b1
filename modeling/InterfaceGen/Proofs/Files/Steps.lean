import InterfaceGen.Files.Path

/-!
# The steps of paths

What joining paths, taking the path of the enclosing directory and replacing an extension do to the steps of
a path.  Slashes and single dots behind the last step are no part of it: they are trailing.

Main definitions:

- `Trailing`: what may stand behind the last step of a path.
- `EndsIn`: a path that is cut around its last step.

Main results:

- Theorem `steps_join` and `steps_ofSteps`: the steps of joined paths.
- Theorem `EndsIn.steps_eq`: the steps of a path are those before its last step and the last step.
- Theorem `exists_of_parent?_eq_some`: the path of the enclosing directory has one step less.
- Theorem `withExtension_append`: replacing the extension of a name.
- Theorem `steps_withExtension`: replacing an extension changes the last step only.
-/

namespace InterfaceGen.Path

open Text

/-! ## Steps -/

/-- A path takes the steps before and those after any of its slashes. -/
theorem steps_append_slash (p q : Text) : steps (p ++ '/' :: q) = steps p ++ steps q := by
  rw [steps, pieces_append_cons rfl, List.filter_append]
  rfl

/-- A path without slashes is one step. -/
theorem steps_of_no_slash {step : Text} (hne : step ≠ []) (h : '/' ∉ step) : steps step = [step] := by
  have huncut : ∀ c ∈ step, (c == '/') = false := by
    intro c hc
    simpa using fun heq : c = '/' => h (heq ▸ hc)
  rw [steps, pieces_of_uncut huncut]
  simp [hne]

/-- A step is not empty and has no slash. -/
theorem of_mem_steps {p step : Text} (h : step ∈ steps p) : step ≠ [] ∧ '/' ∉ step := by
  obtain ⟨hpiece, hne⟩ := List.mem_filter.1 h
  refine ⟨by simpa using hne, fun hslash => ?_⟩
  have hcut := not_of_mem_pieces hpiece '/' hslash
  simp at hcut

/-- The characters of a step are characters of the path. -/
theorem mem_of_mem_steps {p step : Text} {c : Char} (h : step ∈ steps p) (hc : c ∈ step) : c ∈ p :=
  (of_mem_pieces (List.mem_filter.1 h).1 c hc).1

/-- A step behind a slash, or alone, is the last one of a path. -/
theorem steps_append_step {before step : Text} (hbefore : before = [] ∨ ∃ dir, before = dir ++ ['/'])
    (hne : step ≠ []) (h : '/' ∉ step) : steps (before ++ step) = steps before ++ [step] := by
  rcases hbefore with rfl | ⟨dir, rfl⟩
  · exact steps_of_no_slash hne h
  · rw [List.append_assoc, List.singleton_append, steps_append_slash, steps_append_slash,
      steps_of_no_slash hne h]
    simp [steps, pieces]

/-! ## Joined paths -/

/-- A path inside a directory takes the steps to the directory first. -/
theorem steps_join (dir : Text) {p : Text} (hp : isAbsolute p = false) :
    steps (join dir p) = steps dir ++ steps p := by
  unfold join
  cases hdir : dir.isEmpty with
  | true =>
    obtain rfl := List.isEmpty_iff.1 hdir
    simp [hp, steps, pieces]
  | false =>
    cases hslash : endsWithSlash dir with
    | true =>
      obtain ⟨body, rfl⟩ := List.getLast?_eq_some_iff.1 (by simpa [endsWithSlash] using hslash)
      simp only [hp, Bool.or_self, Bool.false_eq_true, if_false, if_true]
      rw [List.append_assoc, List.singleton_append, steps_append_slash, steps_append_slash]
      simp [steps, pieces]
    | false => simp [hp, steps_append_slash]

/-- The steps that a path is made of are found again. -/
theorem steps_ofSteps {names : List Text} (h : ∀ name ∈ names, name ≠ [] ∧ '/' ∉ name) :
    steps (ofSteps names) = names := by
  unfold ofSteps
  induction names with
  | nil => rfl
  | cons name rest ih =>
    obtain ⟨hne, hslash⟩ := h name List.mem_cons_self
    have hrest := ih fun n hn => h n (List.mem_cons_of_mem name hn)
    cases rest with
    | nil => rw [List.intercalate_singleton, steps_of_no_slash hne hslash]
    | cons next more =>
      rw [List.intercalate_cons_cons, List.append_assoc, List.singleton_append, steps_append_slash,
        steps_of_no_slash hne hslash, hrest]
      rfl

/-! ## What stands behind the last step -/

/-- What may stand behind the last step of a path: slashes, and dots between them. -/
inductive Trailing : Text → Prop
  | nil : Trailing []
  | slash {t : Text} : Trailing t → Trailing (t ++ ['/'])
  | dot {t : Text} : Trailing t → Trailing (t ++ ['/', '.'])

/-- A path is cut behind its last step. -/
theorem exists_trailing (t : Text) :
    ∃ tail, Trailing tail ∧ t.reverse = (dropTrailing t).reverse ++ tail := by
  induction t using dropTrailing.induct with
  | case1 rest ih =>
    obtain ⟨tail, htail, hrest⟩ := ih
    refine ⟨tail ++ ['/'], .slash htail, ?_⟩
    rw [dropTrailing, List.reverse_cons, hrest, List.append_assoc]
  | case2 rest ih =>
    obtain ⟨tail, htail, hrest⟩ := ih
    refine ⟨tail ++ ['/', '.'], .dot htail, ?_⟩
    rw [dropTrailing, List.reverse_cons, List.reverse_cons, hrest]
    simp
  | case3 t hslash hdot =>
    refine ⟨[], .nil, ?_⟩
    rw [dropTrailing]
    · simp
    · exact hslash
    · exact hdot

/-- What stands behind the last step is dropped. -/
theorem dropTrailing_append {tail : Text} (h : Trailing tail) (core : Text) :
    dropTrailing (tail.reverse ++ core) = dropTrailing core := by
  induction h with
  | nil => rfl
  | slash _ ih => simpa [dropTrailing] using ih
  | dot _ ih => simpa [dropTrailing] using ih

/-- The beginning of what stands behind the last step stands there as well. -/
theorem Trailing.take {tail : Text} (h : Trailing tail) (n : Nat) : Trailing (tail.take n) := by
  induction h with
  | nil => simpa using Trailing.nil
  | @slash t ht ih =>
    by_cases hn : n ≤ t.length
    · rwa [List.take_append_of_le_length hn]
    · rw [List.take_of_length_le (by simp; omega)]
      exact .slash ht
  | @dot t ht ih =>
    by_cases hn : n ≤ t.length
    · rwa [List.take_append_of_le_length hn]
    · by_cases hone : n = t.length + 1
      · subst hone
        rw [List.take_length_add_append]
        exact .slash ht
      · rw [List.take_of_length_le (by simp; omega)]
        exact .dot ht

/-- Behind the last step a path only stays where it is. -/
theorem Trailing.steps_append {tail : Text} (h : Trailing tail) (p : Text) :
    ∃ n, steps (p ++ tail) = steps p ++ List.replicate n stay := by
  induction h with
  | nil => exact ⟨0, by simp⟩
  | slash _ ih =>
    obtain ⟨n, hn⟩ := ih
    refine ⟨n, ?_⟩
    rw [← List.append_assoc, steps_append_slash, hn]
    simp [steps, pieces]
  | dot _ ih =>
    obtain ⟨n, hn⟩ := ih
    have hdot : steps ['.'] = [stay] := by decide
    refine ⟨n + 1, ?_⟩
    rw [← List.append_assoc, steps_append_slash, hn, hdot, List.replicate_succ', List.append_assoc]

/-! ## The last step -/

/-- A reversed path that has nothing behind its last step. -/
def IsCore (t : Text) : Prop :=
  (∀ rest, t ≠ '/' :: rest) ∧ ∀ rest, t ≠ '.' :: '/' :: rest

/-- Without what stands behind its last step, a path has nothing behind its last step. -/
theorem isCore_dropTrailing (t : Text) : IsCore (dropTrailing t) := by
  induction t using dropTrailing.induct with
  | case1 rest ih => simpa only [dropTrailing] using ih
  | case2 rest ih => simpa only [dropTrailing] using ih
  | case3 t hslash hdot =>
    rw [dropTrailing]
    · exact ⟨hslash, hdot⟩
    · exact hslash
    · exact hdot

/-- Nothing is dropped where nothing stands behind the last step. -/
theorem dropTrailing_of_isCore {t : Text} (h : IsCore t) : dropTrailing t = t :=
  dropTrailing.eq_3 t h.1 h.2

/-- A path cut around its last step.  Behind the slash of another step there is no single dot to cut at. -/
structure EndsIn (p before step tail : Text) : Prop where
  split : p = before ++ step ++ tail
  behind_slash : before = [] ∨ ∃ dir, before = dir ++ ['/']
  ne_nil : step ≠ []
  no_slash : '/' ∉ step
  of_stay : step = stay → before = []
  trailing : Trailing tail

/-- A reversed path is cut at its first slash. -/
theorem cut_at_slash {step before : Text} (hstep : '/' ∉ step)
    (hbefore : before = [] ∨ ∃ r, before = '/' :: r) :
    (step ++ before).takeWhile (· != '/') = step ∧ (step ++ before).dropWhile (· != '/') = before := by
  have hpart : ∀ c ∈ step, (c != '/') = true := by
    intro c hc
    simpa using fun heq : c = '/' => hstep (heq ▸ hc)
  rw [List.takeWhile_append_of_pos hpart, List.dropWhile_append_of_pos hpart]
  rcases hbefore with rfl | ⟨r, rfl⟩
  · simp
  · simp

namespace EndsIn

variable {p before step tail : Text}

/-- Nothing stands behind the last step but what is trailing. -/
theorem dropTrailing_reverse (h : EndsIn p before step tail) :
    dropTrailing p.reverse = step.reverse ++ before.reverse := by
  have hcore : IsCore (step.reverse ++ before.reverse) := by
    obtain ⟨c, more, hstep⟩ := List.exists_cons_of_ne_nil (mt List.reverse_eq_nil_iff.1 h.ne_nil)
    have hmem : ∀ d ∈ c :: more, d ≠ '/' := by
      intro d hd heq
      rw [← hstep, List.mem_reverse] at hd
      exact h.no_slash (heq ▸ hd)
    rw [hstep]
    constructor
    · intro rest heq
      exact hmem c List.mem_cons_self (List.cons.inj heq).1
    · intro rest heq
      obtain ⟨rfl, hmore⟩ := List.cons.inj heq
      cases more with
      | cons d _ => exact hmem d (by simp) (List.cons.inj hmore).1
      | nil =>
        have hstay : step = stay := List.reverse_eq_iff.1 hstep
        rw [h.of_stay hstay] at hmore
        cases hmore
  rw [h.split, List.reverse_append, List.reverse_append, dropTrailing_append h.trailing,
    dropTrailing_of_isCore hcore]

/-- The last step of a path is found, with what stands before it. -/
theorem lastStep_eq (h : EndsIn p before step tail) : lastStep p = (step, before.reverse) := by
  have hstep : '/' ∉ step.reverse := mt List.mem_reverse.1 h.no_slash
  have hbefore : before.reverse = [] ∨ ∃ r, before.reverse = '/' :: r := by
    rcases h.behind_slash with rfl | ⟨dir, rfl⟩
    · exact .inl rfl
    · exact .inr ⟨dir.reverse, by simp⟩
  obtain ⟨htake, hdrop⟩ := cut_at_slash hstep hbefore
  rw [lastStep, h.dropTrailing_reverse, htake, hdrop, List.reverse_reverse]

/-- A path takes the steps before its last one, its last one, and then stays. -/
theorem steps_eq (h : EndsIn p before step tail) :
    ∃ n, steps p = steps before ++ step :: List.replicate n stay := by
  obtain ⟨n, hn⟩ := h.trailing.steps_append (before ++ step)
  refine ⟨n, ?_⟩
  rw [h.split, hn, steps_append_step h.behind_slash h.ne_nil h.no_slash, List.append_assoc,
    List.singleton_append]

end EndsIn

/-- A path has a last step, or else is trailing as a whole. -/
theorem trailing_or_endsIn (p : Text) :
    Trailing p ∧ lastStep p = ([], []) ∨ ∃ before step tail, EndsIn p before step tail := by
  obtain ⟨tail, htail, hp⟩ := exists_trailing p.reverse
  rw [List.reverse_reverse] at hp
  have hcore := isCore_dropTrailing p.reverse
  cases hdrop : dropTrailing p.reverse with
  | nil =>
    rw [hdrop] at hp
    exact .inl ⟨by simpa [hp] using htail, by simp [lastStep, hdrop]⟩
  | cons c rest =>
    refine .inr
      ⟨((c :: rest).dropWhile (· != '/')).reverse, ((c :: rest).takeWhile (· != '/')).reverse, tail, ?_⟩
    rw [hdrop] at hp hcore
    have hc : (c != '/') = true := by simpa using fun heq : c = '/' => hcore.1 rest (heq ▸ rfl)
    have hparts := List.takeWhile_append_dropWhile (p := (· != '/')) (l := c :: rest)
    constructor
    · rw [hp, ← List.reverse_append, hparts]
    · cases hbefore : (c :: rest).dropWhile (· != '/') with
      | nil => exact .inl rfl
      | cons d more =>
        have hd := List.head?_dropWhile_not (· != '/') (c :: rest)
        rw [hbefore] at hd
        obtain rfl : d = '/' := by simpa using hd
        exact .inr ⟨more.reverse, List.reverse_cons⟩
    · simp [hc]
    · intro hslash
      have hall := List.all_eq_true.1 List.all_takeWhile '/' (List.mem_reverse.1 hslash)
      simp at hall
    · intro hstay
      have htake : (c :: rest).takeWhile (· != '/') = ['.'] := List.reverse_eq_iff.1 hstay
      rw [htake] at hparts
      cases hbefore : (c :: rest).dropWhile (· != '/') with
      | nil => rfl
      | cons d more =>
        have hd := List.head?_dropWhile_not (· != '/') (c :: rest)
        rw [hbefore] at hd hparts
        obtain rfl : d = '/' := by simpa using hd
        exact absurd hparts.symm (hcore.2 more)
    · exact htail

/-! ## Enclosing directories -/

/-- A path that begins like an absolute one is absolute. -/
theorem isAbsolute_of_prefix {p q : Text} (hp : isAbsolute p = true) (h : q <+: p) (hne : q ≠ []) :
    isAbsolute q = true := by
  obtain ⟨rest, rfl⟩ := h
  obtain ⟨c, more, rfl⟩ := List.exists_cons_of_ne_nil hne
  exact hp

/-- An absolute path is not empty. -/
theorem ne_nil_of_isAbsolute {p : Text} (hp : isAbsolute p = true) : p ≠ [] := by
  rintro rfl
  cases hp

/-- An absolute path begins with a slash. -/
theorem exists_of_isAbsolute {p : Text} (hp : isAbsolute p = true) : ∃ rest, p = '/' :: rest := by
  cases p with
  | nil => cases hp
  | cons c rest =>
    obtain rfl : c = '/' := by simpa [isAbsolute] using hp
    exact ⟨rest, rfl⟩

/-- Something stands before the last step of an absolute path. -/
theorem EndsIn.before_ne_nil {p before step tail : Text} (h : EndsIn p before step tail)
    (hp : isAbsolute p = true) : before ≠ [] := by
  rintro rfl
  obtain ⟨rest, hrest⟩ := exists_of_isAbsolute hp
  obtain ⟨c, more, rfl⟩ := List.exists_cons_of_ne_nil h.ne_nil
  have hsplit := h.split
  rw [hrest] at hsplit
  exact h.no_slash (List.mem_cons.2 (.inl (List.cons.inj hsplit).1))

/-- An absolute path without an enclosing directory stays at the root. -/
theorem steps_of_parent?_eq_none {p : Text} (h : parent? p = none) :
    ∃ n, steps p = List.replicate n stay := by
  rcases trailing_or_endsIn p with ⟨htrailing, -⟩ | ⟨before, step, tail, hends⟩
  · obtain ⟨n, hn⟩ := htrailing.steps_append []
    exact ⟨n, by simpa [steps, pieces] using hn⟩
  · simp [parent?, hends.lastStep_eq, hends.ne_nil] at h

/-- The path of the directory around an absolute path has the steps before its last one, and ends in one of
these that is no single dot. -/
theorem exists_of_parent?_eq_some {p q : Text} (hp : isAbsolute p = true) (h : parent? p = some q) :
    ∃ before step tail k, EndsIn p before step tail ∧ isAbsolute q = true ∧ q <+: before ∧
      steps before = steps q ++ List.replicate k stay ∧ (steps q).getLast? ≠ some stay := by
  rcases trailing_or_endsIn p with ⟨-, hlast⟩ | ⟨before, step, tail, hends⟩
  · simp [parent?, hlast] at h
  · have hbefore := isAbsolute_of_prefix hp ⟨step ++ tail, by rw [hends.split, List.append_assoc]⟩
      (hends.before_ne_nil hp)
    obtain ⟨rest, hroot⟩ := exists_of_isAbsolute hbefore
    obtain ⟨trail, htrail, hcut⟩ := exists_trailing before.reverse
    rw [List.reverse_reverse] at hcut
    obtain ⟨k, hk⟩ := htrail.steps_append (dropTrailing before.reverse).reverse
    rw [← hcut] at hk
    refine ⟨before, step, tail, k, hends, ?_⟩
    have hq : q = if (dropTrailing before.reverse).isEmpty then ['/']
        else (dropTrailing before.reverse).reverse := by
      simpa [parent?, hends.lastStep_eq, hends.ne_nil, hp] using h.symm
    cases hdrop : dropTrailing before.reverse with
    | nil =>
      rw [hdrop] at hq hk
      obtain rfl : q = ['/'] := hq
      exact ⟨rfl, ⟨rest, hroot.symm⟩, hk, by decide⟩
    | cons c more =>
      have hcore := isCore_dropTrailing before.reverse
      rw [hdrop] at hq hk hcut hcore
      obtain rfl : q = (c :: more).reverse := hq
      have hbegins : (c :: more).reverse <+: before := ⟨trail, hcut.symm⟩
      have habsolute := isAbsolute_of_prefix hbefore hbegins (by simp)
      refine ⟨habsolute, hbegins, hk, ?_⟩
      rcases trailing_or_endsIn (c :: more).reverse with ⟨htrailing, -⟩ | ⟨b, s, t, hinner⟩
      · have hnil := dropTrailing_append htrailing []
        rw [List.append_nil, List.reverse_reverse, dropTrailing_of_isCore hcore] at hnil
        cases hnil
      · have hsplit := hinner.dropTrailing_reverse
        rw [List.reverse_reverse, dropTrailing_of_isCore hcore, ← List.reverse_append] at hsplit
        have hwhole : (c :: more).reverse = b ++ s := List.reverse_eq_iff.2 hsplit
        rw [hwhole, steps_append_step hinner.behind_slash hinner.ne_nil hinner.no_slash, List.getLast?_concat]
        intro hstay
        exact hinner.before_ne_nil habsolute (hinner.of_stay (Option.some.inj hstay))

/-- A path that does not end in a single dot takes one step more than the path of the directory around it. -/
theorem exists_of_parent?_of_getLast? {p q : Text} (hp : isAbsolute p = true) (h : parent? p = some q)
    (hstay : (steps p).getLast? ≠ some stay) :
    isAbsolute q = true ∧ q <+: p ∧ q.length < p.length ∧ (steps q).getLast? ≠ some stay ∧
      ∃ step k, steps p = steps q ++ List.replicate k stay ++ [step] := by
  obtain ⟨before, step, tail, k, hends, hq, hbegins, hbefore, hlast⟩ := exists_of_parent?_eq_some hp h
  have hwhole : before <+: p := ⟨step ++ tail, by rw [hends.split, List.append_assoc]⟩
  have hshorter : before.length < p.length := by
    have hstep := List.length_pos_iff.2 hends.ne_nil
    rw [hends.split, List.length_append, List.length_append]
    omega
  obtain ⟨n, hsteps⟩ := hends.steps_eq
  cases n with
  | zero =>
    refine ⟨hq, hbegins.trans hwhole, Nat.lt_of_le_of_lt hbegins.length_le hshorter, hlast, step, k, ?_⟩
    rw [hsteps, hbefore]
    rfl
  | succ n =>
    refine absurd ?_ hstay
    rw [hsteps, List.replicate_succ', ← List.cons_append, ← List.append_assoc, List.getLast?_concat]

/-! ## Extensions -/

/-- A name is cut at its last dot. -/
theorem splitName_append {stem ext : Text} (hstem : stem ≠ []) (hext : '.' ∉ ext) :
    splitName (stem ++ '.' :: ext) = (stem, some ext) := by
  have hpart : ∀ c ∈ ext.reverse, (c != '.') = true := by
    intro c hc
    simpa using fun heq : c = '.' => hext (heq ▸ List.mem_reverse.1 hc)
  have hreverse : (stem ++ '.' :: ext).reverse = ext.reverse ++ '.' :: stem.reverse := by simp
  rw [splitName, hreverse, List.dropWhile_append_of_pos hpart, List.takeWhile_append_of_pos hpart]
  simp [hstem]

/-- A name with an extension is made of its parts. -/
theorem eq_of_splitName {name stem ext : Text} (h : splitName name = (stem, some ext)) :
    name = stem ++ '.' :: ext ∧ stem ≠ [] ∧ '.' ∉ ext := by
  have hparts := List.takeWhile_append_dropWhile (p := (· != '.')) (l := name.reverse)
  have hall : '.' ∉ name.reverse.takeWhile (· != '.') := fun hdot => by
    simpa using List.all_eq_true.1 List.all_takeWhile '.' hdot
  unfold splitName at h
  cases hdrop : name.reverse.dropWhile (· != '.') with
  | nil => simp [hdrop] at h
  | cons d rest =>
    have hd := List.head?_dropWhile_not (· != '.') name.reverse
    rw [hdrop] at hd hparts
    obtain rfl : d = '.' := by simpa using hd
    by_cases hrest : rest = []
    · simp [hdrop, hrest] at h
    · obtain ⟨rfl, rfl⟩ : rest.reverse = stem ∧ (name.reverse.takeWhile (· != '.')).reverse = ext := by
        simpa [hdrop, hrest] using h
      refine ⟨?_, mt List.reverse_eq_nil_iff.1 hrest, mt List.mem_reverse.1 hall⟩
      simpa using congrArg List.reverse hparts.symm

/-- A name without an extension is left whole. -/
theorem eq_of_splitName_none {name stem : Text} (h : splitName name = (stem, none)) : stem = name := by
  unfold splitName at h
  split at h
  · exact (Prod.mk.inj h).1.symm
  · split at h
    · exact (Prod.mk.inj h).1.symm
    · cases (Prod.mk.inj h).2

/-- What stands before the last dot of a name is a part of the name. -/
theorem mem_of_mem_splitName {name : Text} {c : Char} (hc : c ∈ (splitName name).1) : c ∈ name := by
  cases hsplit : splitName name with
  | mk stem ext? =>
    rw [hsplit] at hc
    cases ext? with
    | none => exact eq_of_splitName_none hsplit ▸ hc
    | some ext =>
      rw [(eq_of_splitName hsplit).1]
      exact List.mem_append_left _ hc

/-- Something stands before the last dot of a name. -/
theorem splitName_ne_nil {name : Text} (h : name ≠ []) : (splitName name).1 ≠ [] := by
  cases hsplit : splitName name with
  | mk stem ext? =>
    cases ext? with
    | none => exact eq_of_splitName_none hsplit ▸ h
    | some ext => exact (eq_of_splitName hsplit).2.1

/-- The name at the end of a path is its last step, unless that stays or leads upwards. -/
theorem EndsIn.fileName?_eq {p before step tail : Text} (h : EndsIn p before step tail) :
    fileName? p = if step = stay ∨ step = up then none else some step := by
  simp only [fileName?, h.lastStep_eq]
  simp [h.ne_nil]

/-- A path gets a new extension where the extension it had was cut off. -/
theorem withExtension_of_cut {p before step tail : Text} (h : EndsIn (cutExtension p) before step tail)
    (ext : Text) :
    withExtension p ext =
      if step = stay ∨ step = up then cutExtension p else before ++ ((splitName step).1 ++ '.' :: ext) := by
  by_cases hname : step = stay ∨ step = up
  · simp only [withExtension, h.fileName?_eq, if_pos hname]
  · simp only [withExtension, h.fileName?_eq, if_neg hname, h.lastStep_eq, List.reverse_reverse,
      List.append_assoc]

/-- A name that is cut at a dot is none of the steps that lead nowhere else or upwards, unless it is two
dots. -/
theorem append_dot_ne {stem ext : Text} (hstem : stem ≠ []) (h : stem ≠ stay ∨ ext ≠ []) :
    stem ++ '.' :: ext ≠ stay ∧ stem ++ '.' :: ext ≠ up := by
  obtain ⟨c, more, rfl⟩ := List.exists_cons_of_ne_nil hstem
  cases more with
  | nil =>
    refine ⟨by simp [stay], ?_⟩
    simp only [stay, up] at h ⊢
    simp
    grind
  | cons d rest => exact ⟨by simp [stay], by simp [up]⟩

/-- The extension of the name at the end of a path is replaced, unless nothing but a dot is left of the
name: such a path leads to the enclosing directory then. -/
theorem withExtension_append {before stem old : Text} (hbefore : before = [] ∨ ∃ dir, before = dir ++ ['/'])
    (hstem : stem ≠ []) (hslash : '/' ∉ stem ++ old) (hold : old ≠ []) (hdot : '.' ∉ old) (ext : Text) :
    withExtension (before ++ (stem ++ '.' :: old)) ext =
      before ++ if stem = stay then up else stem ++ '.' :: ext := by
  rw [List.mem_append, not_or] at hslash
  have hname : EndsIn (before ++ (stem ++ '.' :: old)) before (stem ++ '.' :: old) [] :=
    ⟨by simp, hbefore, by simp, by simp [hslash], fun h => absurd h (append_dot_ne hstem (.inr hold)).1, .nil⟩
  have hextension : extension? (before ++ (stem ++ '.' :: old)) = some old := by
    have hne := append_dot_ne hstem (.inr hold)
    rw [extension?, hname.fileName?_eq, if_neg (by simp [hne]), Option.bind_some, splitName_append hstem hdot]
  have hcut : cutExtension (before ++ (stem ++ '.' :: old)) = before ++ (stem ++ ['.']) := by
    rw [cutExtension, hextension]
    have hlength : (before ++ (stem ++ '.' :: old)).length - old.length =
        (before ++ (stem ++ ['.'])).length := by
      simp
      omega
    have hsplit : before ++ (stem ++ '.' :: old) = before ++ (stem ++ ['.']) ++ old := by simp
    change List.take ((before ++ (stem ++ '.' :: old)).length - old.length) _ = _
    rw [hlength, hsplit, List.take_left]
  have hends : EndsIn (before ++ (stem ++ ['.'])) before (stem ++ ['.']) [] := by
    refine ⟨by simp, hbefore, by simp, by simp [hslash], fun h => ?_, .nil⟩
    obtain ⟨c, more, rfl⟩ := List.exists_cons_of_ne_nil hstem
    simp [stay] at h
  rw [← hcut] at hends
  rw [withExtension_of_cut hends, hcut, splitName_append hstem (by simp)]
  by_cases hstay : stem = stay
  · subst hstay
    rfl
  · have hne : stem ++ ['.'] ≠ stay ∧ stem ++ ['.'] ≠ up := append_dot_ne hstem (.inl hstay)
    rw [if_neg (by simp [hne]), if_neg hstay]

/-- Where the extension of a path is cut off, the path still ends in a step that begins like its last one;
only the end of a name that has lost its extension may lead upwards. -/
theorem exists_cutExtension {p before step tail : Text} (h : EndsIn p before step tail)
    (hname : ¬ (step = stay ∨ step = up)) :
    ∃ step' tail', EndsIn (cutExtension p) before step' tail' ∧ step' ≠ stay ∧ (step' = up → tail' = []) := by
  rw [not_or] at hname
  cases hsplit : splitName step with
  | mk stem ext? =>
    have hextension : extension? p = ext? := by
      rw [extension?, h.fileName?_eq, if_neg (not_or.2 hname), Option.bind_some, hsplit]
    cases ext? with
    | none =>
      have hcut : cutExtension p = p := by rw [cutExtension, hextension]
      rw [hcut]
      exact ⟨step, tail, h, hname.1, fun hup => absurd hup hname.2⟩
    | some ext =>
      obtain ⟨rfl, hstem, -⟩ := eq_of_splitName hsplit
      have hcut : cutExtension p = p.take (p.length - ext.length) := by rw [cutExtension, hextension]
      have hslash := h.no_slash
      rw [List.mem_append, List.mem_cons, not_or, not_or] at hslash
      rw [hcut, h.split]
      -- As many characters are cut off as the extension has, from behind, where the trailing ones stand.
      by_cases hshort : ext.length ≤ tail.length
      · refine ⟨stem ++ '.' :: ext, tail.take (tail.length - ext.length), ?_, hname.1,
          fun hup => absurd hup hname.2⟩
        refine ⟨?_, h.behind_slash, h.ne_nil, h.no_slash, h.of_stay, h.trailing.take _⟩
        rw [List.take_append, List.take_of_length_le (by simp; omega)]
        congr 2
        simp
        omega
      · have hlong : stem ++ '.' :: ext.take tail.length ≠ stay := by
          obtain ⟨c, more, rfl⟩ := List.exists_cons_of_ne_nil hstem
          simp [stay]
        refine ⟨stem ++ '.' :: ext.take tail.length, [], ?_, hlong, fun _ => rfl⟩
        refine ⟨?_, h.behind_slash, by simp, ?_, fun hstay => absurd hstay hlong, .nil⟩
        · have hwhole : before ++ (stem ++ '.' :: ext) ++ tail =
              (before ++ (stem ++ ['.'])) ++ (ext ++ tail) := by simp
          have hlength : (before ++ (stem ++ '.' :: ext) ++ tail).length - ext.length =
              (before ++ (stem ++ ['.'])).length + tail.length := by
            simp
            omega
          rw [hlength, hwhole, List.take_length_add_append, List.take_append_of_le_length (by omega)]
          simp
        · simp [hslash.1]
          exact fun hmem => hslash.2.2 (List.mem_of_mem_take hmem)

/-- A path is left as it is if it does not end in a name. -/
theorem withExtension_of_fileName?_eq_none {p : Text} (h : fileName? p = none) (ext : Text) :
    withExtension p ext = p := by
  have hcut : cutExtension p = p := by simp [cutExtension, extension?, h]
  simp only [withExtension, hcut, h]

/-- Replacing the extension of a path changes its last step only, and only if that is a name. -/
theorem steps_withExtension (p : Text) {ext : Text} (hext : '/' ∉ ext) :
    steps (withExtension p ext) = steps p ∨
      ∃ above last last' n, steps p = above ++ last :: List.replicate n stay ∧
        steps (withExtension p ext) = above ++ [last'] ∧ last ≠ stay ∧ last ≠ up ∧ last' ≠ stay := by
  rcases trailing_or_endsIn p with ⟨-, hlast⟩ | ⟨before, step, tail, h⟩
  · have hnone : fileName? p = none := by simp [fileName?, hlast]
    exact .inl (by rw [withExtension_of_fileName?_eq_none hnone])
  · by_cases hname : step = stay ∨ step = up
    · have hnone : fileName? p = none := by rw [h.fileName?_eq, if_pos hname]
      exact .inl (by rw [withExtension_of_fileName?_eq_none hnone])
    · obtain ⟨n, hn⟩ := h.steps_eq
      obtain ⟨step', tail', hcut, hstay, hup⟩ := exists_cutExtension h hname
      rw [not_or] at hname
      refine .inr ⟨steps before, step, ?_⟩
      by_cases hupwards : step' = up
      · refine ⟨step', n, hn, ?_, hname.1, hname.2, hstay⟩
        rw [withExtension_of_cut hcut, if_pos (.inr hupwards), hcut.split, hup hupwards, List.append_nil,
          steps_append_step hcut.behind_slash hcut.ne_nil hcut.no_slash]
      · obtain ⟨c, more, hstem⟩ := List.exists_cons_of_ne_nil (splitName_ne_nil hcut.ne_nil)
        refine ⟨(splitName step').1 ++ '.' :: ext, n, hn, ?_, hname.1, hname.2, by simp [hstem, stay]⟩
        rw [withExtension_of_cut hcut, if_neg (not_or.2 ⟨hstay, hupwards⟩),
          steps_append_step hcut.behind_slash (by simp)]
        rw [List.mem_append, List.mem_cons, not_or, not_or]
        exact ⟨fun hmem => hcut.no_slash (mem_of_mem_splitName hmem), by decide, hext⟩

/-- An absolute path stays absolute when its extension is replaced. -/
theorem isAbsolute_withExtension {p : Text} (hp : isAbsolute p = true) (ext : Text) :
    isAbsolute (withExtension p ext) = true := by
  rcases trailing_or_endsIn p with ⟨-, hlast⟩ | ⟨before, step, tail, h⟩
  · have hnone : fileName? p = none := by simp [fileName?, hlast]
    rwa [withExtension_of_fileName?_eq_none hnone]
  · by_cases hname : step = stay ∨ step = up
    · have hnone : fileName? p = none := by rw [h.fileName?_eq, if_pos hname]
      rwa [withExtension_of_fileName?_eq_none hnone]
    · obtain ⟨step', tail', hcut, -⟩ := exists_cutExtension h hname
      have hbegins : cutExtension p <+: p := by
        unfold cutExtension
        split
        · exact List.prefix_rfl
        · exact List.take_prefix _ p
      have hne : cutExtension p ≠ [] := by
        rw [hcut.split]
        simp [hcut.ne_nil]
      have habsolute := isAbsolute_of_prefix hp hbegins hne
      rw [withExtension_of_cut hcut]
      split
      · exact habsolute
      · obtain ⟨c, more, hbefore⟩ := List.exists_cons_of_ne_nil (hcut.before_ne_nil habsolute)
        rw [hcut.split, hbefore] at habsolute
        rw [hbefore]
        exact habsolute

end InterfaceGen.Path
