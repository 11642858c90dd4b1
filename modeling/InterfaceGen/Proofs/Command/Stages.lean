import InterfaceGen.Proofs.Command.Building

/-!
# The stages of a build

While the sources of a build are treated one after the other, the tree changes at results and at directories
around them only.  No result is a source, so every source is read as it was in the beginning.

Main definitions:

- `Build.Writes`: whether the result of a source can be written.
- `Build.Advance`: how a build comes from one tree to a later one, and what is written on the way.
- `Build.Treatment`: what can become of a source in a tree.
- `Build.Course`: what becomes of some sources that are treated one after the other.

Main results:

- Theorem `treatment` and `Treatment.advance`: every source is treated by what it was in the beginning, and
  the build advances by that.
- Theorem `course_allTreated` and `Course.advance`: a list of sources takes its course, whatever becomes of the
  single ones, and the build advances by that.
- Theorem `place_target_injective`: different sources have results at different places.
- Theorem `readText_target`: what is written stays until the end.
-/

namespace InterfaceGen.Command.Build

open InterfaceGen.Path FileTree

variable {b : Build}

/-! ## Sources -/

/-- The directory of the sources has an absolute path. -/
theorem isAbsolute_sourceDir (b : Build) : isAbsolute b.sourceDir = true :=
  isAbsolute_join b.absolute _

/-- The directory of the results has an absolute path. -/
theorem isAbsolute_resultDir (b : Build) : isAbsolute b.resultDir = true :=
  isAbsolute_join b.absolute _

/-- Results have absolute paths. -/
theorem isAbsolute_target (b : Build) (names : List Text) : isAbsolute (b.target names) = true :=
  isAbsolute_resultPath b.isAbsolute_resultDir _

/-- Sources have absolute paths. -/
theorem isAbsolute_sourcePath (b : Build) (names : List Text) : isAbsolute (b.sourcePath names) = true :=
  isAbsolute_below b.isAbsolute_sourceDir names

/-- The path of the sources can be followed. -/
theorem reaches_sourceDir (b : Build) : b.tree.Reaches b.sourceDir := by
  obtain ⟨entry, hentry⟩ := Option.isSome_iff_exists.1 b.found
  exact ((find?_eq_some_iff b.ordinary b.isAbsolute_sourceDir).1 hentry).1

/-- A source is an entry whose path has the extension of sources. -/
theorem mem_sources_iff {names : List Text} :
    names ∈ b.sources ↔ (b.tree.entry? (place b.sourceDir ++ names)).isSome ∧
      pathFault? (b.sourcePath names.dropLast) = none ∧
        extension? (b.sourcePath names) = some sourceExtension := by
  rw [sources, FileTree.mem_sources_iff b.ordinary b.isAbsolute_sourceDir]
  exact and_iff_right b.reaches_sourceDir

/-- The steps to a source are names. -/
theorem isName_of_mem_sources {names : List Text} (h : names ∈ b.sources) : ∀ name ∈ names, IsName name := by
  obtain ⟨entry, hentry⟩ := Option.isSome_iff_exists.1 (mem_sources_iff.1 h).1
  exact (b.ordinary.above_entry hentry).1

/-- A source is given by itself, or by names that lead to it. -/
theorem eq_nil_or_namesSource {names : List Text} (h : names ∈ b.sources) :
    names = [] ∨ ∃ dirs stem, NamesSource names dirs stem := by
  by_cases hne : names = []
  · exact .inl hne
  · exact .inr (exists_namesSource (ne_nil_of_isAbsolute b.isAbsolute_sourceDir) (isName_of_mem_sources h) hne
      (mem_sources_iff.1 h).2.2)

/-- The place of a source is below that of the directory of the sources. -/
theorem place_sourcePath {names : List Text} (h : names ∈ b.sources) :
    place (b.sourcePath names) = place b.sourceDir ++ names :=
  place_below (isName_of_mem_sources h) _

/-- The path of a source can be followed unless it has a fault. -/
theorem reaches_sourcePath {names : List Text} (h : names ∈ b.sources)
    (hfault : pathFault? (b.sourcePath names) = none) :
    b.tree.Reaches (b.sourcePath names) := by
  obtain ⟨entry, hentry⟩ := Option.isSome_iff_exists.1 (mem_sources_iff.1 h).1
  exact b.reaches_sourceDir.below b.ordinary hentry hfault

/-- Different sources have different results. -/
theorem nodup_targets (b : Build) : (b.sources.map b.target).Nodup := by
  refine List.pairwise_map.2 (List.Pairwise.imp_of_mem (fun h h' hne heq => hne ?_)
    (nodup_sources b.ordinary b.isAbsolute_sourceDir sourceExtension))
  exact resultPath_injective b.isAbsolute_resultDir (eq_nil_or_namesSource h) (eq_nil_or_namesSource h') heq

/-! ## Results -/

/-- The interfaces that a source gives in the beginning, if it gives any. -/
def result? (b : Build) (names : List Text) : Option Text :=
  match b.tree.readText b.env.home (b.sourcePath names) with
  | .error _ => none
  | .ok source =>
    match translation b.options source with
    | .error _ => none
    | .ok result => if result.isEmpty then none else some result

/-- A source gives the interfaces of its text, if there are any. -/
theorem result?_eq_some_iff {names : List Text} {result : Text} : b.result? names = some result ↔
    ∃ source, b.tree.readText b.env.home (b.sourcePath names) = .ok source ∧
      (convert b.options source).value = .ok result ∧ result ≠ [] := by
  unfold result?
  cases b.tree.readText b.env.home (b.sourcePath names) with
  | error fault => simp
  | ok source =>
    simp only [Except.ok.injEq, exists_eq_left']
    constructor
    · intro h
      split at h
      · cases h
      · next given htranslation =>
        split at h
        · cases h
        · next hempty =>
          obtain rfl := Option.some.inj h
          have hne : given ≠ [] := by simpa using hempty
          exact ⟨(convert_of_translation htranslation (by simpa using hne)).2, hne⟩
    · rintro ⟨hconvert, hne⟩
      simp [translation_of_convert hconvert, hne]

/-- The locations on the way to results. -/
def ways (b : Build) : List Location :=
  (b.sources.filter fun names => (b.result? names).isSome).flatMap fun names => way (b.target names)

/-- Whether the result of a source can be written: there is one, and its path ends in a name. -/
structure Writes (b : Build) (names : List Text) : Prop where
  is_source : names ∈ b.sources
  has_result : (b.result? names).isSome
  has_name : (fileName? (b.target names)).isSome

/-- A result that can be written has the extension of results. -/
theorem Writes.hasExtension {names : List Text} (h : b.Writes names) :
    HasExtension (place (b.target names)) resultExtension := by
  refine hasExtension_place (b.isAbsolute_target names)
    ((extension?_withExtension _ (by decide) (by decide) (by decide)).resolve_left fun hnone => ?_)
  have hnone' : fileName? (b.target names) = none := hnone
  simpa [hnone'] using h.has_name

/-- How a build comes from one tree to a later one: the results of some sources are written, and directories
are made on the way to results. -/
structure Advance (b : Build) (written : List (List Text)) (tree tree' : FileTree) : Prop where
  grows : Grows (written.map fun names => place (b.target names)) b.ways tree tree'
  writes : ∀ names ∈ written, b.Writes names

/-- A build may come further. -/
theorem Advance.trans {written written' : List (List Text)} {tree tree' tree'' : FileTree}
    (h : b.Advance written tree tree') (h' : b.Advance written' tree' tree'') :
    b.Advance (written ++ written') tree tree'' := by
  refine ⟨(h.grows.mono ?_ (List.Subset.refl _)).trans (h'.grows.mono ?_ (List.Subset.refl _)),
    fun names hnames => ?_⟩
  · exact List.map_subset _ (List.subset_append_left _ _)
  · exact List.map_subset _ (List.subset_append_right _ _)
  · exact (List.mem_append.1 hnames).elim (h.writes names) (h'.writes names)

/-- What can become of a source in a tree, and the tree after that.  The source is read as it was in the
beginning.  It fails if it cannot be read, if it is not blank and cannot be converted, or if it has interfaces
and these cannot be put into their file; it is skipped if it is blank or has no classes; it is converted if its
interfaces and a line break are put into their file. -/
inductive Treatment (b : Build) (names : List Text) (tree : FileTree) : Fate → FileTree → Prop
  | unreadable (fault : FileError) (unread : b.tree.readText b.env.home (b.sourcePath names) = .error fault) :
      Treatment b names tree (.failed (.files fault)) tree
  | refused (source : Text) (cause : ConversionError)
      (read : b.tree.readText b.env.home (b.sourcePath names) = .ok source)
      (not_blank : Text.allBlank source = false) (refused : (convert b.options source).value = .error cause) :
      Treatment b names tree (.failed (.conversion cause)) tree
  | skipped (source : Text) (read : b.tree.readText b.env.home (b.sourcePath names) = .ok source)
      (empty : Text.allBlank source = true ∨ (convert b.options source).value = .ok []) :
      Treatment b names tree .skipped tree
  | unwritten (source result : Text) (fault : FileError) (next : FileTree)
      (read : b.tree.readText b.env.home (b.sourcePath names) = .ok source)
      (converted : (convert b.options source).value = .ok result) (ne_nil : result ≠ [])
      (put : tree.putText b.env.home (b.target names) (result ++ ['\n']) = (next, some fault)) :
      Treatment b names tree (.failed (.files fault)) next
  | written (source result : Text) (next : FileTree)
      (read : b.tree.readText b.env.home (b.sourcePath names) = .ok source)
      (converted : (convert b.options source).value = .ok result) (ne_nil : result ≠ [])
      (put : tree.putText b.env.home (b.target names) (result ++ ['\n']) = (next, none)) :
      Treatment b names tree (.converted (b.target names)) next

/-- What becomes of some sources that are treated one after the other, from one tree to another: each is
treated in the tree that those before it leave, whatever has become of these. -/
inductive Course (b : Build) : List (List Text) → List Fate → FileTree → FileTree → Prop
  | nil (tree : FileTree) : Course b [] [] tree tree
  | cons {names : List Text} {rest : List (List Text)} {fate : Fate} {fates : List Fate}
      {tree next last : FileTree} (first : b.Treatment names tree fate next)
      (others : Course b rest fates next last) : Course b (names :: rest) (fate :: fates) tree last

/-! ## Stages -/

variable {written : List (List Text)} {tree : FileTree} (h : b.Advance written b.tree tree)

section Stage

include h

/-- No result is a source. -/
theorem place_sourcePath_notMem {names : List Text} (hnames : names ∈ b.sources) :
    place (b.sourcePath names) ∉ written.map fun names => place (b.target names) := by
  intro hmem
  obtain ⟨names', hnames', hplace⟩ := List.mem_map.1 hmem
  have hsource := hasExtension_place (b.isAbsolute_sourcePath names) (mem_sources_iff.1 hnames).2.2
  have hresult := (h.writes names' hnames').hasExtension
  rw [hplace] at hresult
  exact absurd (hsource.unique hresult) (by decide)

/-- Every source is read as it was in the beginning. -/
theorem readText_sourcePath {names : List Text} (hnames : names ∈ b.sources) :
    tree.readText b.env.home (b.sourcePath names) = b.tree.readText b.env.home (b.sourcePath names) := by
  refine h.grows.readText_eq b.ordinary (b.isAbsolute_sourcePath names) ?_ (reaches_sourcePath hnames)
    fun _ => place_sourcePath_notMem h hnames
  rw [place_sourcePath hnames]
  exact (mem_sources_iff.1 hnames).1

/-- A source is treated by what it was in the beginning. -/
theorem treatment {names : List Text} (hnames : names ∈ b.sources) :
    let (fate, next) := treated b.env b.options b.sourceDir b.resultDir names tree
    b.Treatment names tree fate next := by
  have hread := readText_sourcePath h hnames
  change (tree.readText b.env.home (below b.sourceDir names)) = _ at hread
  unfold treated
  rw [hread]
  cases hsource : b.tree.readText b.env.home (b.sourcePath names) with
  | error fault => exact .unreadable fault hsource
  | ok source =>
    cases htranslation : translation b.options source with
    | error cause =>
      simp only [htranslation]
      obtain ⟨hblank, hconvert⟩ := convert_of_translation htranslation (by simp)
      exact .refused source cause hsource hblank hconvert
    | ok result =>
      simp only [htranslation]
      by_cases hempty : result = []
      · rw [hempty] at htranslation
        simp only [hempty, List.isEmpty_nil, if_true]
        exact .skipped source hsource (translation_eq_nil_iff.1 htranslation)
      · have hconvert := (convert_of_translation htranslation (by simpa using hempty)).2
        rw [if_neg (by simpa using hempty)]
        cases hput : tree.putText b.env.home (b.target names) (result ++ ['\n']) with
        | mk next fault? =>
          change tree.putText b.env.home (resultPath b.resultDir (ofSteps names)) (result ++ ['\n']) =
            (next, fault?) at hput
          rw [hput]
          cases fault? with
          | none => exact .written source result next hsource hconvert hempty hput
          | some fault => exact .unwritten source result fault next hsource hconvert hempty hput

end Stage

/-- The way to the result of a source is a way to results, if the source gives one. -/
theorem way_subset_ways {names : List Text} (hnames : names ∈ b.sources) {result : Text}
    (hresult : b.result? names = some result) : way (b.target names) ⊆ b.ways := by
  intro q hq
  refine List.mem_flatMap.2 ⟨names, List.mem_filter.2 ⟨hnames, ?_⟩, hq⟩
  rw [hresult]
  rfl

/-- A source that is converted has its result at its path. -/
theorem Treatment.writes (ht : tree.IsOrdinary) {names : List Text} (hnames : names ∈ b.sources)
    {target : Text} {tree' : FileTree} (h : b.Treatment names tree (.converted target) tree') :
    target = b.target names ∧ b.Writes names := by
  cases h with
  | written source result _ read converted ne_nil put =>
    obtain ⟨-, -, -, above, name, hname, -⟩ :=
      of_putText_eq_none ht b.env.home (b.isAbsolute_target names) put
    have hgiven := result?_eq_some_iff.2 ⟨source, read, converted, ne_nil⟩
    exact ⟨rfl, hnames, by simp [hgiven], by simp [hname]⟩

/-- A build advances by treating a source. -/
theorem Treatment.advance (ht : tree.IsOrdinary) {names : List Text} (hnames : names ∈ b.sources)
    {fate : Fate} {tree' : FileTree} (h : b.Treatment names tree fate tree') :
    b.Advance (if fate.isConverted then [names] else []) tree tree' := by
  have hself : b.Advance [] tree tree := ⟨.refl ht, by simp⟩
  cases h with
  | unreadable fault unread => exact hself
  | refused source cause read not_blank refused => exact hself
  | skipped source read empty => exact hself
  | unwritten source result fault _ read converted ne_nil put =>
    have hgiven := result?_eq_some_iff.2 ⟨source, read, converted, ne_nil⟩
    have hput := grows_putText ht b.env.home (b.isAbsolute_target names) put
    exact ⟨hput.mono (List.nil_subset _) (way_subset_ways hnames hgiven), by simp [Fate.isConverted]⟩
  | written source result _ read converted ne_nil put =>
    have hgiven := result?_eq_some_iff.2 ⟨source, read, converted, ne_nil⟩
    have hput := grows_putText ht b.env.home (b.isAbsolute_target names) put
    have hwrites := (Treatment.writes ht hnames (.written source result tree' read converted ne_nil put)).2
    exact ⟨hput.mono (List.Subset.refl _) (way_subset_ways hnames hgiven),
      by simpa [Fate.isConverted] using hwrites⟩

/-! ## Courses -/

/-- A build begins with the tree that it finds. -/
theorem advance_nil (b : Build) : b.Advance [] b.tree b.tree :=
  ⟨.refl b.ordinary, by simp⟩

/-- Sources take their course from every stage of a build. -/
theorem course_allTreated (h : b.Advance written b.tree tree) {sources : List (List Text)}
    (hsources : sources ⊆ b.sources) :
    let (fates, last) := allTreated b.env b.options b.sourceDir b.resultDir sources tree
    b.Course sources fates tree last := by
  -- By induction on the sources: the first is treated as in the beginning, as no result so far is a source.
  induction sources generalizing written tree with
  | nil => exact .nil tree
  | cons names rest ih =>
    obtain ⟨hnames, hrest⟩ := List.cons_subset.1 hsources
    have hfirst := treatment h hnames
    have hnext := h.trans (hfirst.advance h.grows.ordinary hnames)
    exact .cons hfirst (ih hnext hrest)

/-- Every fate is that of a source at a stage of the course, and the sources behind it take their course from
there. -/
theorem Course.exists_of_mem_zip {sources : List (List Text)} {fates : List Fate} {last : FileTree}
    (h : b.Course sources fates tree last) {names : List Text} {fate : Fate}
    (hmem : (names, fate) ∈ sources.zip fates) :
    ∃ before earlier mid next after later, sources = before ++ names :: after ∧
      b.Course before earlier tree mid ∧ b.Treatment names mid fate next ∧ b.Course after later next last := by
  induction h with
  | nil tree => cases hmem
  | cons first others ih =>
    rcases List.mem_cons.1 hmem with heq | hmem
    · obtain ⟨rfl, rfl⟩ := Prod.mk.inj heq
      exact ⟨[], [], _, _, _, _, rfl, .nil _, first, others⟩
    · obtain ⟨before, earlier, mid, next, after, later, rfl, hearlier, htreatment, hlater⟩ := ih hmem
      exact ⟨_ :: before, _ :: earlier, mid, next, after, later, rfl, .cons first hearlier, htreatment, hlater⟩

/-- A build advances by the course that sources take. -/
theorem Course.advance (ht : tree.IsOrdinary) {sources : List (List Text)} {fates : List Fate}
    {last : FileTree} (h : b.Course sources fates tree last) (hsources : sources ⊆ b.sources) :
    b.Advance (converted sources fates) tree last := by
  induction h with
  | nil tree => exact ⟨.refl ht, by simp [converted]⟩
  | @cons names rest fate fates tree next last first others ih =>
    obtain ⟨hnames, hrest⟩ := List.cons_subset.1 hsources
    have hfirst := first.advance ht hnames
    have hall := hfirst.trans (ih hfirst.grows.ordinary hrest)
    cases hconverted : fate.isConverted with
    | true => simpa [converted, hconverted] using hall
    | false => simpa [converted, hconverted] using hall

/-- A build advances by treating sources. -/
theorem advance_allTreated (h : b.Advance written b.tree tree) {sources : List (List Text)}
    (hsources : sources ⊆ b.sources) :
    let treatments := allTreated b.env b.options b.sourceDir b.resultDir sources tree
    b.Advance (converted sources treatments.1) tree treatments.2 :=
  (course_allTreated h hsources).advance h.grows.ordinary hsources

/-- The sources of a build take their course from what it finds to what it leaves. -/
theorem course_treatments (b : Build) : b.Course b.sources b.fates b.tree b.treatments.2 :=
  course_allTreated b.advance_nil (List.Subset.refl _)

/-- A build advances from what it finds to what it leaves. -/
theorem advance_treatments (b : Build) : b.Advance (converted b.sources b.fates) b.tree b.treatments.2 :=
  advance_allTreated b.advance_nil (List.Subset.refl _)

/-! ## Fates -/

/-- Every fate is that of a source at a stage of the build, and the build advances with the sources behind
it. -/
theorem exists_treatment {names : List Text} {fate : Fate} (h : (names, fate) ∈ b.sources.zip b.fates) :
    ∃ after written mid next,
      names ∉ after ∧ b.Advance written b.tree mid ∧ b.Treatment names mid fate next ∧
      ∃ later, later ⊆ after ∧ b.Advance later next b.treatments.2 := by
  obtain ⟨before, earlier, mid, next, after, later, hsplit, hearlier, htreatment, hlater⟩ :=
    b.course_treatments.exists_of_mem_zip h
  have hbefore : before ⊆ b.sources := fun n hn => hsplit ▸ by simp [hn]
  have hafter : after ⊆ b.sources := fun n hn => hsplit ▸ by simp [hn]
  have hmid := hearlier.advance b.ordinary hbefore
  have hnext := htreatment.advance hmid.grows.ordinary (List.of_mem_zip h).1
  have hend := hlater.advance hnext.grows.ordinary hafter
  have hnodup : b.sources.Nodup := nodup_sources b.ordinary b.isAbsolute_sourceDir sourceExtension
  rw [hsplit] at hnodup
  have hself := (List.nodup_cons.1 (List.nodup_append.1 hnodup).2.1).1
  refine ⟨after, _, mid, next, hself, hmid, htreatment, _, fun n hn => ?_, hend⟩
  obtain ⟨target, hmem⟩ := mem_converted_iff.1 hn
  exact (List.of_mem_zip hmem).1

/-- A source that is found elsewhere than at the path of the sources is below a directory. -/
theorem directory_of_mem_sources {names : List Text} (hnames : names ∈ b.sources) (hne : names ≠ []) :
    b.tree.entry? (place b.sourceDir) = some .directory := by
  obtain ⟨entry, hentry⟩ := Option.isSome_iff_exists.1 (mem_sources_iff.1 hnames).1
  simpa using (b.ordinary.above_entry hentry).2 [] names rfl hne

/-- A source that gives a result is a file. -/
theorem exists_content_of_result? {names : List Text} (hnames : names ∈ b.sources)
    (h : (b.result? names).isSome) :
    ∃ content, b.tree.entry? (place b.sourceDir ++ names) = some (.file content) := by
  obtain ⟨result, hresult⟩ := Option.isSome_iff_exists.1 h
  obtain ⟨source, hread, -⟩ := result?_eq_some_iff.1 hresult
  have hfile := ((readText_eq_ok_iff b.ordinary (b.isAbsolute_sourcePath names)).1 hread).2
  rw [place_sourcePath hnames] at hfile
  exact ⟨_, hfile⟩

/-- Different sources have results at different places, if their paths end in names. -/
theorem place_target_injective {names names' : List Text} (h : names ∈ b.sources) (h' : names' ∈ b.sources)
    (hname : (fileName? (b.target names)).isSome) (hname' : (fileName? (b.target names')).isSome)
    (heq : place (b.target names) = place (b.target names')) : names = names' := by
  obtain ⟨name, hname⟩ := Option.isSome_iff_exists.1 hname
  obtain ⟨name', hname'⟩ := Option.isSome_iff_exists.1 hname'
  rcases eq_nil_or_namesSource h with rfl | ⟨dirs, stem, hsplit⟩ <;>
    rcases eq_nil_or_namesSource h' with rfl | ⟨dirs', stem', hsplit'⟩
  · rfl
  · rw [target, target, place_resultPath b.isAbsolute_resultDir hsplit' hname'] at heq
    exact absurd heq (place_resultPath_nil_ne b.isAbsolute_resultDir hname (by simp))
  · rw [target, target, place_resultPath b.isAbsolute_resultDir hsplit hname] at heq
    exact absurd heq.symm (place_resultPath_nil_ne b.isAbsolute_resultDir hname' (by simp))
  · rw [target, target, place_resultPath b.isAbsolute_resultDir hsplit hname,
      place_resultPath b.isAbsolute_resultDir hsplit' hname'] at heq
    obtain ⟨hdirs, hlast⟩ := List.append_inj' (List.append_cancel_left heq) rfl
    rw [hsplit.split, hsplit'.split, hdirs, List.append_cancel_right (List.singleton_inj.1 hlast)]

/-- What is written stays until the end of the build. -/
theorem readText_target {names : List Text} {target : Text}
    (h : (names, Fate.converted target) ∈ b.sources.zip b.fates) :
    target = b.target names ∧ ∃ result, b.result? names = some result ∧
      b.treatments.2.readText b.env.home target = .ok (result ++ ['\n']) := by
  obtain ⟨after, written, mid, next, hnames, hmid, htreatment, later, hlater, hlast⟩ := exists_treatment h
  obtain ⟨rfl, hwrites⟩ := htreatment.writes hmid.grows.ordinary (List.of_mem_zip h).1
  have hapart : place (b.target names) ∉ later.map fun names => place (b.target names) := by
    intro hmem
    obtain ⟨names', hnames', hplace⟩ := List.mem_map.1 hmem
    have hwrites' := hlast.writes names' hnames'
    have heq := place_target_injective hwrites'.is_source hwrites.is_source hwrites'.has_name hwrites.has_name
      hplace
    exact hnames (heq ▸ hlater hnames')
  refine ⟨rfl, ?_⟩
  cases htreatment with
  | written source result _ read converted ne_nil put =>
    obtain ⟨hreaches, hentry, -⟩ :=
      of_putText_eq_none hmid.grows.ordinary b.env.home (b.isAbsolute_target names) put
    refine ⟨result, result?_eq_some_iff.2 ⟨source, read, converted, ne_nil⟩, ?_⟩
    rw [readText_eq_ok_iff hlast.grows.ordinary (b.isAbsolute_target names), hlast.grows.file_iff hapart]
    exact ⟨hreaches.mono fun q => hlast.grows.directory, hentry⟩

end InterfaceGen.Command.Build
