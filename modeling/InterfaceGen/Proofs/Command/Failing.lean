import InterfaceGen.Proofs.Command.Stages

/-!
# When a build fails

A build finds its sources by the extension of their names.  It takes directories with such names for sources
as well, and fails as these cannot be read.

Main definitions:

- `Build.Unblocked`: when no result is kept from its place by other files and directories.
- `Build.Obstacle`: what keeps an entry from being converted then.

Main results:

- Theorem `converted_of_unblocked`: a source that gives a result is converted if its path can be held.
- Theorem `fails_iff_obstacle`: a build fails exactly if an entry with the extension of sources is no file,
  cannot be read, cannot be converted, or has a result whose path cannot be held.
-/

namespace InterfaceGen.Command

open InterfaceGen.Path FileTree Text

namespace Build

variable {b : Build}

/-! ## Unblocked builds -/

/-- No result is kept from its place: there is no file where a directory has to be, no directory where a
result has to be, and no result where a directory has to be for another one. -/
structure Unblocked (b : Build) : Prop where
  no_file : ∀ q ∈ b.ways, ∀ content, b.tree.entry? q ≠ some (.file content)
  no_directory : ∀ names ∈ b.sources, (b.result? names).isSome →
    b.tree.entry? (place (b.target names)) ≠ some .directory
  apart : ∀ names ∈ b.sources, (b.result? names).isSome → place (b.target names) ∉ b.ways

/-- A build with at most one result is unblocked if nothing is in the way of that. -/
theorem unblocked_of_one (names : List Text)
    (hnames : ∀ names' ∈ b.sources, (b.result? names').isSome → names' = names)
    (hfile : ∀ q ∈ way (b.target names), ∀ content, b.tree.entry? q ≠ some (.file content))
    (hdir : b.tree.entry? (place (b.target names)) ≠ some .directory)
    (hapart : place (b.target names) ∉ way (b.target names)) : b.Unblocked := by
  have hways : b.ways ⊆ way (b.target names) := by
    intro q hq
    obtain ⟨names', hmem, hway⟩ := List.mem_flatMap.1 hq
    obtain ⟨hsource, hsome⟩ := List.mem_filter.1 hmem
    exact hnames names' hsource hsome ▸ hway
  refine ⟨fun q hq => hfile q (hways hq), fun names' hsource hsome => ?_, fun names' hsource hsome hmem => ?_⟩
  · rwa [hnames names' hsource hsome]
  · rw [hnames names' hsource hsome] at hmem
    exact hapart (hways hmem)

/-- Nothing is in the way of a result at any stage of an unblocked build. -/
theorem Unblocked.allows (h : b.Unblocked) {written : List (List Text)} {tree : FileTree}
    (hadvance : b.Advance written b.tree tree) {names : List Text} (hnames : names ∈ b.sources)
    {result : Text}
    (hresult : b.result? names = some result) (hfault : pathFault? (b.target names) = none)
    (hfits : ∀ step ∈ steps (b.target names), byteSize step ≤ maxNameBytes) :
    tree.Allows (b.target names) := by
  have hsome : (b.result? names).isSome := by simp [hresult]
  have hways := way_subset_ways hnames hresult
  refine ⟨hfault, hfits, fun q hq content hfile => ?_, fun hdir => ?_,
    fun hq => h.apart names hnames hsome (hways hq)⟩
  · rcases hadvance.grows.cases q with hsame | ⟨hwritten, -⟩ | ⟨-, -, hdir⟩
    · exact h.no_file q (hways hq) content (hsame ▸ hfile)
    · obtain ⟨names', hnames', rfl⟩ := List.mem_map.1 hwritten
      have hwrites := hadvance.writes names' hnames'
      exact h.apart names' hwrites.is_source hwrites.has_result (hways hq)
    · simp [hdir] at hfile
  · rcases hadvance.grows.cases (place (b.target names)) with hsame | ⟨-, -, content, hfile⟩ | ⟨hmade, -⟩
    · exact h.no_directory names hnames hsome (hsame ▸ hdir)
    · simp [hfile] at hdir
    · exact h.apart names hnames hsome hmade

/-- A source that gives a result is converted where nothing is in the way of it. -/
theorem Treatment.eq_converted {tree tree' : FileTree} (ht : tree.IsOrdinary) {names : List Text}
    {fate : Fate} (h : b.Treatment names tree fate tree') {result : Text}
    (hresult : b.result? names = some result) (hallows : tree.Allows (b.target names)) :
    fate = .converted (b.target names) := by
  obtain ⟨source, hread, hconvert, hne⟩ := result?_eq_some_iff.1 hresult
  cases h with
  | unreadable fault unread => simp [hread] at unread
  | refused source' cause read not_blank refused =>
    obtain rfl := Except.ok.inj (hread.symm.trans read)
    simp [hconvert] at refused
  | skipped source' read empty =>
    obtain rfl := Except.ok.inj (hread.symm.trans read)
    have htranslation := (translation_of_convert hconvert).symm.trans (translation_eq_nil_iff.2 empty)
    exact absurd (Except.ok.inj htranslation) hne
  | unwritten source' result' fault _ read converted ne_nil put =>
    have hput := putText_succeeds ht b.env.home (b.isAbsolute_target names) hallows (result' ++ ['\n'])
    simp [put] at hput
  | written source' result' _ read converted ne_nil put => rfl

/-- A source that cannot be read fails. -/
theorem Treatment.eq_failed {tree tree' : FileTree} {names : List Text} {fate : Fate}
    (h : b.Treatment names tree fate tree') {fault : FileError}
    (hunread : b.tree.readText b.env.home (b.sourcePath names) = .error fault) :
    fate = .failed (.files fault) := by
  cases h with
  | unreadable fault' unread =>
    obtain rfl := Except.error.inj (hunread.symm.trans unread)
    rfl
  | refused source cause read not_blank refused => simp [hunread] at read
  | skipped source read empty => simp [hunread] at read
  | unwritten source result fault _ read converted ne_nil put => simp [hunread] at read
  | written source result _ read converted ne_nil put => simp [hunread] at read

/-- A source of an unblocked build is converted if it gives a result whose path can be held. -/
theorem converted_of_unblocked (h : b.Unblocked) {names : List Text} {fate : Fate}
    (hmem : (names, fate) ∈ b.sources.zip b.fates) {result : Text} (hresult : b.result? names = some result)
    (hfault : pathFault? (b.target names) = none)
    (hfits : ∀ step ∈ steps (b.target names), byteSize step ≤ maxNameBytes) :
    fate = .converted (b.target names) := by
  obtain ⟨after, written, mid, next, -, hmid, htreatment, -⟩ := exists_treatment hmem
  exact htreatment.eq_converted hmid.grows.ordinary hresult
    (h.allows hmid (List.of_mem_zip hmem).1 hresult hfault hfits)

/-! ## Obstacles -/

/-- What keeps an entry that is taken for a source from being converted, if nothing is in the way of
results: it is a directory; its path is too long; it holds bytes that are no text; it holds text that is not
blank and that cannot be converted, or whose interfaces would be at a path that is too long. -/
inductive Obstacle (b : Build) (names : List Text) : Entry → Prop
  | directory : Obstacle b names .directory
  | unreachable (content : Content) (fault : pathFault? (b.sourcePath names) ≠ none) :
    Obstacle b names (.file content)
  | binary (bytes : List UInt8) : Obstacle b names (.file (.binary bytes))
  | refused (source : Text) (cause : ConversionError) (not_blank : allBlank source = false)
      (refused : (convert b.options source).value = .error cause) : Obstacle b names (.file (.text source))
  | unwritable (source result : Text) (not_blank : allBlank source = false)
      (converted : (convert b.options source).value = .ok result) (ne_nil : result ≠ [])
      (unheld : pathFault? (b.target names) ≠ none ∨
        ∃ step ∈ steps b.resultDir, maxNameBytes < byteSize step) :
      Obstacle b names (.file (.text source))

/-- The steps to a result below the directory of the results fit if those to the directory do. -/
theorem steps_target_fit {names : List Text} (hnames : names ∈ b.sources) (hne : names ≠ [])
    (h : ∀ step ∈ steps b.resultDir, byteSize step ≤ maxNameBytes) :
    ∀ step ∈ steps (b.target names), byteSize step ≤ maxNameBytes := by
  obtain ⟨dirs, stem, hsource⟩ := (eq_nil_or_namesSource hnames).resolve_left hne
  intro step hstep
  rw [target, steps_resultPath b.isAbsolute_resultDir hsource, List.mem_append, List.mem_append,
    List.mem_singleton] at hstep
  rcases hstep with (hstep | hstep) | rfl
  · exact h step hstep
  · exact (hsource.dirs_names step hstep).fits
  · split
    · decide
    · have hsame : byteSize ('.' :: resultExtension) = byteSize ('.' :: sourceExtension) := by decide
      rw [byteSize_append, hsame, ← byteSize_append]
      exact hsource.is_name.fits

/-- The steps to the directory of the results are steps to every result below it. -/
theorem mem_steps_target {names : List Text} (hnames : names ∈ b.sources) (hne : names ≠ []) {step : Text}
    (h : step ∈ steps b.resultDir) : step ∈ steps (b.target names) := by
  obtain ⟨dirs, stem, hsource⟩ := (eq_nil_or_namesSource hnames).resolve_left hne
  rw [target, steps_resultPath b.isAbsolute_resultDir hsource, List.append_assoc]
  exact List.mem_append_left _ h

section Entry

variable {names : List Text} {entry : Entry} (hnames : names ∈ b.sources)
  (hentry : b.tree.entry? (place b.sourceDir ++ names) = some entry)
include hnames hentry

/-- A source that is read is a file with that text. -/
theorem eq_file_of_read {source : Text}
    (hread : b.tree.readText b.env.home (b.sourcePath names) = .ok source) :
    b.tree.Reaches (b.sourcePath names) ∧ entry = .file (.text source) := by
  obtain ⟨hreaches, hplace⟩ := (readText_eq_ok_iff b.ordinary (b.isAbsolute_sourcePath names)).1 hread
  rw [place_sourcePath hnames, hentry] at hplace
  exact ⟨hreaches, Option.some.inj hplace⟩

/-- A source that cannot be read is a directory, has a path that is too long, or holds bytes that are no
text. -/
theorem obstacle_of_unread {fault : FileError}
    (unread : b.tree.readText b.env.home (b.sourcePath names) = .error fault) : b.Obstacle names entry := by
  rcases b.ordinary.entry?_cases (place b.sourceDir ++ names) with hnone | hself | ⟨content, hself⟩
  · simp [hentry] at hnone
  · obtain rfl := Option.some.inj (hentry.symm.trans hself)
    exact .directory
  · obtain rfl := Option.some.inj (hentry.symm.trans hself)
    by_cases hfault : pathFault? (b.sourcePath names) = none
    · rw [readText_of_reaches b.ordinary (b.isAbsolute_sourcePath names) (reaches_sourcePath hnames hfault),
        place_sourcePath hnames, hself] at unread
      cases content with
      | text t => cases unread
      | binary bytes => exact .binary bytes
    · exact .unreachable content hfault

/-- A source with an obstacle that can be read and translated gives a result whose path cannot be held. -/
theorem Obstacle.unheld_of_read (h : b.Obstacle names entry) {source result : Text}
    (hread : b.tree.readText b.env.home (b.sourcePath names) = .ok source)
    (htranslation : translation b.options source = .ok result) :
    result ≠ [] ∧ (pathFault? (b.target names) ≠ none ∨
      ∃ step ∈ steps b.resultDir, maxNameBytes < byteSize step) := by
  obtain ⟨hreaches, rfl⟩ := eq_file_of_read hnames hentry hread
  cases h with
  | unreachable content fault => exact absurd hreaches.no_fault fault
  | refused source cause not_blank refused => simp [translation, not_blank, refused] at htranslation
  | unwritable source result' not_blank converted ne_nil unheld =>
    obtain rfl : result' = result := by simpa [translation, not_blank, converted] using htranslation
    exact ⟨ne_nil, unheld⟩

/-- A source in a directory is not found at the path of the sources itself. -/
theorem ne_nil_of_read (hdir : b.tree.entry? (place b.sourceDir) = some .directory) {source : Text}
    (hread : b.tree.readText b.env.home (b.sourcePath names) = .ok source) : names ≠ [] := by
  rintro rfl
  obtain ⟨-, rfl⟩ := eq_file_of_read hnames hentry hread
  simp [hdir] at hentry

end Entry

/-- A source that has failed has an obstacle. -/
theorem obstacle_of_failed (h : b.Unblocked) (hdir : b.tree.entry? (place b.sourceDir) = some .directory)
    {names : List Text} {failure : Failure} (hmem : (names, Fate.failed failure) ∈ b.sources.zip b.fates)
    {entry : Entry} (hentry : b.tree.entry? (place b.sourceDir ++ names) = some entry) :
    b.Obstacle names entry := by
  have hnames := (List.of_mem_zip hmem).1
  obtain ⟨after, written, mid, next, -, hmid, htreatment, -⟩ := exists_treatment hmem
  cases htreatment with
  | unreadable fault unread => exact obstacle_of_unread hnames hentry unread
  | refused source cause read not_blank refused =>
    obtain ⟨-, rfl⟩ := eq_file_of_read hnames hentry read
    exact .refused source cause not_blank refused
  | unwritten source result fault _ read converted ne_nil put =>
    have hnil := ne_nil_of_read hnames hentry hdir read
    have hgiven := result?_eq_some_iff.2 ⟨source, read, converted, ne_nil⟩
    obtain ⟨-, rfl⟩ := eq_file_of_read hnames hentry read
    have hblank := allBlank_of_convert converted
    refine .unwritable source result hblank converted ne_nil (Classical.byContradiction fun hheld => ?_)
    simp only [ne_eq, not_or, Classical.not_not, not_exists, not_and, Nat.not_lt] at hheld
    have hallows := h.allows hmid hnames hgiven hheld.1 (steps_target_fit hnames hnil hheld.2)
    have hput := putText_succeeds hmid.grows.ordinary b.env.home (b.isAbsolute_target names) hallows
      (result ++ ['\n'])
    simp [put] at hput

/-- A source with an obstacle fails. -/
theorem failed_of_obstacle (hdir : b.tree.entry? (place b.sourceDir) = some .directory)
    {names : List Text} {fate : Fate} (hmem : (names, fate) ∈ b.sources.zip b.fates) {entry : Entry}
    (hentry : b.tree.entry? (place b.sourceDir ++ names) = some entry) (h : b.Obstacle names entry) :
    fate.isFailed = true := by
  have hnames := (List.of_mem_zip hmem).1
  obtain ⟨after, written, mid, next, -, hmid, htreatment, -⟩ := exists_treatment hmem
  cases htreatment with
  | unreadable fault unread => rfl
  | refused source cause read not_blank refused => rfl
  | unwritten source result fault _ read converted ne_nil put => rfl
  | skipped source read empty =>
    exact absurd rfl (h.unheld_of_read hnames hentry read (translation_eq_nil_iff.2 empty)).1
  | written source result _ read converted ne_nil put =>
    have htranslation := translation_of_convert converted
    have hnil := ne_nil_of_read hnames hentry hdir read
    have hreaches := (of_putText_eq_none hmid.grows.ordinary b.env.home (b.isAbsolute_target names) put).1
    rcases (h.unheld_of_read hnames hentry read htranslation).2 with hfault | ⟨step, hstep, hlong⟩
    · exact absurd hreaches.no_fault hfault
    · exact absurd (hreaches.fits step (mem_steps_target hnames hnil hstep)) (Nat.not_le.2 hlong)

/-! ## Failure -/

/-- A build fails exactly if an entry with the extension of sources has an obstacle, where it is in a
directory whose path can be held. -/
theorem fails_iff_obstacle (b : Build) (hdir : b.tree.isDirectory b.env.home b.sourceDir = true)
    (h : b.Unblocked) :
    b.outcome.status = 1 ↔ ∃ names entry, b.tree.entry? (place b.sourceDir ++ names) = some entry ∧
      extension? (b.sourcePath names) = some sourceExtension ∧
        pathFault? (b.sourcePath names.dropLast) = none ∧
        b.Obstacle names entry := by
  have hplace := ((isDirectory_eq_true_iff b.ordinary b.isAbsolute_sourceDir).1 hdir).2
  have hstatus : b.outcome.status = 1 ↔ ∃ fate ∈ b.fates, fate.isFailed = true := by
    rw [b.outcome_status, ← List.any_eq_true]
    split <;> simp_all
  rw [hstatus]
  constructor
  · rintro ⟨fate, hfate, hfailed⟩
    obtain ⟨names, hmem⟩ := b.exists_source hfate
    obtain ⟨hsome, hfault, hextension⟩ := mem_sources_iff.1 (List.of_mem_zip hmem).1
    obtain ⟨entry, hentry⟩ := Option.isSome_iff_exists.1 hsome
    cases fate with
    | converted target => cases hfailed
    | skipped => cases hfailed
    | failed failure =>
      exact ⟨names, entry, hentry, hextension, hfault, obstacle_of_failed h hplace hmem hentry⟩
  · rintro ⟨names, entry, hentry, hextension, hfault, hobstacle⟩
    have hnames : names ∈ b.sources := mem_sources_iff.2 ⟨by simp [hentry], hfault, hextension⟩
    obtain ⟨fate, hmem⟩ := b.exists_fate hnames
    exact ⟨fate, (List.of_mem_zip hmem).2, failed_of_obstacle hplace hmem hentry hobstacle⟩

end Build

/-- Nothing is in the way of the result of the small project. -/
theorem unblocked_smallBuild : smallBuild.Unblocked := by
  refine Build.unblocked_of_one ["A.cs".toList] (fun names hnames hsome => ?_) (fun q hq content hfile => ?_)
    (by decide) (by decide)
  · obtain ⟨content, hfile⟩ := Build.exists_content_of_result? hnames hsome
    have hdir : place smallBuild.sourceDir = ["w".toList, "src".toList] := by decide
    rw [hdir] at hfile
    exact List.append_cancel_left (eq_of_file_smallTree hfile)
  · have hfree : ["w".toList, "src".toList, "A.cs".toList] ∉ way (smallBuild.target ["A.cs".toList]) := by
      decide
    exact hfree (eq_of_file_smallTree hfile ▸ hq)

/-- A build of the small project finds a directory and is unblocked, and the directory that is named like a
source is enough for it to fail. -/
theorem smallBuild_fails : smallBuild.tree.isDirectory smallBuild.env.home smallBuild.sourceDir = true ∧
    smallBuild.Unblocked ∧ smallBuild.outcome.status = 1 := by
  have hdir : smallBuild.tree.isDirectory smallBuild.env.home smallBuild.sourceDir = true :=
    (isDirectory_eq_true_iff smallBuild.ordinary smallBuild.isAbsolute_sourceDir).2
      ⟨smallBuild.reaches_sourceDir, by decide⟩
  have hstatus := (smallBuild.fails_iff_obstacle hdir unblocked_smallBuild).2
    ⟨["Models.cs".toList], .directory, by decide, by decide, by decide, .directory⟩
  exact ⟨hdir, unblocked_smallBuild, hstatus⟩

end InterfaceGen.Command
