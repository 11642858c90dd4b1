import InterfaceGen.Proofs.Command.Stages

/-!
# What failures leave

Nothing is written before everything that can be rejected has been read and converted.  So a conversion that
fails by its settings, its input or its types leaves the file tree alone and prints no result, and a build
leaves the tree that it would leave if the sources that fail in this way were not there.

Main definitions:

- `RejectsInput`, `GivesInterfaces`: what the conversion of one input comes to before anything is written.
- `RejectsSource`: the sources of a build that cannot be read or converted.

Main results:

- Theorem `rejects_or_gives`: an input is rejected or gives interfaces.
- Theorem `treated_of_rejects`: a source that is rejected leaves the tree alone.
- Theorem `Begins.outcome_of_rejects`: a build with a source that is rejected.
- Theorems `Build.same_of_rejects` and `Build.older_result_stays`: what is still as it was after that.
- Theorem `failures_leave_no_trace`: failures of the two commands.
-/

namespace InterfaceGen.Command

open InterfaceGen.Path FileTree

/-! ## One input -/

/-- Reading an input changes nothing. -/
theorem run_readInput {env : Environment} {s : Session} {input : Option Text} {result : Except Failure Text}
    (h : ((readInput env input).run.run s).1 = result) : (readInput env input).run.run s = (result, s) := by
  subst h
  unfold readInput
  cases input.filter (!Path.isJust ['-'] ·) with
  | none => simp only [run_orFail]
  | some path => simp only [run_bind, run_get, run_orFail]

section Input

variable (env : Environment) (tree : FileTree) (input : Option Text) (fromJson isStrict : Bool)

/-- The conversion of an input is rejected: the settings cannot be loaded, the input cannot be read, or its
text describes no model or cannot be converted. -/
inductive RejectsInput : Failure → Prop
  | settings {failure : Failure}
      (unloaded : ((loadSettings env).run.run ⟨tree, [], []⟩).1 = .error failure) : RejectsInput failure
  | input {settings : Settings} {failure : Failure}
      (loaded : ((loadSettings env).run.run ⟨tree, [], []⟩).1 = .ok settings)
      (unread : ((readInput env input).run.run ⟨tree, [], []⟩).1 = .error failure) : RejectsInput failure
  | conversion {settings : Settings} {t : Text} {failure : Failure}
      (loaded : ((loadSettings env).run.run ⟨tree, [], []⟩).1 = .ok settings)
      (read : ((readInput env input).run.run ⟨tree, [], []⟩).1 = .ok t)
      (refused : interfacesOf (conversionOptions settings isStrict) fromJson t = .error failure) :
      RejectsInput failure

/-- The conversion of an input gives interfaces. -/
def GivesInterfaces (result : Text) : Prop :=
  ∃ settings t, ((loadSettings env).run.run ⟨tree, [], []⟩).1 = .ok settings ∧
    ((readInput env input).run.run ⟨tree, [], []⟩).1 = .ok t ∧
    interfacesOf (conversionOptions settings isStrict) fromJson t = .ok result

/-- An input is rejected or gives interfaces. -/
theorem rejects_or_gives : (∃ failure, RejectsInput env tree input fromJson isStrict failure) ∨
    ∃ result, GivesInterfaces env tree input fromJson isStrict result := by
  cases hloaded : ((loadSettings env).run.run ⟨tree, [], []⟩).1 with
  | error failure => exact .inl ⟨failure, .settings hloaded⟩
  | ok settings =>
    cases hread : ((readInput env input).run.run ⟨tree, [], []⟩).1 with
    | error failure => exact .inl ⟨failure, .input hloaded hread⟩
    | ok t =>
      cases hresult : interfacesOf (conversionOptions settings isStrict) fromJson t with
      | error failure => exact .inl ⟨failure, .conversion hloaded hread hresult⟩
      | ok result => exact .inr ⟨result, settings, t, hloaded, hread, hresult⟩

variable {env tree input fromJson isStrict}

/-- The conversion of an input that is rejected does nothing else than fail. -/
theorem run_convertInput_of_rejects {output : Option Text} {failure : Failure}
    (h : RejectsInput env tree input fromJson isStrict failure) :
    (convertInput env input output fromJson isStrict).run.run ⟨tree, [], []⟩ =
      (.error failure, ⟨tree, [], []⟩) := by
  unfold convertInput
  cases h with
  | settings unloaded => simp only [run_bind, run_loadSettings unloaded]
  | input loaded unread => simp only [run_bind, run_loadSettings loaded, run_readInput unread]
  | conversion loaded read refused =>
    simp only [run_bind, run_loadSettings loaded, run_readInput read, run_orFail, refused, mapError_error, id]

/-- Interfaces are printed, or put into a file. -/
theorem run_convertInput_of_gives (output : Option Text) {result : Text}
    (h : GivesInterfaces env tree input fromJson isStrict result) :
    (convertInput env input output fromJson isStrict).run.run ⟨tree, [], []⟩ =
      match output with
      | none => (.ok (), ⟨tree, result ++ ['\n'], []⟩)
      | some path =>
        match tree.putText env.home path (result ++ ['\n']) with
        | (next, none) => (.ok (), ⟨next, [], [' ', ' '] ++ env.checkMark ++ [' '] ++ path ++ ['\n']⟩)
        | (next, some fault) => (.error (.files fault), ⟨next, [], []⟩) := by
  obtain ⟨settings, t, loaded, read, given⟩ := h
  unfold convertInput
  simp only [run_bind, run_loadSettings loaded, run_readInput read, run_orFail, given, mapError_ok]
  cases output with
  | none => simp only [run_printLine, List.nil_append]
  | some path =>
    simp only [run_bind, run_writeResult]
    cases tree.putText env.home path (result ++ ['\n']) with
    | mk next fault? => cases fault? <;> simp [resultOf]

/-- If the conversion of an input that gives interfaces fails, these cannot be put into their file. -/
theorem exists_fault_of_gives {words : List Text} {output : Option Text} {result : Text}
    (hasked : Request.ofWords words = .perform (.convert input output fromJson isStrict))
    (h : GivesInterfaces env tree input fromJson isStrict result) (hstatus : (run env words tree).status ≠ 0) :
    ∃ path fault, output = some path ∧ (tree.putText env.home path (result ++ ['\n'])).2 = some fault := by
  simp only [run, hasked, perform, status_ofAction, run_convertInput_of_gives output h] at hstatus
  cases output with
  | none => exact absurd rfl hstatus
  | some path =>
    cases hput : tree.putText env.home path (result ++ ['\n']) with
    | mk next fault? =>
      cases fault? with
      | none =>
        simp only [hput] at hstatus
        exact absurd rfl hstatus
      | some fault => exact ⟨path, fault, rfl, by rw [hput]⟩

end Input

/-! ## Sources of a build -/

section Sources

variable {env : Environment} {options : Options} {sourceDir outputDir : Text}

/-- The source at a path is rejected: it cannot be read, or it is not blank and cannot be converted. -/
inductive RejectsSource (env : Environment) (options : Options) (tree : FileTree) (path : Text) :
    Failure → Prop
  | unreadable {fault : FileError} (unread : tree.readText env.home path = .error fault) :
      RejectsSource env options tree path (.files fault)
  | refused {source : Text} {cause : ConversionError} (read : tree.readText env.home path = .ok source)
      (not_blank : Text.allBlank source = false) (refused : (convert options source).value = .error cause) :
      RejectsSource env options tree path (.conversion cause)

/-- A source is rejected in every tree where the same is read. -/
theorem RejectsSource.of_readText {tree tree' : FileTree} {path : Text} {failure : Failure}
    (h : RejectsSource env options tree path failure)
    (hread : tree'.readText env.home path = tree.readText env.home path) :
    RejectsSource env options tree' path failure := by
  cases h with
  | unreadable unread => exact .unreadable (hread.trans unread)
  | refused read not_blank refused => exact .refused (hread.trans read) not_blank refused

/-- A source that is rejected fails and leaves the tree alone. -/
theorem treated_of_rejects {names : List Text} {tree : FileTree} {failure : Failure}
    (h : RejectsSource env options tree (below sourceDir names) failure) :
    treated env options sourceDir outputDir names tree = (.failed failure, tree) := by
  unfold treated
  cases h with
  | unreadable unread => simp only [unread]
  | refused read not_blank refused =>
    simp only [read, translation, not_blank, Bool.false_eq_true, if_false, refused]

/-- Some sources are treated after others in the tree that these leave. -/
theorem allTreated_append (before after : List (List Text)) (tree : FileTree) :
    allTreated env options sourceDir outputDir (before ++ after) tree =
      let first := allTreated env options sourceDir outputDir before tree
      let more := allTreated env options sourceDir outputDir after first.2
      (first.1 ++ more.1, more.2) := by
  induction before generalizing tree with
  | nil => rfl
  | cons names rest ih => simp only [List.cons_append, allTreated, ih]

/-- A source that is rejected when it is reached has failed, and the other sources are treated as if it was
not there. -/
theorem allTreated_of_rejects {before after : List (List Text)} {names : List Text} {tree : FileTree}
    {failure : Failure}
    (h : RejectsSource env options (allTreated env options sourceDir outputDir before tree).2
      (below sourceDir names) failure) :
    Fate.failed failure ∈ (allTreated env options sourceDir outputDir (before ++ names :: after) tree).1 ∧
      (allTreated env options sourceDir outputDir (before ++ names :: after) tree).2 =
        (allTreated env options sourceDir outputDir (before ++ after) tree).2 := by
  rw [allTreated_append, allTreated_append]
  simp only [allTreated, treated_of_rejects h, List.mem_append, List.mem_cons, true_or, or_true, true_and]

end Sources

/-! ## Builds -/

/-- A build with a source that is rejected when it is reached fails, and leaves the tree that treating the
other sources leaves. -/
theorem Begins.outcome_of_rejects {env : Environment} {words : List Text} {tree : FileTree}
    {options : Options} {sourceDir resultDir : Text} (h : Begins env words tree options sourceDir resultDir)
    {before after : List (List Text)} {names : List Text}
    (hsources : tree.sources env.home sourceDir sourceExtension = before ++ names :: after) {failure : Failure}
    (hrejects : RejectsSource env options (allTreated env options sourceDir resultDir before tree).2
      (below sourceDir names) failure) :
    (run env words tree).status = 1 ∧
      (run env words tree).tree = (allTreated env options sourceDir resultDir (before ++ after) tree).2 := by
  obtain ⟨hstatus, htree⟩ := h.outcome
  obtain ⟨hfailed, hsame⟩ := allTreated_of_rejects hrejects
  rw [hsources] at hstatus htree
  have hany : List.any _ Fate.isFailed = true := List.any_eq_true.2 ⟨Fate.failed failure, hfailed, rfl⟩
  rw [hstatus, htree, hsame, hany]
  exact ⟨rfl, rfl⟩

namespace Build

variable {b : Build} {names : List Text} {failure : Failure}
  (h : RejectsSource b.env b.options b.tree (b.sourcePath names) failure)
include h

/-- A source that is rejected gives no result. -/
theorem result?_of_rejects : b.result? names = none := by
  unfold result?
  cases h with
  | unreadable unread => simp only [unread]
  | refused read not_blank refused =>
    simp only [read, translation, not_blank, Bool.false_eq_true, if_false, refused]

/-- What a build writes is the result of another source. -/
theorem ne_of_rejects {names' : List Text} (hresult : (b.result? names').isSome) : names' ≠ names := by
  rintro rfl
  rw [result?_of_rejects h] at hresult
  cases hresult

/-- What is neither the place of the result of another source nor on the way to one is as it was. -/
theorem same_of_rejects {q : Location}
    (hq : ∀ names' ∈ b.sources, names' ≠ names → q ≠ place (b.target names') ∧ q ∉ way (b.target names')) :
    b.outcome.tree.entry? q = b.tree.entry? q := by
  rw [b.outcome_tree]
  refine b.advance_treatments.grows.same (fun hfile => ?_) fun hdir => ?_
  · obtain ⟨names', hwritten, rfl⟩ := List.mem_map.1 hfile
    have hwrites := b.advance_treatments.writes names' hwritten
    exact (hq names' hwrites.is_source (ne_of_rejects h hwrites.has_result)).1 rfl
  · obtain ⟨names', hmem, hway⟩ := List.mem_flatMap.1 hdir
    obtain ⟨hsource, hresult⟩ := List.mem_filter.1 hmem
    exact (hq names' hsource (ne_of_rejects h hresult)).2 hway

/-- A source that is rejected in the beginning is rejected when it is reached. -/
theorem rejects_when_reached {before after : List (List Text)} (hsplit : b.sources = before ++ names :: after) :
    RejectsSource b.env b.options (allTreated b.env b.options b.sourceDir b.resultDir before b.tree).2
      (b.sourcePath names) failure := by
  -- No result is a source, so the same is read of it as in the beginning.
  have hbefore : before ⊆ b.sources := fun n hn => hsplit ▸ List.mem_append_left _ hn
  have hadvance := b.advance_nil.trans (advance_allTreated b.advance_nil hbefore)
  exact h.of_readText (readText_sourcePath hadvance (hsplit ▸ by simp))

variable (hnames : names ∈ b.sources)
include hnames

/-- An older file at the path of the result of the source is as it was. -/
theorem older_result_stays {content : Content}
    (hfile : b.tree.find? b.env.home (b.target names) = some (.file content)) :
    b.outcome.tree.find? b.env.home (b.target names) = some (.file content) := by
  obtain ⟨hreaches, hentry⟩ := (find?_eq_some_iff b.ordinary (b.isAbsolute_target names)).1 hfile
  -- As there is a file, the path ends in a name, and no result of another source has its place.
  have hname : (fileName? (b.target names)).isSome := by
    rcases hreaches.around.directory_or_name b.ordinary (b.isAbsolute_target names) with
      ⟨-, hdir⟩ | ⟨above, name, hname, -⟩
    · simp [hdir] at hentry
    · simp [hname]
  have hapart : place (b.target names) ∉
      (converted b.sources b.fates).map fun names => place (b.target names) := by
    intro hmem
    obtain ⟨names', hwritten, hplace⟩ := List.mem_map.1 hmem
    have hwrites := b.advance_treatments.writes names' hwritten
    exact ne_of_rejects h hwrites.has_result
      (place_target_injective hwrites.is_source hnames hwrites.has_name hname hplace)
  have hgrows := b.advance_treatments.grows
  rw [b.outcome_tree, find?_eq_some_iff hgrows.ordinary (b.isAbsolute_target names), hgrows.file_iff hapart]
  exact ⟨hreaches.mono fun q => hgrows.directory, hentry⟩

/-- A build with a source that is rejected fails. -/
theorem status_of_rejects : b.outcome.status = 1 := by
  obtain ⟨before, after, hsplit⟩ := List.append_of_mem hnames
  exact (b.begins.outcome_of_rejects hsplit (rejects_when_reached h hsplit)).1

end Build

/-! ## Failures of the commands -/

/-- The conversion of an input either is rejected or gives interfaces, and then fails only if these cannot be
written.  If it is rejected, nothing but the failure is reported, and the whole tree is as it was.  A build
with a source that is rejected when it is reached fails; treating that source leaves the tree alone, and the
build leaves the tree that treating the other sources leaves.  In an ordinary tree, an older result of that
source and everything that is no result of another source, nor on the way to one, is as it was. -/
theorem failures_leave_no_trace :
    (∀ (env : Environment) (words : List Text) (tree : FileTree) (input output : Option Text)
      (fromJson isStrict : Bool),
      Request.ofWords words = .perform (.convert input output fromJson isStrict) →
      (∀ failure, RejectsInput env tree input fromJson isStrict failure →
        run env words tree = ⟨1, [], '\n' :: env.paint .boldRed "Error:".toList ++ [' '] ++ failure.message ++
          ['\n', '\n'], tree⟩) ∧
      ((run env words tree).status ≠ 0 →
        (∃ failure, RejectsInput env tree input fromJson isStrict failure) ∨
          ∃ result path fault, GivesInterfaces env tree input fromJson isStrict result ∧ output = some path ∧
            (tree.putText env.home path (result ++ ['\n'])).2 = some fault)) ∧
    (∀ (env : Environment) (words : List Text) (tree : FileTree) (options : Options)
      (sourceDir resultDir : Text), Begins env words tree options sourceDir resultDir →
      ∀ (before after : List (List Text)) (names : List Text) (failure : Failure),
        tree.sources env.home sourceDir sourceExtension = before ++ names :: after →
        let reached := (allTreated env options sourceDir resultDir before tree).2
        RejectsSource env options reached (below sourceDir names) failure →
          treated env options sourceDir resultDir names reached = (.failed failure, reached) ∧
          (run env words tree).status = 1 ∧
          (run env words tree).tree = (allTreated env options sourceDir resultDir (before ++ after) tree).2) ∧
    ∀ (b : Build) (names : List Text) (failure : Failure), names ∈ b.sources →
      RejectsSource b.env b.options b.tree (b.sourcePath names) failure →
      b.outcome.status = 1 ∧
      (∀ content, b.tree.find? b.env.home (b.target names) = some (.file content) →
        b.outcome.tree.find? b.env.home (b.target names) = some (.file content)) ∧
      ∀ q, (∀ names' ∈ b.sources, names' ≠ names → q ≠ place (b.target names') ∧ q ∉ way (b.target names')) →
        b.outcome.tree.entry? q = b.tree.entry? q := by
  refine ⟨fun env words tree input output fromJson isStrict hasked => ⟨fun failure hrejects => ?_, ?_⟩, ?_, ?_⟩
  · simp only [run, hasked, Outcome.ofAction, perform, run_convertInput_of_rejects hrejects, List.nil_append]
  · intro hstatus
    rcases rejects_or_gives env tree input fromJson isStrict with hrejects | ⟨result, hgives⟩
    · exact .inl hrejects
    · obtain ⟨path, fault, houtput, hput⟩ := exists_fault_of_gives hasked hgives hstatus
      exact .inr ⟨result, path, fault, hgives, houtput, hput⟩
  · intro env words tree options sourceDir resultDir hbegins before after names failure hsources reached
      hrejects
    exact ⟨treated_of_rejects hrejects, hbegins.outcome_of_rejects hsources hrejects⟩
  · intro b names failure hnames hrejects
    exact ⟨Build.status_of_rejects hrejects hnames, fun content => Build.older_result_stays hrejects hnames,
      fun q hq => Build.same_of_rejects hrejects hq⟩

/-- The directory that is named like a source is rejected by a build of the small project. -/
theorem rejects_smallDirectory : RejectsSource smallBuild.env smallBuild.options smallBuild.tree
    (smallBuild.sourcePath ["Models.cs".toList]) (.files .isDirectory) :=
  .unreadable (readText_smallDirectory _)

/-- The directory that is named like a source is rejected by a conversion and by a build of the small project:
the conversion leaves the whole tree alone, and the build what is left without that directory. -/
theorem smallDirectory_leaves_no_trace :
    (run smallEnvironment ["convert".toList, "/w/src/Models.cs".toList] smallTree).status = 1 ∧
      (run smallEnvironment ["convert".toList, "/w/src/Models.cs".toList] smallTree).tree = smallTree ∧
      ∃ before after, smallBuild.sources = before ++ ["Models.cs".toList] :: after ∧
        smallBuild.outcome.status = 1 ∧
        smallBuild.outcome.tree = (allTreated smallBuild.env smallBuild.options smallBuild.sourceDir
          smallBuild.resultDir (before ++ after) smallTree).2 := by
  obtain ⟨hconvert, hbuild, -⟩ := failures_leave_no_trace
  have hasked : Request.ofWords ["convert".toList, "/w/src/Models.cs".toList] =
      .perform (.convert (some "/w/src/Models.cs".toList) none false false) := by decide
  have hrejects : RejectsInput smallEnvironment smallTree (some "/w/src/Models.cs".toList) false false
      (.input "/w/src/Models.cs".toList .isDirectory) := by
    have hfile : Option.filter (!Path.isJust ['-'] ·) (some "/w/src/Models.cs".toList) =
        some "/w/src/Models.cs".toList := by decide
    refine .input (congrArg Prod.fst loadSettings_smallTree) ?_
    simp only [readInput, hfile, run_bind, run_get, run_orFail, readText_smallDirectory, mapError_error]
  have hrun := (hconvert smallEnvironment _ smallTree _ _ _ _ hasked).1 _ hrejects
  have hsource : ["Models.cs".toList] ∈ smallBuild.sources :=
    Build.mem_sources_iff.2 ⟨by decide, by decide, by decide⟩
  obtain ⟨before, after, hsplit⟩ := List.append_of_mem hsource
  have hreached := Build.rejects_when_reached rejects_smallDirectory hsplit
  have hleft := (hbuild _ _ _ _ _ _ smallBuild.begins before after _ _ hsplit hreached).2
  exact ⟨by rw [hrun], by rw [hrun], before, after, hsplit, hleft⟩

end InterfaceGen.Command
