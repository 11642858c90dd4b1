import InterfaceGen.Command.Run
import InterfaceGen.Proofs.Command.Treating
import InterfaceGen.Proofs.Command.Targets
import InterfaceGen.Proofs.Files.Walking

/-!
# Builds

A build converts all sources at or below a path.  Its sources are found before the first of them is converted;
each is then treated in the tree that the others have left.

Main definitions:

- `Begins`: a command line that asks for a build, in any tree where it can begin.
- `Build`: a command line that asks for a build, in an ordinary tree where it can begin.
- `Build.sources`, `Build.fates`, `Build.outcome`: what is found, what becomes of it, and what is left.
- `smallBuild`: a build that finds a file with one class and a directory that is named like a source.

Main results:

- Theorem `run_buildProject_of_found`: the steps of the command convert the sources, in any tree.
- Theorem `Begins.outcome`: the exit status and the tree that a build leaves.
- Theorem `outcome_of_sources` and `outcome_of_no_sources`: what a build leaves.
-/

namespace InterfaceGen.Command

open InterfaceGen.Path FileTree

/-! ## Totals -/

/-- The lines at the end of a build. -/
def totals (env : Environment) (fates : List Fate) : Text :=
  let converted := Text.ofNat (fates.countP Fate.isConverted)
  ['\n'] ++
    if fates.countP Fate.isFailed = 0 then
      env.paint .green "✅".toList ++ " Converted ".toList ++ converted ++ " files successfully (".toList ++
        Text.ofNat (fates.countP Fate.isSkipped) ++ " without classes)".toList ++ ['\n']
    else
      env.paint .yellow "⚠️".toList ++ " Converted ".toList ++ converted ++ " files, ".toList ++
        Text.ofNat (fates.countP Fate.isFailed) ++ " errors".toList ++ ['\n']

/-- The totals are printed, and it is a failure if some sources could not be converted. -/
theorem run_printTotals (env : Environment) (fates : List Fate) (s : Session) :
    (printTotals env fates).run.run s =
      (if fates.countP Fate.isFailed = 0 then .ok ()
        else .error (.sources (fates.countP Fate.isFailed) fates.length),
        { s with output := s.output ++ totals env fates }) := by
  unfold printTotals totals
  by_cases h : fates.countP Fate.isFailed = 0
  · simp only [run_bind, run_printLine, h, if_true, List.append_nil, List.append_assoc]
  · simp only [run_bind, run_printLine, run_throw, h, if_false, List.append_nil, List.append_assoc]

/-- The totals are a failure exactly if a source has failed. -/
theorem isOk_of_totals (fates : List Fate) (failure : Failure) :
    (if fates.countP Fate.isFailed = 0 then .ok () else .error failure : Except Failure Unit).isOk =
      !fates.any Fate.isFailed := by
  cases hany : fates.any Fate.isFailed with
  | true =>
    have hpos := List.countP_pos_iff.2 (List.any_eq_true.1 hany)
    rw [if_neg (Nat.pos_iff_ne_zero.1 hpos)]
    rfl
  | false =>
    have hzero : fates.countP Fate.isFailed = 0 := List.countP_eq_zero.2 (by simpa using hany)
    rw [if_pos hzero]
    rfl

/-! ## Outcomes -/

section Outcomes

variable (env : Environment) (action : Action Unit) (tree : FileTree)

/-- A failure makes the exit status 1. -/
theorem status_ofAction : (Outcome.ofAction env action tree).status =
    if (action.run.run ⟨tree, [], []⟩).1.isOk then 0 else 1 := by
  unfold Outcome.ofAction
  rcases action.run.run ⟨tree, [], []⟩ with ⟨_ | _, session⟩ <;> rfl

/-- What an action did to the tree stays, also if it fails. -/
theorem tree_ofAction : (Outcome.ofAction env action tree).tree = (action.run.run ⟨tree, [], []⟩).2.tree := by
  unfold Outcome.ofAction
  rcases action.run.run ⟨tree, [], []⟩ with ⟨_ | _, session⟩ <;> rfl

end Outcomes

/-! ## Runs -/

/-- Loading the settings changes nothing. -/
theorem run_loadSettings {env : Environment} {s : Session} {result : Except Failure Settings}
    (h : ((loadSettings env).run.run s).1 = result) : (loadSettings env).run.run s = (result, s) := by
  subst h
  rw [loadSettings, run_bind, run_pathExists]
  cases s.tree.pathExists env.home env.settingsPath with
  | false => rfl
  | true =>
    simp only [if_true, run_bind, run_readText]
    cases s.tree.readText env.home env.settingsPath with
    | error fault => rfl
    | ok t =>
      simp only [mapError_ok]
      cases Settings.parse? t <;> rfl

/-- The run of a build whose settings can be loaded, where there is something at the path of the sources: all
sources that are found are treated. -/
theorem run_buildProject_of_found {env : Environment} {path : Option Text} (outputDir : Option Text)
    (isStrict : Bool) {settings : Settings} {tree : FileTree}
    (loaded : (loadSettings env).run.run ⟨tree, [], []⟩ = (.ok settings, ⟨tree, [], []⟩))
    (found : tree.pathExists env.home (join env.directory (path.getD settings.sourceDir)) = true) :
    let sourceDir := join env.directory (path.getD settings.sourceDir)
    let resultDir := join env.directory (outputDir.getD settings.outputDir)
    let sources := tree.sources env.home sourceDir sourceExtension
    let treatments := allTreated env (conversionOptions settings isStrict) sourceDir resultDir sources tree
    let heading := env.paint .boldBrightBlue "🔨 Converting C# classes...".toList ++ ['\n']
    (buildProject env path outputDir isStrict).run.run ⟨tree, [], []⟩ =
      if sources.isEmpty then
        (.ok (), ⟨tree, heading ++ env.paint .yellow "⚠️  No .cs files found".toList ++ ['\n'], []⟩)
      else
        (if treatments.1.countP Fate.isFailed = 0 then .ok ()
          else .error (.sources (treatments.1.countP Fate.isFailed) treatments.1.length),
          ⟨treatments.2, heading ++ "Found ".toList ++ Text.ofNat sources.length ++ " files".toList ++ ['\n'] ++
              lines env sources treatments.1 ++ totals env treatments.1,
            complaints env sources treatments.1⟩) := by
  intro sourceDir resultDir sources treatments heading
  have hsources : tree.sources env.home (join env.directory (path.getD settings.sourceDir)) sourceExtension =
    sources := rfl
  unfold buildProject
  rw [run_bind, loaded]
  simp only [run_bind, run_pathExists, found, run_printLine, run_get, if_true]
  rw [hsources]
  cases hempty : sources.isEmpty with
  | true => simp only [if_true, run_printLine, heading, List.nil_append]
  | false =>
    simp only [Bool.false_eq_true, if_false, run_bind, run_printLine, run_treatSources, run_printTotals,
      heading, List.nil_append, List.append_assoc]
    rfl

/-! ## Beginnings -/

/-- A command line asks for a build with some options, of the sources at one path into the directory at
another: the settings can be loaded, and there is something at the path of the sources. -/
inductive Begins (env : Environment) (words : List Text) (tree : FileTree) : Options → Text → Text → Prop
  | intro (path outputDir : Option Text) (isStrict : Bool) (settings : Settings)
      (asked : Request.ofWords words = .perform (.build path outputDir isStrict))
      (loaded : ((loadSettings env).run.run ⟨tree, [], []⟩).1 = .ok settings)
      (found : tree.pathExists env.home (join env.directory (path.getD settings.sourceDir)) = true) :
      Begins env words tree (conversionOptions settings isStrict)
        (join env.directory (path.getD settings.sourceDir))
        (join env.directory (outputDir.getD settings.outputDir))

/-- A build fails exactly if one of its sources has failed, and leaves the tree that treating them leaves. -/
theorem Begins.outcome {env : Environment} {words : List Text} {tree : FileTree} {options : Options}
    {sourceDir resultDir : Text} (h : Begins env words tree options sourceDir resultDir) :
    let treatments := allTreated env options sourceDir resultDir
      (tree.sources env.home sourceDir sourceExtension) tree
    (run env words tree).status = (if treatments.1.any Fate.isFailed then 1 else 0) ∧
      (run env words tree).tree = treatments.2 := by
  obtain ⟨path, outputDir, isStrict, settings, asked, loaded, found⟩ := h
  have hrun := run_buildProject_of_found outputDir isStrict (run_loadSettings loaded) found
  simp only [run, asked, perform, status_ofAction, tree_ofAction, hrun]
  cases hempty : (tree.sources env.home (join env.directory (path.getD settings.sourceDir))
      sourceExtension).isEmpty with
  | true =>
    rw [List.isEmpty_iff.1 hempty]
    exact ⟨rfl, rfl⟩
  | false =>
    simp only [Bool.false_eq_true, if_false, isOk_of_totals, and_true]
    cases List.any _ Fate.isFailed <;> rfl

/-! ## Builds -/

/-- A command line that asks for a build in an ordinary tree, where the settings can be loaded and there is
something at the path of the sources. -/
structure Build where
  env : Environment
  words : List Text
  path : Option Text
  outputDir : Option Text
  isStrict : Bool
  tree : FileTree
  settings : Settings
  asked : Request.ofWords words = .perform (.build path outputDir isStrict)
  absolute : isAbsolute env.directory = true
  ordinary : tree.IsOrdinary
  loaded : (loadSettings env).run.run ⟨tree, [], []⟩ = (.ok settings, ⟨tree, [], []⟩)
  found : tree.pathExists env.home (join env.directory (path.getD settings.sourceDir)) = true

namespace Build

variable (b : Build)

/-- The path of the sources. -/
def sourceDir : Text :=
  join b.env.directory (b.path.getD b.settings.sourceDir)

/-- The path of the directory of the results. -/
def resultDir : Text :=
  join b.env.directory (b.outputDir.getD b.settings.outputDir)

/-- The options of the conversions. -/
def options : Options :=
  conversionOptions b.settings b.isStrict

/-- The steps to the sources that are found. -/
def sources : List (List Text) :=
  b.tree.sources b.env.home b.sourceDir sourceExtension

/-- The path of a source. -/
def sourcePath (names : List Text) : Text :=
  below b.sourceDir names

/-- The path of the result of a source. -/
def target (names : List Text) : Text :=
  resultPath b.resultDir (ofSteps names)

/-- The fates of the sources and the tree after the last of them is treated. -/
def treatments : List Fate × FileTree :=
  allTreated b.env b.options b.sourceDir b.resultDir b.sources b.tree

/-- What becomes of the sources. -/
def fates : List Fate :=
  b.treatments.1

/-- What the build leaves. -/
def outcome : Outcome :=
  run b.env b.words b.tree

/-- The line at the beginning of a build. -/
def heading : Text :=
  b.env.paint .boldBrightBlue "🔨 Converting C# classes...".toList ++ ['\n']

/-- What is printed on standard output, given the fates of the sources. -/
def report (fates : List Fate) : Text :=
  b.heading ++ "Found ".toList ++ Text.ofNat b.sources.length ++ " files".toList ++ ['\n'] ++
    lines b.env b.sources fates ++ totals b.env fates

/-- The message at the end of a build in which some sources could not be converted. -/
def verdict (fates : List Fate) : Text :=
  if fates.countP Fate.isFailed = 0 then []
  else '\n' :: b.env.paint .boldRed "Error:".toList ++ [' '] ++
    (Failure.sources (fates.countP Fate.isFailed) fates.length).message ++ ['\n', '\n']

/-- The run of a build after its beginning. -/
theorem run_buildProject :
    (buildProject b.env b.path b.outputDir b.isStrict).run.run ⟨b.tree, [], []⟩ =
      if b.sources.isEmpty then
        (.ok (), ⟨b.tree, b.heading ++ b.env.paint .yellow "⚠️  No .cs files found".toList ++ ['\n'], []⟩)
      else
        (if b.fates.countP Fate.isFailed = 0 then .ok ()
          else .error (.sources (b.fates.countP Fate.isFailed) b.fates.length),
          ⟨b.treatments.2, b.report b.fates, complaints b.env b.sources b.fates⟩) :=
  run_buildProject_of_found b.outputDir b.isStrict b.loaded b.found

/-- A build without sources changes nothing. -/
theorem outcome_of_no_sources (h : b.sources = []) :
    b.outcome =
      ⟨0, b.heading ++ b.env.paint .yellow "⚠️  No .cs files found".toList ++ ['\n'], [], b.tree⟩ := by
  have hrun := b.run_buildProject
  rw [h, List.isEmpty_nil, if_pos rfl] at hrun
  simp only [outcome, run, b.asked, Outcome.ofAction, perform, hrun]

/-- A build leaves what treating its sources leaves, and reports of it; the exit status says whether some
could not be converted. -/
theorem outcome_of_sources (h : b.sources ≠ []) :
    b.outcome = ⟨if b.fates.countP Fate.isFailed = 0 then 0 else 1, b.report b.fates,
      complaints b.env b.sources b.fates ++ b.verdict b.fates, b.treatments.2⟩ := by
  have hrun := b.run_buildProject
  rw [if_neg (by simpa using h)] at hrun
  simp only [outcome, run, b.asked, Outcome.ofAction, perform, hrun, verdict]
  by_cases hfailed : b.fates.countP Fate.isFailed = 0
  · simp only [hfailed, if_true, List.append_nil]
  · simp only [hfailed, if_false, List.append_assoc]

/-- A build begins. -/
theorem begins : Begins b.env b.words b.tree b.options b.sourceDir b.resultDir :=
  .intro b.path b.outputDir b.isStrict b.settings b.asked (congrArg Prod.fst b.loaded) b.found

/-- The tree that a build leaves is the one after the last source. -/
theorem outcome_tree : b.outcome.tree = b.treatments.2 :=
  b.begins.outcome.2

/-- The exit status of a build tells whether a source has failed. -/
theorem outcome_status : b.outcome.status = if b.fates.any Fate.isFailed then 1 else 0 :=
  b.begins.outcome.1

/-- There are as many fates as sources. -/
theorem length_fates : b.fates.length = b.sources.length :=
  length_allTreated _ _ _ _ _ _

/-- Every source has a fate. -/
theorem exists_fate {names : List Text} (h : names ∈ b.sources) :
    ∃ fate, (names, fate) ∈ b.sources.zip b.fates := by
  rw [← List.map_fst_zip (Nat.le_of_eq b.length_fates.symm)] at h
  obtain ⟨⟨names, fate⟩, hmem, rfl⟩ := List.mem_map.1 h
  exact ⟨fate, hmem⟩

/-- Every fate is that of a source. -/
theorem exists_source {fate : Fate} (h : fate ∈ b.fates) :
    ∃ names, (names, fate) ∈ b.sources.zip b.fates := by
  rw [← List.map_snd_zip (Nat.le_of_eq b.length_fates)] at h
  obtain ⟨⟨names, fate⟩, hmem, rfl⟩ := List.mem_map.1 h
  exact ⟨names, hmem⟩

end Build

/-! ## A small project -/

/-- A working directory at `/w`. -/
def smallEnvironment : Environment :=
  ⟨"/w".toList, .text [], false⟩

/-- The working directory is given by an absolute path. -/
theorem isAbsolute_smallEnvironment : isAbsolute smallEnvironment.directory = true := by decide

/-- A source with one class. -/
def smallSource : Text :=
  "public class A\n\x7b\n\x7d\n".toList

/-- The interface of the source with one class. -/
def smallInterface : Text :=
  "export interface A \x7b\n\x7d".toList

/-- The source with one class is converted with the default settings. -/
theorem convert_smallSource : (convert (conversionOptions {} false) smallSource).value = .ok smallInterface :=
  eq_ok_of_toOption (by decide +kernel)

/-- The tree of a project whose sources are a file with one class and a directory that is named like a
source. -/
def smallTree : FileTree :=
  (((FileTree.empty.set ["w".toList] .directory).set ["w".toList, "src".toList] .directory).set
    ["w".toList, "src".toList, "A.cs".toList] (.file (.text smallSource))).set
    ["w".toList, "src".toList, "Models.cs".toList] .directory

/-- The tree of the small project is made of directories and of files in them. -/
theorem isOrdinary_smallTree : smallTree.IsOrdinary := by
  have hwork := isOrdinary_empty.set [] "w".toList rfl (by decide) (.inl rfl)
  have hdir := hwork.set ["w".toList] "src".toList rfl (by decide) (.inl rfl)
  have hfile := hdir.set ["w".toList, "src".toList] "A.cs".toList rfl (by decide)
    (.inr ⟨by decide, .text smallSource, rfl⟩)
  exact hfile.set ["w".toList, "src".toList] "Models.cs".toList rfl (by decide) (.inl rfl)

/-- The small project has one file. -/
theorem eq_of_file_smallTree {q : Location} {content : Content}
    (h : smallTree.entry? q = some (.file content)) :
    q = ["w".toList, "src".toList, "A.cs".toList] := by
  have hfile := file_of_set_directory (by decide) h
  rw [entry?_set _ (by decide)] at hfile
  split at hfile
  · next heq => exact heq
  · have hroot := file_of_set_directory (by decide) (file_of_set_directory (by decide) hfile)
    cases (eq_of_entry?_empty hroot).2

/-- The file with one class can be reached. -/
theorem reaches_smallFile : smallTree.Reaches "/w/src/A.cs".toList :=
  ⟨by decide, by decide, by decide⟩

/-- The file with one class is read. -/
theorem readText_smallFile (home : Location) :
    smallTree.readText home "/w/src/A.cs".toList = .ok smallSource :=
  (readText_eq_ok_iff isOrdinary_smallTree (by decide)).2 ⟨reaches_smallFile, by decide⟩

/-- The directory that is named like a source cannot be read. -/
theorem readText_smallDirectory (home : Location) :
    smallTree.readText home "/w/src/Models.cs".toList = .error .isDirectory := by
  have hreaches : smallTree.Reaches "/w/src/Models.cs".toList := ⟨by decide, by decide, by decide⟩
  have hentry : smallTree.entry? (place "/w/src/Models.cs".toList) = some .directory := by decide
  rw [readText_of_reaches isOrdinary_smallTree (by decide) hreaches, hentry]

/-- Without a settings file, the defaults are loaded. -/
theorem loadSettings_smallTree :
    (loadSettings smallEnvironment).run.run ⟨smallTree, [], []⟩ = (.ok {}, ⟨smallTree, [], []⟩) := by
  have hmissing : smallTree.pathExists smallEnvironment.home smallEnvironment.settingsPath = false := by
    refine Bool.eq_false_iff.2 fun hfound => ?_
    obtain ⟨entry, hentry⟩ := Option.isSome_iff_exists.1 hfound
    have hplace := ((find?_eq_some_iff isOrdinary_smallTree (by decide)).1 hentry).2
    have hnone : smallTree.entry? (place smallEnvironment.settingsPath) = none := by decide
    simp [hnone] at hplace
  rw [loadSettings, run_bind, run_pathExists, hmissing]
  rfl

/-- The directory of the sources of the small project can be reached. -/
theorem reaches_smallTree : smallTree.Reaches "/w/src".toList :=
  ⟨by decide, by decide, by decide⟩

/-- A build of the small project. -/
def smallBuild : Build where
  env := smallEnvironment
  words := ["build".toList]
  path := none
  outputDir := none
  isStrict := false
  tree := smallTree
  settings := {}
  asked := by decide
  absolute := isAbsolute_smallEnvironment
  ordinary := isOrdinary_smallTree
  loaded := loadSettings_smallTree
  found := Option.isSome_iff_exists.2 ⟨.directory, (find?_eq_some_iff isOrdinary_smallTree (by decide)).2
    ⟨reaches_smallTree, by decide⟩⟩

end InterfaceGen.Command
