import InterfaceGen.Proofs.Command.Confinement
import InterfaceGen.Proofs.Command.Rejecting
import InterfaceGen.Proofs.Conversion.Concatenation
import InterfaceGen.Proofs.Conversion.WordRows

/-!
# Sources without classes

A source may hold nothing but blanks, or no class, or some.  Three tests tell these apart: trimming the source,
splitting its lines into words, and looking at the interfaces that it gives.  They agree on all sources and with
all options, so that a build passes over a source exactly if it has no class.

Main definitions:

- `reportOn`: what a build prints on standard output, given the fates of its sources.
- `FollowsClasses`: what a build does with a source by whether there are classes in it.

Main results:

- Theorem `interfaces_eq_nil_iff`: only a model without classes has empty interfaces.
- Theorems `modelOf_eq_blankSource_iff` and `convert_eq_blankSource_iff`: only a source of blanks is refused as
  blank.
- Theorem `treated_skipped_iff` and `treated_of_convert`: what becomes of a source.
- Theorem `emptiness_is_told_alike`: blank sources, sources without classes and all others.
-/

namespace InterfaceGen

open Text Source

/-! ## Models -/

/-- Only a model without classes has empty interfaces. -/
theorem interfaces_eq_nil_iff (m : Model) (options : Options) :
    (m.interfaces options).value = .ok [] ↔ m.classes = [] := by
  rw [value_interfaces, map_eq_ok_iff]
  constructor
  · rintro ⟨blocks, hblocks, hnil⟩
    obtain rfl := (intercalate_eq_nil_iff (ne_nil_of_mem_blocks hblocks)).1 hnil
    obtain ⟨block, -, hmap⟩ := exists_of_mapM_eq_ok hblocks
    exact List.map_eq_nil_iff.1 hmap.symm
  · intro hclasses
    rw [hclasses]
    exact ⟨[], rfl, rfl⟩

/-- No model is refused as a blank source: the failures of a model are those of its properties. -/
theorem interfaces_ne_blankSource (m : Model) (options : Options) :
    (m.interfaces options).value ≠ .error .blankSource := by
  intro h
  have hfirst := (interfaces_eq_error_iff m options _).1 h
  obtain ⟨declaration, -, hfailure⟩ := List.exists_of_findSome?_eq_some hfirst
  obtain ⟨cause, -, he⟩ := failure?_eq_some_iff.1 hfailure
  cases he

/-! ## Sources -/

/-- Only a source of blanks is refused by the reader. -/
theorem modelOf_eq_blankSource_iff (source : Text) :
    (modelOf source).value = .error .blankSource ↔ ∀ c ∈ source, isBlank c = true := by
  rw [value_modelOf, ← wordRows_eq_nil_iff]
  by_cases hrows : wordRows source = []
  · simp [hrows]
  · simp [hrows]

/-- Only a source of blanks is refused as blank. -/
theorem convert_eq_blankSource_iff (options : Options) (source : Text) :
    (convert options source).value = .error .blankSource ↔ ∀ c ∈ source, isBlank c = true := by
  rw [value_convert_eq, ← modelOf_eq_blankSource_iff]
  cases hmodel : (modelOf source).value with
  | error e => simp [bind, Except.bind]
  | ok m => exact iff_of_false (interfaces_ne_blankSource m options) (by simp)

/-- A source that is not blank has empty interfaces if and only if it has no classes. -/
theorem convert_eq_nil_iff {source : Text} (hsource : ∃ c ∈ source, isBlank c = false) (options : Options) :
    (convert options source).value = .ok [] ↔ (read source).value.classes = [] := by
  rw [value_convert hsource, interfaces_eq_nil_iff]

namespace Command

open InterfaceGen.Path FileTree

/-! ## Translations -/

/-- A source is translated to nothing if and only if it is blank or has no classes. -/
theorem translation_eq_nil_iff_classes (options : Options) (source : Text) :
    translation options source = .ok [] ↔
      (∀ c ∈ source, isBlank c = true) ∨ (read source).value.classes = [] := by
  rw [translation_eq_nil_iff, ← allBlank_iff]
  by_cases hblank : allBlank source = true
  · simp only [hblank, true_or]
  · rw [or_iff_right hblank, or_iff_right hblank]
    refine convert_eq_nil_iff ?_ options
    simpa [allBlank_iff] using hblank

/-- No translation fails as its source is blank. -/
theorem translation_ne_blankSource (options : Options) (source : Text) :
    translation options source ≠ .error .blankSource := by
  intro h
  obtain ⟨hblank, hconvert⟩ := convert_of_translation h (by simp)
  rw [allBlank_iff.2 ((convert_eq_blankSource_iff options source).1 hconvert)] at hblank
  cases hblank

/-! ## One source of a build -/

section Treating

variable (env : Environment) (options : Options) (sourceDir resultDir : Text) (names : List Text)
  (tree : FileTree)

/-- No source fails as it is blank. -/
theorem treated_ne_blankSource :
    (treated env options sourceDir resultDir names tree).1 ≠ .failed (.conversion .blankSource) := by
  unfold treated
  cases tree.readText env.home (below sourceDir names) with
  | error fault => simp
  | ok source =>
    have hnot := translation_ne_blankSource options source
    cases htranslation : translation options source with
    | error cause =>
      rw [htranslation] at hnot
      simpa [htranslation] using hnot
    | ok result =>
      simp only [htranslation]
      split
      · simp
      · split <;> simp

/-- A source is passed over if and only if it can be read and is blank or has no classes. -/
theorem treated_skipped_iff :
    (treated env options sourceDir resultDir names tree).1 = .skipped ↔
      ∃ source, tree.readText env.home (below sourceDir names) = .ok source ∧
        ((∀ c ∈ source, isBlank c = true) ∨ (read source).value.classes = []) := by
  unfold treated
  cases tree.readText env.home (below sourceDir names) with
  | error fault => simp
  | ok source =>
    simp only [Except.ok.injEq, exists_eq_left', ← translation_eq_nil_iff_classes options]
    cases htranslation : translation options source with
    | error cause => simp
    | ok result =>
      cases hempty : result.isEmpty with
      | true => simp [List.isEmpty_iff.1 hempty]
      | false =>
        have hne : result ≠ [] := by simpa using hempty
        simp only [hempty, Bool.false_eq_true, if_false, Except.ok.injEq, hne, iff_false]
        split <;> simp

variable {env options sourceDir resultDir names tree}

/-- Interfaces that are not empty are put into their file, and only that can go wrong. -/
theorem treated_of_convert {source result : Text}
    (hread : tree.readText env.home (below sourceDir names) = .ok source)
    (hconvert : (convert options source).value = .ok result) (hne : result ≠ []) :
    treated env options sourceDir resultDir names tree =
      match tree.putText env.home (resultPath resultDir (ofSteps names)) (result ++ ['\n']) with
      | (next, none) => (.converted (resultPath resultDir (ofSteps names)), next)
      | (next, some fault) => (.failed (.files fault), next) := by
  have hempty : ¬ result.isEmpty = true := by simpa using hne
  unfold treated
  cases hput : tree.putText env.home (resultPath resultDir (ofSteps names)) (result ++ ['\n']) with
  | mk next fault? =>
    cases fault? with
    | none => simp only [hread, translation_of_convert hconvert, if_neg hempty, hput]
    | some fault => simp only [hread, translation_of_convert hconvert, if_neg hempty, hput]

/-- What a build does with a source, by whether there are classes in it when it is reached. -/
structure FollowsClasses (env : Environment) (options : Options) (sourceDir resultDir : Text)
    (names : List Text) (reached next : FileTree) (fate : Fate) : Prop where
  /-- The source does not fail as it is blank. -/
  not_blank : fate ≠ .failed (.conversion .blankSource)
  /-- The source is passed over if and only if it can be read and is blank or has no classes. -/
  skipped_iff : fate = .skipped ↔ ∃ source, reached.readText env.home (below sourceDir names) = .ok source ∧
    ((∀ c ∈ source, isBlank c = true) ∨ (read source).value.classes = [])
  /-- Interfaces that are not empty are put into their file, or the source fails as they cannot be. -/
  put : ∀ source result, reached.readText env.home (below sourceDir names) = .ok source →
    (convert options source).value = .ok result → result ≠ [] →
    ∃ fault?, reached.putText env.home (resultPath resultDir (ofSteps names)) (result ++ ['\n']) =
      (next, fault?) ∧
      fate = fault?.elim (.converted (resultPath resultDir (ofSteps names))) fun fault => .failed (.files fault)

/-- A build passes over a source exactly if it has no class. -/
theorem followsClasses_treated (names : List Text) (reached : FileTree) :
    FollowsClasses env options sourceDir resultDir names reached
      (treated env options sourceDir resultDir names reached).2
      (treated env options sourceDir resultDir names reached).1 := by
  refine ⟨treated_ne_blankSource env options sourceDir resultDir names reached,
    treated_skipped_iff env options sourceDir resultDir names reached, ?_⟩
  intro source result hread hconvert hne
  rw [treated_of_convert hread hconvert hne]
  cases reached.putText env.home (resultPath resultDir (ofSteps names)) (result ++ ['\n']) with
  | mk next fault? => cases fault? <;> exact ⟨_, rfl, rfl⟩

end Treating

/-! ## Builds -/

/-- What is printed on standard output by a build that finds some sources, given their fates. -/
def reportOn (env : Environment) (sources : List (List Text)) (fates : List Fate) : Text :=
  env.paint .boldBrightBlue "🔨 Converting C# classes...".toList ++ ['\n'] ++ "Found ".toList ++
    Text.ofNat sources.length ++ " files".toList ++ ['\n'] ++ lines env sources fates ++ totals env fates

section Builds

variable {env : Environment} {words : List Text} {tree : FileTree} {options : Options}
  {sourceDir resultDir : Text} (h : Begins env words tree options sourceDir resultDir)
include h

/-- A build reports the fates of its sources. -/
theorem Begins.reports (hsources : tree.sources env.home sourceDir sourceExtension ≠ []) :
    let sources := tree.sources env.home sourceDir sourceExtension
    let fates := (allTreated env options sourceDir resultDir sources tree).1
    (run env words tree).output = reportOn env sources fates ∧
      complaints env sources fates <+: (run env words tree).messages := by
  obtain ⟨path, outputDir, isStrict, settings, asked, loaded, found⟩ := h
  have hrun := run_buildProject_of_found outputDir isStrict (run_loadSettings loaded) found
  dsimp only at hrun
  rw [if_neg (by simpa using hsources)] at hrun
  simp only [run, asked, Outcome.ofAction, perform, hrun]
  split
  · exact ⟨rfl, List.prefix_rfl⟩
  · refine ⟨rfl, ?_⟩
    simp only [List.append_assoc]
    exact List.prefix_append _ _

/-- The fates of the sources around one are reported with its own. -/
theorem Begins.reports_split {before after : List (List Text)} {names : List Text}
    (hsources : tree.sources env.home sourceDir sourceExtension = before ++ names :: after) :
    let reached := (allTreated env options sourceDir resultDir before tree).2
    ∃ earlier later, earlier.length = before.length ∧ later.length = after.length ∧
      let fates := earlier ++ (treated env options sourceDir resultDir names reached).1 :: later
      (run env words tree).output = reportOn env (before ++ names :: after) fates ∧
        complaints env (before ++ names :: after) fates <+: (run env words tree).messages := by
  intro reached
  have hreports := h.reports (by simp [hsources])
  simp only [hsources, allTreated_append, allTreated] at hreports
  exact ⟨_, _, length_allTreated .., length_allTreated .., hreports⟩

end Builds

/-! ## The theorem -/

/-- A source is refused as blank, by the reader or by a conversion with any options, exactly if all of its
characters are blank, and exactly if nothing is left of it when it is normalized.  Any other source has empty
interfaces exactly if no class is read from it.  A build passes over a source, and prints that it has no
classes, exactly if the source can be read and is blank or has no class; so no source fails as it is blank, and
all interfaces that are not empty are put into their files. -/
theorem emptiness_is_told_alike :
    (∀ source : Text,
      ((modelOf source).value = .error .blankSource ↔ ∀ c ∈ source, isBlank c = true) ∧
      (normalLines source = [] ↔ ∀ c ∈ source, isBlank c = true) ∧
      ∀ options : Options,
        ((convert options source).value = .error .blankSource ↔ ∀ c ∈ source, isBlank c = true) ∧
        ((∃ c ∈ source, isBlank c = false) →
          ((convert options source).value = .ok [] ↔ (read source).value.classes = []))) ∧
    ∀ (env : Environment) (words : List Text) (tree : FileTree) (options : Options)
      (sourceDir resultDir : Text), Begins env words tree options sourceDir resultDir →
      ∀ (before after : List (List Text)) (names : List Text),
        tree.sources env.home sourceDir sourceExtension = before ++ names :: after →
        let reached := (allTreated env options sourceDir resultDir before tree).2
        let (fate, next) := treated env options sourceDir resultDir names reached
        FollowsClasses env options sourceDir resultDir names reached next fate ∧
        ∃ earlier later, earlier.length = before.length ∧ later.length = after.length ∧
          (run env words tree).output = reportOn env (before ++ names :: after) (earlier ++ fate :: later) ∧
          complaints env (before ++ names :: after) (earlier ++ fate :: later) <+:
            (run env words tree).messages := by
  refine ⟨fun source => ⟨modelOf_eq_blankSource_iff source, normalLines_eq_nil_iff, fun options =>
    ⟨convert_eq_blankSource_iff options source, fun hsource => convert_eq_nil_iff hsource options⟩⟩, ?_⟩
  intro env words tree options sourceDir resultDir hbegins before after names hsources
  exact ⟨followsClasses_treated names _, hbegins.reports_split hsources⟩

/-- A source with a class is not passed over by a build of the small project, and is converted if its
interfaces can be put into their file. -/
theorem smallSource_is_kept :
    (∃ c ∈ smallSource, isBlank c = false) ∧ (convert smallBuild.options smallSource).value ≠ .ok [] ∧
      ∃ before after, smallBuild.sources = before ++ ["A.cs".toList] :: after ∧
        let reached := (allTreated smallBuild.env smallBuild.options smallBuild.sourceDir smallBuild.resultDir
          before smallTree).2
        let (fate, next) := treated smallBuild.env smallBuild.options smallBuild.sourceDir smallBuild.resultDir
          ["A.cs".toList] reached
        fate ≠ .skipped ∧ FollowsClasses smallBuild.env smallBuild.options smallBuild.sourceDir
          smallBuild.resultDir ["A.cs".toList] reached next fate := by
  obtain ⟨hsources, hbuilds⟩ := emptiness_is_told_alike
  have hclass : (read smallSource).value.classes ≠ [] := by decide +kernel
  have hletter : ∃ c ∈ smallSource, isBlank c = false := ⟨'p', by decide, by decide⟩
  have hconvert := ((hsources smallSource).2.2 smallBuild.options).2 hletter
  have hnames : ["A.cs".toList] ∈ smallBuild.sources :=
    Build.mem_sources_iff.2 ⟨by decide, by decide, by decide⟩
  obtain ⟨before, after, hsplit⟩ := List.append_of_mem hnames
  obtain ⟨hfollows, -⟩ := hbuilds _ _ _ _ _ _ smallBuild.begins before after _ hsplit
  refine ⟨hletter, mt hconvert.1 hclass, before, after, hsplit, fun hskipped => ?_, hfollows⟩
  -- The source is still read as in the beginning when it is reached.
  have hbefore : before ⊆ smallBuild.sources := fun n hn => hsplit ▸ List.mem_append_left _ hn
  have hadvance := Build.advance_allTreated smallBuild.advance_nil hbefore
  have hfirst : smallTree.readText smallBuild.env.home (smallBuild.sourcePath ["A.cs".toList]) =
      .ok smallSource := readText_smallFile _
  have hreached := (Build.readText_sourcePath hadvance hnames).trans hfirst
  obtain ⟨source, hread, hempty⟩ := hfollows.skipped_iff.1 hskipped
  obtain rfl := Except.ok.inj (hreached.symm.trans hread)
  obtain ⟨c, hc, hblank⟩ := hletter
  exact hempty.elim (fun h => Bool.false_ne_true (hblank.symm.trans (h c hc))) hclass

end Command

end InterfaceGen
