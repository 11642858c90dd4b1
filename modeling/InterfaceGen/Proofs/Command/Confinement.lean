import InterfaceGen.Proofs.Command.Failing

/-!
# Where a build writes

A build writes below the directory of the results if it converts what is in a directory.  A source that is
given by itself has its result beside the directory of the results, with the name of that directory.

Main results:

- Theorem `written_below_iff`: a file that a build writes is below the directory of the results exactly if
  the path of the sources leads to a directory.
-/

namespace InterfaceGen.Command

open InterfaceGen.Path FileTree Text

namespace Build

/-- The files that a build writes are results of sources. -/
theorem exists_writes_of_changed {b : Build} {q : Location} {content : Content}
    (hafter : b.outcome.tree.entry? q = some (.file content))
    (hbefore : b.tree.entry? q ≠ some (.file content)) :
    ∃ names, b.Writes names ∧ q = place (b.target names) := by
  rw [b.outcome_tree] at hafter
  rcases b.advance_treatments.grows.cases q with hsame | ⟨hmem, -⟩ | ⟨-, -, hdir⟩
  · exact absurd (hsame ▸ hafter) hbefore
  · obtain ⟨names, hnames, rfl⟩ := List.mem_map.1 hmem
    exact ⟨names, b.advance_treatments.writes names hnames, rfl⟩
  · simp [hdir] at hafter

/-- Every file that a build creates or changes is below the directory of the results if the path of the
sources leads to a directory, and is not below it otherwise. -/
theorem written_below_iff (b : Build) {q : Location} {content : Content}
    (hafter : b.outcome.tree.entry? q = some (.file content))
    (hbefore : b.tree.entry? q ≠ some (.file content)) :
    (∃ names, names ≠ [] ∧ q = place b.resultDir ++ names) ↔
      b.tree.isDirectory b.env.home b.sourceDir = true := by
  obtain ⟨names, hwrites, rfl⟩ := exists_writes_of_changed hafter hbefore
  obtain ⟨name, hname⟩ := Option.isSome_iff_exists.1 hwrites.has_name
  rw [isDirectory_eq_true_iff b.ordinary b.isAbsolute_sourceDir, and_iff_right b.reaches_sourceDir]
  rcases eq_nil_or_namesSource hwrites.is_source with rfl | ⟨dirs, stem, hsource⟩
  · -- The source is what is at the path of the sources, so that is a file and no directory.
    obtain ⟨file, hfile⟩ := exists_content_of_result? hwrites.is_source hwrites.has_result
    rw [List.append_nil] at hfile
    refine ⟨fun ⟨names, hne, hbelow⟩ => ?_, fun hdir => by simp [hfile] at hdir⟩
    exact absurd hbelow (place_resultPath_nil_ne b.isAbsolute_resultDir hname hne)
  · refine ⟨fun _ => directory_of_mem_sources hwrites.is_source (by simp [hsource.split]), fun _ => ?_⟩
    exact ⟨_, by simp, place_resultPath b.isAbsolute_resultDir hsource hname⟩

end Build

/-- A build of one file of the small project. -/
def smallFileBuild : Build where
  env := smallEnvironment
  words := ["build".toList, "src/A.cs".toList]
  path := some "src/A.cs".toList
  outputDir := none
  isStrict := false
  tree := smallTree
  settings := {}
  asked := by decide
  absolute := isAbsolute_smallEnvironment
  ordinary := isOrdinary_smallTree
  loaded := loadSettings_smallTree
  found := Option.isSome_iff_exists.2 ⟨.file (.text smallSource),
    (find?_eq_some_iff isOrdinary_smallTree (by decide)).2 ⟨reaches_smallFile, by decide⟩⟩

/-- The file of the small project gives an interface. -/
theorem result?_smallFileBuild : smallFileBuild.result? [] = some smallInterface := by
  have hread : smallFileBuild.tree.readText smallFileBuild.env.home (smallFileBuild.sourcePath []) =
      .ok smallSource := readText_smallFile _
  exact Build.result?_eq_some_iff.2 ⟨smallSource, hread, convert_smallSource, by decide⟩

/-- Nothing is in the way of the interface of the file. -/
theorem unblocked_smallFileBuild : smallFileBuild.Unblocked := by
  have hfile : smallFileBuild.tree.entry? (place smallFileBuild.sourceDir) ≠ some .directory := by decide
  refine Build.unblocked_of_one [] (fun names hnames _ => ?_) (fun q hq content hcontent => ?_) (by decide)
    (by decide)
  · exact Classical.byContradiction fun hne => hfile (Build.directory_of_mem_sources hnames hne)
  · have hfree : ["w".toList, "src".toList, "A.cs".toList] ∉ way (smallFileBuild.target []) := by decide
    exact hfree (eq_of_file_smallTree hcontent ▸ hq)

/-- A build of the one file of the small project writes its interface beside the directory of the results. -/
theorem smallFileBuild_writes_beside :
    smallFileBuild.outcome.tree.entry? ["w".toList, "dist.ts".toList] =
        some (.file (.text (smallInterface ++ ['\n']))) ∧
      smallFileBuild.tree.entry? ["w".toList, "dist.ts".toList] = none ∧
      ¬ ∃ names, names ≠ [] ∧ ["w".toList, "dist.ts".toList] = place smallFileBuild.resultDir ++ names := by
  have hsource : [] ∈ smallFileBuild.sources := Build.mem_sources_iff.2 ⟨by decide, by decide, by decide⟩
  obtain ⟨fate, hmem⟩ := smallFileBuild.exists_fate hsource
  obtain rfl := Build.converted_of_unblocked unblocked_smallFileBuild hmem result?_smallFileBuild
    (by decide) (by decide)
  obtain ⟨-, result, hresult, hread⟩ := Build.readText_target hmem
  obtain rfl := Option.some.inj (result?_smallFileBuild.symm.trans hresult)
  have hordinary := smallFileBuild.advance_treatments.grows.ordinary
  have hafter : smallFileBuild.outcome.tree.entry? ["w".toList, "dist.ts".toList] =
      some (.file (.text (smallInterface ++ ['\n']))) := by
    rw [smallFileBuild.outcome_tree]
    exact ((readText_eq_ok_iff hordinary (by decide)).1 hread).2
  have hbefore : smallFileBuild.tree.entry? ["w".toList, "dist.ts".toList] = none := by decide
  have hnew : smallFileBuild.tree.entry? ["w".toList, "dist.ts".toList] ≠
      some (.file (.text (smallInterface ++ ['\n']))) := by
    rw [hbefore]
    exact (Option.some_ne_none _).symm
  refine ⟨hafter, hbefore, fun hbelow => ?_⟩
  have hdir := (smallFileBuild.written_below_iff hafter hnew).1 hbelow
  have hplace := ((isDirectory_eq_true_iff isOrdinary_smallTree (by decide)).1 hdir).2
  exact absurd hplace (by decide)

end InterfaceGen.Command
