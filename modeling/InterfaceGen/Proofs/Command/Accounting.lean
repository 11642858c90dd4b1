import InterfaceGen.Proofs.Command.Failing

/-!
# The account of a build

A build gives account of every source that it finds.  A source that fails or has no classes does not keep those
behind it from being treated.  What is reported of a source as its result is there in the end, and everything
else that was there is still as it was.

Main definitions:

- `Build.Account`: what a build does, reports and leaves, given the fates of its sources.

Main results:

- Theorem `gives_account`: every build that finds sources gives account of them.
-/

namespace InterfaceGen.Command

open InterfaceGen.Path FileTree

namespace Build

/-- The account of a build, given the fates of its sources in order. -/
structure Account (b : Build) (fates : List Fate) : Prop where
  /-- Every source has a fate. -/
  length_eq : fates.length = b.sources.length
  /-- Every source is treated in the tree that those before it leave, whatever has become of these, and its fate
  is what comes of that. -/
  course : b.Course b.sources fates b.tree b.outcome.tree
  /-- The interfaces of a source that is reported as converted, and a line break, are what is at the path of its
  result in the end. -/
  results : ∀ names target, (names, Fate.converted target) ∈ b.sources.zip fates →
    target = b.target names ∧ ∃ source result,
      b.tree.readText b.env.home (b.sourcePath names) = .ok source ∧
        (convert b.options source).value = .ok result ∧
        b.outcome.tree.readText b.env.home target = .ok (result ++ ['\n'])
  /-- The numbers of converted, skipped and failed sources add up to that of all sources. -/
  counts : fates.countP Fate.isConverted + fates.countP Fate.isSkipped + fates.countP Fate.isFailed =
    b.sources.length
  /-- The numbers are printed, with a line on every source that has not failed. -/
  output_eq : b.outcome.output = b.report fates
  messages_eq : b.outcome.messages = complaints b.env b.sources fates ++ b.verdict fates
  /-- The exit status tells whether a source has failed. -/
  status_eq : b.outcome.status = if fates.any Fate.isFailed then 1 else 0
  /-- Different sources have different results. -/
  apart : (b.sources.map b.target).Nodup
  /-- All files but the results that are reported are as they were. -/
  kept : ∀ q content, (∀ target, Fate.converted target ∈ fates → q ≠ place target) →
    (b.outcome.tree.entry? q = some (.file content) ↔ b.tree.entry? q = some (.file content))
  /-- All files with the extension of sources are as they were. -/
  sources_kept : ∀ q content, HasExtension q sourceExtension →
    (b.outcome.tree.entry? q = some (.file content) ↔ b.tree.entry? q = some (.file content))
  sources_read : ∀ names ∈ b.sources, b.outcome.tree.readText b.env.home (b.sourcePath names) =
    b.tree.readText b.env.home (b.sourcePath names)

/-- Every fate is of one kind. -/
theorem counts_eq_length (fates : List Fate) :
    fates.countP Fate.isConverted + fates.countP Fate.isSkipped + fates.countP Fate.isFailed =
      fates.length := by
  induction fates with
  | nil => rfl
  | cons fate rest ih =>
    cases fate <;> simp [List.countP_cons, Fate.isConverted, Fate.isSkipped, Fate.isFailed, ← ih] <;> omega

/-- A build that finds sources gives account of them: it treats every one whatever becomes of the others, writes
the results of those that it reports as converted and nothing else, and its exit status tells whether one has
failed. -/
theorem gives_account (b : Build) (h : b.sources ≠ []) : b.Account b.fates := by
  have houtcome := b.outcome_of_sources h
  have hadvance := b.advance_treatments
  have hlength := b.length_fates
  refine ⟨hlength, ?_, fun names target hmem => ?_, by rw [counts_eq_length, hlength], by rw [houtcome],
    by rw [houtcome], b.outcome_status, b.nodup_targets, fun q content hq => ?_, fun q content hq => ?_,
    fun names hnames => ?_⟩
  · rw [b.outcome_tree]
    exact b.course_treatments
  · obtain ⟨htarget, result, hresult, hwritten⟩ := readText_target hmem
    obtain ⟨source, hread, hconvert, -⟩ := result?_eq_some_iff.1 hresult
    exact ⟨htarget, source, result, hread, hconvert, by rw [b.outcome_tree, hwritten]⟩
  · rw [b.outcome_tree]
    refine hadvance.grows.file_iff fun hmem => ?_
    obtain ⟨names, hnames, rfl⟩ := List.mem_map.1 hmem
    obtain ⟨target, hzip⟩ := mem_converted_iff.1 hnames
    exact hq target (List.of_mem_zip hzip).2 (by rw [(readText_target hzip).1])
  · rw [b.outcome_tree]
    refine hadvance.grows.file_iff fun hmem => ?_
    obtain ⟨names, hnames, rfl⟩ := List.mem_map.1 hmem
    exact absurd (hq.unique (hadvance.writes names hnames).hasExtension) (by decide)
  · rw [b.outcome_tree]
    exact readText_sourcePath hadvance hnames

end Build

/-- A build of the small project converts the file and fails on the directory that is named like a source, and
gives account of both: the interface of the file is there in the end. -/
theorem smallBuild_gives_account :
    smallBuild.sources ≠ [] ∧ smallBuild.Account smallBuild.fates ∧
      (["A.cs".toList], Fate.converted "/w/dist/A.ts".toList) ∈ smallBuild.sources.zip smallBuild.fates ∧
      (["Models.cs".toList], Fate.failed (.files .isDirectory)) ∈
        smallBuild.sources.zip smallBuild.fates ∧
      smallBuild.outcome.tree.readText smallBuild.env.home "/w/dist/A.ts".toList =
        .ok (smallInterface ++ ['\n']) := by
  have hfile : ["A.cs".toList] ∈ smallBuild.sources :=
    Build.mem_sources_iff.2 ⟨by decide, by decide, by decide⟩
  have hdir : ["Models.cs".toList] ∈ smallBuild.sources :=
    Build.mem_sources_iff.2 ⟨by decide, by decide, by decide⟩
  have haccount := smallBuild.gives_account (List.ne_nil_of_mem hfile)
  -- Nothing is in the way of the result of the file.
  obtain ⟨fate, hconverted⟩ := smallBuild.exists_fate hfile
  have hread : smallBuild.tree.readText smallBuild.env.home (smallBuild.sourcePath ["A.cs".toList]) =
      .ok smallSource := readText_smallFile _
  have hgiven := Build.result?_eq_some_iff.2 ⟨smallSource, hread, convert_smallSource, by decide⟩
  obtain rfl := Build.converted_of_unblocked unblocked_smallBuild hconverted hgiven (by decide) (by decide)
  have htarget : smallBuild.target ["A.cs".toList] = "/w/dist/A.ts".toList := by decide
  rw [htarget] at hconverted
  obtain ⟨-, source, result, hsource, hresult, hwritten⟩ := haccount.results _ _ hconverted
  obtain rfl := Except.ok.inj (hread.symm.trans hsource)
  obtain rfl := Except.ok.inj (convert_smallSource.symm.trans hresult)
  obtain ⟨fate, hfailed⟩ := smallBuild.exists_fate hdir
  obtain ⟨_, _, _, _, -, -, htreatment, -⟩ := Build.exists_treatment hfailed
  obtain rfl := htreatment.eq_failed (readText_smallDirectory _)
  exact ⟨List.ne_nil_of_mem hfile, haccount, hconverted, hfailed, hwritten⟩

end InterfaceGen.Command
