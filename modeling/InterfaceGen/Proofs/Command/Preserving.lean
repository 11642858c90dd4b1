import InterfaceGen.Proofs.Command.SettingUp
import InterfaceGen.Proofs.Files.Rereading

/-!
# What setting up a project preserves

In an ordinary tree setting up a project replaces nothing that is there but the settings, and those only where
that is asked for and the sources and the example are in place.  That holds at every point where setting up may
fail.

Main definitions:

- `Prepares`: what the steps before the settings change.
- `Setup`: a command line that asks for setting up a project in an ordinary tree.

Main results:

- Theorem `SetsUp.prepares`: the settings are written after these steps, or not at all.
- Theorem `SetsUp.settings_cases`: what becomes of the settings, however far setting up comes.
- Theorem `setting_up_destroys_nothing`: what is there stays, but for the settings.
-/

namespace InterfaceGen.Command

open InterfaceGen.Path FileTree

/-- How a tree comes from another one by the steps before the settings: all that was there is kept, and nothing
is new but the example and directories on the path of the sources. -/
structure Prepares (env : Environment) (sourceDir : Text) (tree next : FileTree) : Prop where
  grows : Grows [place (env.examplePath sourceDir)] (passed [] (steps (env.sourcePath sourceDir))) tree next
  keeps : ∀ {q : Location} {entry : Entry}, tree.entry? q = some entry → next.entry? q = some entry

/-! ## Places -/

section Steps

variable {env : Environment} (habsolute : isAbsolute env.directory = true) (sourceDir : Text)
include habsolute

/-- The path of the sources is absolute. -/
theorem isAbsolute_sourcePath : isAbsolute (env.sourcePath sourceDir) = true :=
  isAbsolute_join habsolute _

/-- The path of the example is absolute. -/
theorem isAbsolute_examplePath : isAbsolute (env.examplePath sourceDir) = true :=
  isAbsolute_join (isAbsolute_sourcePath habsolute sourceDir) _

/-- The path of the settings is absolute. -/
theorem isAbsolute_settingsPath : isAbsolute env.settingsPath = true :=
  isAbsolute_join habsolute _

/-- The example is never at the place of the settings, as their names differ. -/
theorem place_examplePath_ne : place (env.examplePath sourceDir) ≠ place env.settingsPath := by
  have hexample : IsName exampleName := by decide
  have hsettings : IsName settingsName := by decide
  have hsource := ne_nil_of_isAbsolute (isAbsolute_sourcePath habsolute sourceDir)
  rw [Environment.examplePath, Environment.settingsPath, (place_join_name hsource hexample).2,
    (place_join_name (ne_nil_of_isAbsolute habsolute) hsettings).2]
  intro heq
  have hnames := List.singleton_inj.1 (List.append_inj' heq rfl).2
  exact absurd hnames (by decide)

/-! ## The steps before the settings -/

variable {tree : FileTree} (ht : tree.IsOrdinary)
include ht

/-- The first step makes directories on the path of the sources. -/
theorem grows_withSourceDir :
    Grows [] (passed [] (steps (env.sourcePath sourceDir))) tree (withSourceDir env sourceDir tree).1 := by
  unfold withSourceDir
  by_cases hfound : tree.pathExists env.home (env.sourcePath sourceDir) = true
  · rw [if_pos hfound]
    exact .refl ht
  · rw [if_neg hfound]
    exact grows_makeDirectories ht env.home (isAbsolute_sourcePath habsolute sourceDir)

/-- The second step writes the example. -/
theorem grows_withExample :
    Grows [place (env.examplePath sourceDir)] [] tree (withExample env sourceDir tree).1 := by
  unfold withExample
  by_cases hfound : tree.pathExists env.home (env.examplePath sourceDir) = true
  · rw [if_pos hfound]
    exact .refl ht
  · rw [if_neg hfound]
    split
    · next next hwrite => exact grows_writeText ht (isAbsolute_examplePath habsolute sourceDir) hwrite
    · exact .refl ht

/-- The second step keeps all that is there, also at the path of the example. -/
theorem keeps_withExample {q : Location} {entry : Entry} (hentry : tree.entry? q = some entry) :
    FileTree.entry? (withExample env sourceDir tree).1 q = some entry := by
  have hp := isAbsolute_examplePath habsolute sourceDir
  have hgrows := grows_withExample habsolute sourceDir ht
  by_cases hq : q = place (env.examplePath sourceDir)
  · -- The example is written only where its path leads to nothing, although it can be followed.
    unfold withExample
    by_cases hfound : tree.pathExists env.home (env.examplePath sourceDir) = true
    · rwa [if_pos hfound]
    · rw [if_neg hfound]
      split
      · next next hwrite =>
        have hreaches := (exists_of_writeText ht hp hwrite).1
        exact absurd ((pathExists_iff ht hp).2 ⟨hreaches, entry, hq ▸ hentry⟩) hfound
      · exact hentry
  · exact hgrows.keeps (by simpa using hq) hentry

omit ht in
/-- After the second step there is something at the path of the example, if nothing went wrong. -/
theorem found_withExample {next : FileTree} (h : withExample env sourceDir tree = (next, none)) :
    next.pathExists env.home (env.examplePath sourceDir) = true := by
  unfold withExample at h
  by_cases hfound : tree.pathExists env.home (env.examplePath sourceDir) = true
  · rw [if_pos hfound] at h
    exact (Prod.mk.inj h).1 ▸ hfound
  · rw [if_neg hfound] at h
    split at h
    · next written hwrite =>
      obtain rfl := (Prod.mk.inj h).1
      exact (reads_written (isAbsolute_examplePath habsolute sourceDir) hwrite).1
    · cases (Prod.mk.inj h).2

/-! ## All steps -/

/-- The first step prepares. -/
theorem prepares_withSourceDir : Prepares env sourceDir tree (withSourceDir env sourceDir tree).1 := by
  have hgrows := grows_withSourceDir habsolute sourceDir ht
  exact ⟨hgrows.mono (List.nil_subset _) (List.Subset.refl _), fun hentry => hgrows.keeps List.not_mem_nil hentry⟩

/-- The second step after the first prepares. -/
theorem prepares_withExample : Prepares env sourceDir tree
    (withExample env sourceDir (withSourceDir env sourceDir tree).1).1 := by
  have hdir := prepares_withSourceDir habsolute sourceDir ht
  have hfile := grows_withExample habsolute sourceDir hdir.grows.ordinary
  constructor
  · exact hdir.grows.trans (hfile.mono (List.Subset.refl _) (List.nil_subset _))
  · exact fun hentry => keeps_withExample habsolute sourceDir hdir.grows.ordinary (hdir.keeps hentry)

variable {sourceDir} {outputDir : Text} {next : FileTree} {fault? : Option FileError}

/-- Setting up fails before the settings are written, or writes them where the example is in place. -/
theorem SetsUp.prepares (h : SetsUp env sourceDir outputDir tree next fault?) :
    (fault?.isSome = true ∧ Prepares env sourceDir tree next) ∨
      (fault? = none ∧ ∃ second, Prepares env sourceDir tree second ∧
        second.pathExists env.home (env.examplePath sourceDir) = true ∧
        second.writeText env.home env.settingsPath (newSettings sourceDir outputDir).print = .ok next) := by
  have hdir := prepares_withSourceDir habsolute sourceDir ht
  have hfile := prepares_withExample habsolute sourceDir ht
  cases h with
  | noSourceDir failed =>
    rw [failed] at hdir
    exact .inl ⟨rfl, hdir⟩
  | noExample dir failed =>
    rw [dir, failed] at hfile
    exact .inl ⟨rfl, hfile⟩
  | noSettings dir file failed =>
    rw [dir, file] at hfile
    exact .inl ⟨rfl, hfile⟩
  | done dir file written =>
    rw [dir, file] at hfile
    exact .inr ⟨rfl, _, hfile, found_withExample habsolute sourceDir file, written⟩

/-- However far setting up comes, all is kept that was there, but for the settings. -/
theorem SetsUp.keeps (h : SetsUp env sourceDir outputDir tree next fault?) {q : Location}
    (hq : q ≠ place env.settingsPath) {entry : Entry} (hentry : tree.entry? q = some entry) :
    next.entry? q = some entry := by
  rcases h.prepares habsolute ht with ⟨-, hprepares⟩ | ⟨-, second, hprepares, -, hwrite⟩
  · exact hprepares.keeps hentry
  · have hgrows := grows_writeText hprepares.grows.ordinary (isAbsolute_settingsPath habsolute) hwrite
    exact hgrows.keeps (by simpa using hq) (hprepares.keeps hentry)

/-- Where there is something at the path of the example, the path of the sources leads to a directory. -/
theorem isDirectory_sourcePath (h : tree.pathExists env.home (env.examplePath sourceDir) = true) :
    tree.isDirectory env.home (env.sourcePath sourceDir) = true := by
  have hsource := isAbsolute_sourcePath habsolute sourceDir
  have hreaches := ((pathExists_iff ht (isAbsolute_examplePath habsolute sourceDir)).1 h).1
  rw [isDirectory_eq_true_iff ht hsource]
  exact hreaches.above (ne_nil_of_isAbsolute hsource) (by decide)

/-- However far setting up comes, at the place of the settings there is what was there, or a new directory if
it has failed, or the new settings if it has not; in the last case the sources and the example are in place. -/
theorem SetsUp.settings_cases (h : SetsUp env sourceDir outputDir tree next fault?) :
    next.entry? (place env.settingsPath) = tree.entry? (place env.settingsPath) ∨
      (fault?.isSome = true ∧ tree.entry? (place env.settingsPath) = none ∧
        next.entry? (place env.settingsPath) = some .directory) ∨
      (fault? = none ∧ next.readText env.home env.settingsPath = .ok (newSettings sourceDir outputDir).print ∧
        next.isDirectory env.home (env.sourcePath sourceDir) = true ∧
        next.pathExists env.home (env.examplePath sourceDir) = true) := by
  have hsettings := isAbsolute_settingsPath habsolute
  have hexample := isAbsolute_examplePath habsolute sourceDir
  have hapart := place_examplePath_ne habsolute sourceDir
  rcases h.prepares habsolute ht with ⟨hfault, hprepares⟩ | ⟨hfault, second, hprepares, hfound, hwrite⟩
  · rcases hprepares.grows.cases (place env.settingsPath) with hsame | ⟨hmem, -⟩ | ⟨-, hnone, hdir⟩
    · exact .inl hsame
    · exact absurd (List.mem_singleton.1 hmem) hapart.symm
    · exact .inr (.inl ⟨hfault, hnone, hdir⟩)
  · have hsecond := hprepares.grows.ordinary
    have hgrows := grows_writeText hsecond hsettings hwrite
    have hnext := hgrows.ordinary
    -- Writing the settings leaves the example alone, and all directories around it.
    have hexists : next.pathExists env.home (env.examplePath sourceDir) = true := by
      obtain ⟨hreaches, entry, hentry⟩ := (pathExists_iff hsecond hexample).1 hfound
      rw [pathExists_iff hnext hexample]
      refine ⟨hreaches.mono fun q => hgrows.directory, entry, ?_⟩
      exact hgrows.keeps (by simpa using hapart) hentry
    have hread := (reads_written hsettings hwrite).2
    exact .inr (.inr ⟨hfault, hread, isDirectory_sourcePath habsolute hnext hexists, hexists⟩)

omit ht in
/-- Once a project is set up, there are settings. -/
theorem SetsUp.exists_settings (h : SetsUp env sourceDir outputDir tree next none) :
    next.pathExists env.home env.settingsPath = true := by
  cases h with
  | done dir file written => exact (reads_written (isAbsolute_settingsPath habsolute) written).1

end Steps

/-! ## Setups -/

/-- A command line that asks for setting up a project in an ordinary tree. -/
structure Setup where
  env : Environment
  words : List Text
  sourceDir : Text
  outputDir : Text
  force : Bool
  tree : FileTree
  asked : Request.ofWords words = .perform (.init sourceDir outputDir force)
  absolute : isAbsolute env.directory = true
  ordinary : tree.IsOrdinary

namespace Setup

variable (s : Setup)

/-- What setting up leaves. -/
def outcome : Outcome :=
  run s.env s.words s.tree

/-- The place of the settings. -/
def settingsPlace : Location :=
  place s.env.settingsPath

/-- The place of the example. -/
def examplePlace : Location :=
  place (s.env.examplePath s.sourceDir)

/-- Setting up keeps the settings that are there, or sets a project up as far as possible. -/
theorem kept_or_setsUp :
    (s.tree.pathExists s.env.home s.env.settingsPath = true ∧ s.outcome.status = 0 ∧
        s.outcome.tree = s.tree) ∨
      ∃ fault?, SetsUp s.env s.sourceDir s.outputDir s.tree s.outcome.tree fault? ∧
        s.outcome.status = if fault?.isNone then 0 else 1 := by
  by_cases hwrites : s.tree.pathExists s.env.home s.env.settingsPath = true → s.force = true
  · exact .inr (exists_outcome s.asked hwrites)
  · obtain ⟨hexists, hforce⟩ := Classical.not_imp.1 hwrites
    exact .inl ⟨hexists, outcome_of_kept s.asked (Bool.eq_false_iff.2 hforce) hexists⟩

/-- Setting up a project destroys nothing, whether it succeeds or fails.  If there are settings and they are
not to be replaced, nothing changes and that is a success.  In every other case all that is there stays, but
for the settings; so does what is at the place of the example.  At the place of the settings there is what was
there, or a directory where nothing was and setting up has failed, or the new settings, and these only with the
directory of the sources and the example in place.  After a success nothing changes if a project is set up
again without replacing the settings. -/
theorem setting_up_destroys_nothing :
    (s.force = false → s.tree.pathExists s.env.home s.env.settingsPath = true →
        s.outcome.status = 0 ∧ s.outcome.tree = s.tree) ∧
      (∀ q entry, q ≠ s.settingsPlace → s.tree.entry? q = some entry →
        s.outcome.tree.entry? q = some entry) ∧
      (∀ entry, s.tree.entry? s.examplePlace = some entry →
        s.outcome.tree.entry? s.examplePlace = some entry) ∧
      (s.outcome.tree.entry? s.settingsPlace = s.tree.entry? s.settingsPlace ∨
        (s.outcome.status = 1 ∧ s.tree.entry? s.settingsPlace = none ∧
          s.outcome.tree.entry? s.settingsPlace = some .directory) ∨
        (s.outcome.status = 0 ∧ s.outcome.tree.readText s.env.home s.env.settingsPath =
            .ok (newSettings s.sourceDir s.outputDir).print ∧
          s.outcome.tree.isDirectory s.env.home (s.env.sourcePath s.sourceDir) = true ∧
          s.outcome.tree.pathExists s.env.home (s.env.examplePath s.sourceDir) = true)) ∧
      (s.outcome.status = 0 → ∀ words sourceDir outputDir,
        Request.ofWords words = .perform (.init sourceDir outputDir false) →
          (run s.env words s.outcome.tree).status = 0 ∧
            (run s.env words s.outcome.tree).tree = s.outcome.tree) := by
  have hkeeps : ∀ q entry, q ≠ s.settingsPlace → s.tree.entry? q = some entry →
      s.outcome.tree.entry? q = some entry := by
    intro q entry hq hentry
    rcases s.kept_or_setsUp with ⟨-, -, hsame⟩ | ⟨fault?, hsetsUp, -⟩
    · rw [hsame, hentry]
    · exact hsetsUp.keeps s.absolute s.ordinary hq hentry
  refine ⟨?_, hkeeps, ?_, ?_, ?_⟩
  · exact fun hforce hexists => outcome_of_kept s.asked hforce hexists
  · exact fun entry hentry => hkeeps _ entry (place_examplePath_ne s.absolute s.sourceDir) hentry
  · rcases s.kept_or_setsUp with ⟨-, -, hsame⟩ | ⟨fault?, hsetsUp, hstatus⟩
    · exact .inl (by rw [hsame])
    · rcases hsetsUp.settings_cases s.absolute s.ordinary with hsame | ⟨hfault, hdir⟩ | ⟨rfl, hdone⟩
      · exact .inl hsame
      · refine .inr (.inl ⟨?_, hdir⟩)
        cases fault? with
        | none => cases hfault
        | some fault => exact hstatus
      · exact .inr (.inr ⟨hstatus, hdone⟩)
  · intro hsuccess words sourceDir outputDir hasked
    apply outcome_of_kept hasked rfl
    rcases s.kept_or_setsUp with ⟨hexists, -, hsame⟩ | ⟨fault?, hsetsUp, hstatus⟩
    · rwa [hsame]
    · cases fault? with
      | none => exact hsetsUp.exists_settings s.absolute
      | some fault =>
        rw [hstatus] at hsuccess
        cases hsuccess

end Setup

/-- The small project with other settings and another example. -/
def settledTree : FileTree :=
  (smallTree.set ["w".toList, settingsName] (.file (.text "\x7b\x7d".toList))).set
    ["w".toList, "src".toList, exampleName] (.file (.text smallSource))

/-- The small project with other settings and another example is still made of directories and of files in
them. -/
theorem isOrdinary_settledTree : settledTree.IsOrdinary := by
  have hsettings := isOrdinary_smallTree.set ["w".toList] settingsName rfl (by decide)
    (.inr ⟨by decide, .text "\x7b\x7d".toList, rfl⟩)
  exact hsettings.set ["w".toList, "src".toList] exampleName (by decide) (by decide)
    (.inr ⟨by decide, .text smallSource, rfl⟩)

/-- The settings of the small project are replaced. -/
def smallSetup : Setup where
  env := smallEnvironment
  words := ["init".toList, "--force".toList]
  sourceDir := "src".toList
  outputDir := "dist".toList
  force := true
  tree := settledTree
  asked := by decide
  absolute := isAbsolute_smallEnvironment
  ordinary := isOrdinary_settledTree

/-- The settings of the small project are there. -/
theorem exists_settings_settledTree :
    settledTree.pathExists smallEnvironment.home smallEnvironment.settingsPath = true := by
  rw [pathExists_iff isOrdinary_settledTree (by decide)]
  exact ⟨⟨by decide, by decide, by decide⟩, .file (.text "\x7b\x7d".toList), by decide⟩

/-- Nothing is in the way of replacing them. -/
theorem status_smallSetup : smallSetup.outcome.status = 0 := by
  have hdir : settledTree.pathExists smallEnvironment.home (smallEnvironment.sourcePath "src".toList) = true := by
    rw [pathExists_iff isOrdinary_settledTree (by decide)]
    exact ⟨⟨by decide, by decide, by decide⟩, .directory, by decide⟩
  have hfile :
      settledTree.pathExists smallEnvironment.home (smallEnvironment.examplePath "src".toList) = true := by
    rw [pathExists_iff isOrdinary_settledTree (by decide)]
    exact ⟨⟨by decide, by decide, by decide⟩, .file (.text smallSource), by decide⟩
  have hsettings := ((pathExists_iff isOrdinary_settledTree (by decide)).1 exists_settings_settledTree).1
  have hwrite : settledTree.writeText smallEnvironment.home smallEnvironment.settingsPath
      (newSettings "src".toList "dist".toList).print = .ok _ :=
    writeText_succeeds isOrdinary_settledTree (by decide) hsettings (by decide) (by decide)
  obtain ⟨fault?, hsetsUp, hstatus⟩ := exists_outcome smallSetup.asked fun _ => rfl
  obtain ⟨rfl, -⟩ := setsUp_of_found hdir hfile hwrite hsetsUp
  exact hstatus

/-- The settings of the small project are kept. -/
def keptSetup : Setup :=
  { smallSetup with words := ["init".toList], force := false, asked := by decide }

/-- Without the flag nothing changes in the settled project; with it, its source and its example stay, and
setting up once more without it changes nothing. -/
theorem small_setups_destroy_nothing :
    keptSetup.outcome.tree = settledTree ∧
      smallSetup.outcome.tree.entry? ["w".toList, "src".toList, "A.cs".toList] =
        some (.file (.text smallSource)) ∧
      smallSetup.outcome.tree.entry? smallSetup.examplePlace = some (.file (.text smallSource)) ∧
      (run smallEnvironment ["init".toList] smallSetup.outcome.tree).tree = smallSetup.outcome.tree := by
  obtain ⟨hkept, -⟩ := keptSetup.setting_up_destroys_nothing
  obtain ⟨-, hkeeps, hexample, -, hagain⟩ := smallSetup.setting_up_destroys_nothing
  have hasked : Request.ofWords ["init".toList] = .perform (.init "src".toList "dist".toList false) := by decide
  exact ⟨(hkept rfl exists_settings_settledTree).2, hkeeps _ _ (by decide) (by decide),
    hexample _ (by decide), (hagain status_smallSetup _ _ _ hasked).2⟩

end InterfaceGen.Command
