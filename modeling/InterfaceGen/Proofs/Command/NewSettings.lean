import InterfaceGen.Proofs.Command.Preserving
import InterfaceGen.Proofs.Files.Rereading
import InterfaceGen.Proofs.Settings.RoundTrip

/-!
# The settings of a new project

Settings that are written can be loaded.  So a project that has just been set up has the two directories it was
set up with and the defaults for all else, whatever these directories are called and whatever links there are.

Main results:

- Theorem `run_loadSettings_of_written`: settings that are written are loaded.
- Theorem `ofWords_init`: any two directories can be asked for.
- Theorem `settings_round_trip`: settings are read back, and those of a new project are loaded.
-/

namespace InterfaceGen.Command

open InterfaceGen.Path FileTree

/-- Settings that are written are loaded, and loading them changes nothing. -/
theorem run_loadSettings_of_written {env : Environment} (habsolute : isAbsolute env.directory = true)
    {settings : Settings} {before : FileTree} {s : Session}
    (h : before.writeText env.home env.settingsPath settings.print = .ok s.tree) :
    (loadSettings env).run.run s = (.ok settings, s) := by
  obtain ⟨hexists, hread⟩ := reads_written (isAbsolute_settingsPath habsolute) h
  rw [loadSettings, run_bind, run_pathExists, hexists]
  simp only [if_true, run_bind, run_readText, hread, mapError_ok, settings.parse?_print, run_pure]

/-- Any two directories can be asked for. -/
theorem ofWords_init (sourceDir outputDir : Text) :
    Request.ofWords ["init".toList, "--src-dir=".toList ++ sourceDir, "--out-dir=".toList ++ outputDir] =
      .perform (.init sourceDir outputDir false) := rfl

/-- Printed settings are read back, so that printing settings that were read and reading them again changes
nothing.  Any directories can be asked for when a project is set up; after a success, unless settings were there
and have been kept, these directories with the defaults for all else are what is loaded. -/
theorem settings_round_trip :
    (∀ settings : Settings, Settings.parse? settings.print = some settings) ∧
      (∀ t, (Settings.parse? t).bind (fun settings => Settings.parse? settings.print) = Settings.parse? t) ∧
      (∀ sourceDir outputDir, Request.ofWords
          ["init".toList, "--src-dir=".toList ++ sourceDir, "--out-dir=".toList ++ outputDir] =
        .perform (.init sourceDir outputDir false)) ∧
      ∀ (env : Environment) (words : List Text) (sourceDir outputDir : Text) (force : Bool) (tree : FileTree),
        isAbsolute env.directory = true →
          Request.ofWords words = .perform (.init sourceDir outputDir force) →
            (tree.pathExists env.home env.settingsPath = true → force = true) →
              (run env words tree).status = 0 →
                ∀ s : Session, s.tree = (run env words tree).tree →
                  (loadSettings env).run.run s =
                    (.ok { ({} : Settings) with sourceDir := sourceDir, outputDir := outputDir }, s) := by
  refine ⟨Settings.parse?_print, ?_, ofWords_init, ?_⟩
  · intro t
    cases hparse : Settings.parse? t with
    | none => rfl
    | some settings => exact settings.parse?_print
  · intro env words sourceDir outputDir force tree habsolute hasked hwrites hsuccess s hs
    obtain ⟨fault?, hsetsUp, hstatus⟩ := exists_outcome hasked hwrites
    rw [← hs] at hsetsUp
    cases hsetsUp with
    | done _ _ written => exact run_loadSettings_of_written habsolute written
    | noSourceDir => simp [hstatus] at hsuccess
    | noExample => simp [hstatus] at hsuccess
    | noSettings => simp [hstatus] at hsuccess

/-- Settings with a repeated name that needs escaping are read back, and the settings that setting up the small
project leaves are those that it was asked for. -/
theorem small_settings_round_trip :
    Settings.parse? ({ collectionTypes := ["A\"".toList, "A\"".toList] } : Settings).print =
        some { collectionTypes := ["A\"".toList, "A\"".toList] } ∧
      (loadSettings smallEnvironment).run.run ⟨smallSetup.outcome.tree, [], []⟩ =
        (.ok { sourceDir := "src".toList, outputDir := "dist".toList }, ⟨smallSetup.outcome.tree, [], []⟩) := by
  obtain ⟨hread, -, -, hload⟩ := settings_round_trip
  exact ⟨hread _, hload _ _ _ _ _ _ smallSetup.absolute smallSetup.asked (fun _ => rfl) status_smallSetup _ rfl⟩

end InterfaceGen.Command
