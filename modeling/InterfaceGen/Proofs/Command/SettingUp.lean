import InterfaceGen.Proofs.Command.Building

/-!
# Setting up a project

Setting up a project takes three steps, each of which may fail: there must be something at the path of the
sources, then at that of the example, and then the settings are written.  What was done before a failure stays.

Main definitions:

- `withSourceDir`, `withExample`: a tree after the first and after the second step.
- `SetsUp`: how far setting up a project comes, with the tree that it leaves.

Main results:

- Theorem `run_setUp`: the steps of the command do just that, in any tree.
- Theorem `setsUp_of_found`: what is there already is left alone.
- Theorems `outcome_of_kept` and `exists_outcome`: the exit status and the tree that setting up leaves.
-/

namespace InterfaceGen.Command

open InterfaceGen.Path FileTree

/-! ## Paths -/

/-- The path of the sources of a new project. -/
def Environment.sourcePath (env : Environment) (sourceDir : Text) : Text :=
  join env.directory sourceDir

/-- The path of the example of a new project. -/
def Environment.examplePath (env : Environment) (sourceDir : Text) : Text :=
  join (env.sourcePath sourceDir) exampleName

/-- The settings of a new project: its two directories, and the defaults for all else. -/
def newSettings (sourceDir outputDir : Text) : Settings :=
  { sourceDir, outputDir }

/-! ## Steps -/

section Stages

variable (env : Environment) (sourceDir outputDir : Text)

/-- A tree with something at the path of the sources, and what went wrong if nothing could be made there. -/
def withSourceDir (tree : FileTree) : FileTree × Option FileError :=
  if tree.pathExists env.home (env.sourcePath sourceDir) then (tree, none)
  else tree.makeDirectories env.home (env.sourcePath sourceDir)

/-- A tree with something at the path of the example, and what went wrong if nothing could be put there. -/
def withExample (tree : FileTree) : FileTree × Option FileError :=
  if tree.pathExists env.home (env.examplePath sourceDir) then (tree, none)
  else
    match tree.writeText env.home (env.examplePath sourceDir) exampleSource with
    | .ok next => (next, none)
    | .error fault => (tree, some fault)

/-- How far setting up a project comes, with the tree that it leaves and what went wrong. -/
inductive SetsUp (tree : FileTree) : FileTree → Option FileError → Prop
  | noSourceDir {next : FileTree} {fault : FileError}
      (failed : withSourceDir env sourceDir tree = (next, some fault)) : SetsUp tree next (some fault)
  | noExample {first next : FileTree} {fault : FileError}
      (dir : withSourceDir env sourceDir tree = (first, none))
      (failed : withExample env sourceDir first = (next, some fault)) : SetsUp tree next (some fault)
  | noSettings {first second : FileTree} {fault : FileError}
      (dir : withSourceDir env sourceDir tree = (first, none))
      (file : withExample env sourceDir first = (second, none))
      (failed : second.writeText env.home env.settingsPath (newSettings sourceDir outputDir).print =
        .error fault) : SetsUp tree second (some fault)
  | done {first second last : FileTree}
      (dir : withSourceDir env sourceDir tree = (first, none))
      (file : withExample env sourceDir first = (second, none))
      (written : second.writeText env.home env.settingsPath (newSettings sourceDir outputDir).print =
        .ok last) : SetsUp tree last none

/-- The first step leaves the tree with something at the path of the sources. -/
theorem run_makeSourceDir (s : Session) :
    ∃ output, (makeSourceDir env sourceDir).run.run s =
      (resultOf (withSourceDir env sourceDir s.tree).2,
        ⟨(withSourceDir env sourceDir s.tree).1, output, s.messages⟩) := by
  unfold makeSourceDir withSourceDir
  rw [Environment.sourcePath, run_bind, run_pathExists]
  cases hexists : s.tree.pathExists env.home (join env.directory sourceDir) with
  | true => exact ⟨s.output, rfl⟩
  | false =>
    simp only [Bool.false_eq_true, if_false, run_bind, run_makeDirectories]
    cases (s.tree.makeDirectories env.home (join env.directory sourceDir)).2 with
    | none => exact ⟨_, rfl⟩
    | some fault => exact ⟨s.output, rfl⟩

/-- The second step leaves the tree with something at the path of the example. -/
theorem run_makeExample (s : Session) :
    ∃ output, (makeExample env sourceDir).run.run s =
      (resultOf (withExample env sourceDir s.tree).2,
        ⟨(withExample env sourceDir s.tree).1, output, s.messages⟩) := by
  unfold makeExample withExample
  rw [Environment.examplePath, Environment.sourcePath, run_bind, run_pathExists]
  cases hexists : s.tree.pathExists env.home (join (join env.directory sourceDir) exampleName) with
  | true => exact ⟨s.output, rfl⟩
  | false =>
    simp only [Bool.false_eq_true, if_false, run_bind]
    cases hwrite : s.tree.writeText env.home (join (join env.directory sourceDir) exampleName)
        exampleSource with
    | ok next =>
      rw [run_writeText_ok s hwrite]
      exact ⟨_, rfl⟩
    | error fault =>
      rw [run_writeText_error s hwrite]
      exact ⟨s.output, rfl⟩

/-- The third step leaves the tree with the settings. -/
theorem run_makeSettings (s : Session) :
    ∃ output, (makeSettings env sourceDir outputDir).run.run s =
      match s.tree.writeText env.home env.settingsPath (newSettings sourceDir outputDir).print with
      | .ok next => (.ok (), ⟨next, output, s.messages⟩)
      | .error fault => (.error (.files fault), s) := by
  unfold makeSettings
  rw [run_bind, newSettings]
  cases hwrite : s.tree.writeText env.home env.settingsPath
      ({ sourceDir, outputDir } : Settings).print with
  | ok next =>
    rw [run_writeText_ok s hwrite]
    exact ⟨_, rfl⟩
  | error fault =>
    rw [run_writeText_error s hwrite]
    exact ⟨s.output, rfl⟩

/-! ## The run -/

variable {env}

/-- Settings that are there are kept unless they are to be replaced. -/
theorem run_setUp_of_kept {s : Session} (h : s.tree.pathExists env.home env.settingsPath = true) :
    ∃ output, (setUp env sourceDir outputDir false).run.run s = (.ok (), ⟨s.tree, output, s.messages⟩) := by
  unfold setUp
  simp only [run_bind, run_pathExists, h, Bool.not_false, Bool.and_self, if_true, run_printLine]
  exact ⟨_, rfl⟩

/-- Otherwise a project is set up as far as possible. -/
theorem run_setUp {force : Bool} {s : Session}
    (h : s.tree.pathExists env.home env.settingsPath = true → force = true) :
    ∃ next fault? output, SetsUp env sourceDir outputDir s.tree next fault? ∧
      (setUp env sourceDir outputDir force).run.run s =
        (resultOf fault?, ⟨next, output, s.messages⟩) := by
  have hwrites : (s.tree.pathExists env.home env.settingsPath && !force) = false := by
    cases hexists : s.tree.pathExists env.home env.settingsPath with
    | false => rfl
    | true => rw [h hexists, Bool.not_true, Bool.and_false]
  unfold setUp
  simp only [run_bind, run_pathExists, hwrites, Bool.false_eq_true, if_false, run_printLine]
  generalize s.output ++ env.paint .boldBrightBlue "📝 Initializing tsconvert...".toList ++ ['\n'] = heading
  obtain ⟨output, hdir⟩ := run_makeSourceDir env sourceDir ⟨s.tree, heading, s.messages⟩
  rw [hdir]
  cases hfirst : withSourceDir env sourceDir s.tree with
  | mk first fault? =>
    cases fault? with
    | some fault => exact ⟨first, some fault, output, .noSourceDir hfirst, rfl⟩
    | none =>
      obtain ⟨output', hfile⟩ := run_makeExample env sourceDir ⟨first, output, s.messages⟩
      simp only [resultOf, hfile]
      cases hsecond : withExample env sourceDir first with
      | mk second fault? =>
        cases fault? with
        | some fault => exact ⟨second, some fault, output', .noExample hfirst hsecond, rfl⟩
        | none =>
          obtain ⟨output'', hsettings⟩ :=
            run_makeSettings env sourceDir outputDir ⟨second, output', s.messages⟩
          simp only [hsettings]
          cases hwrite : second.writeText env.home env.settingsPath
              (newSettings sourceDir outputDir).print with
          | error fault => exact ⟨second, some fault, output', .noSettings hfirst hsecond hwrite, rfl⟩
          | ok last => exact ⟨last, none, _, .done hfirst hsecond hwrite, rfl⟩

variable {sourceDir outputDir}

/-- Where there is something at the paths of the sources and of the example, only the settings are written. -/
theorem setsUp_of_found {tree next last : FileTree} {fault? : Option FileError}
    (hdir : tree.pathExists env.home (env.sourcePath sourceDir) = true)
    (hfile : tree.pathExists env.home (env.examplePath sourceDir) = true)
    (hwrite : tree.writeText env.home env.settingsPath (newSettings sourceDir outputDir).print = .ok last)
    (h : SetsUp env sourceDir outputDir tree next fault?) : fault? = none ∧ next = last := by
  have hfirst : withSourceDir env sourceDir tree = (tree, none) := by rw [withSourceDir, if_pos hdir]
  have hsecond : withExample env sourceDir tree = (tree, none) := by rw [withExample, if_pos hfile]
  cases h with
  | noSourceDir failed => simp [hfirst] at failed
  | noExample dir failed =>
    obtain ⟨rfl, -⟩ := Prod.mk.inj (hfirst.symm.trans dir)
    simp [hsecond] at failed
  | noSettings dir file failed =>
    obtain ⟨rfl, -⟩ := Prod.mk.inj (hfirst.symm.trans dir)
    obtain ⟨rfl, -⟩ := Prod.mk.inj (hsecond.symm.trans file)
    simp [hwrite] at failed
  | done dir file written =>
    obtain ⟨rfl, -⟩ := Prod.mk.inj (hfirst.symm.trans dir)
    obtain ⟨rfl, -⟩ := Prod.mk.inj (hsecond.symm.trans file)
    exact ⟨rfl, Except.ok.inj (written.symm.trans hwrite)⟩

/-! ## Outcomes -/

variable {words : List Text} {force : Bool} {tree : FileTree}
  (asked : Request.ofWords words = .perform (.init sourceDir outputDir force))
include asked

/-- Where settings are kept, nothing changes, and that is a success. -/
theorem outcome_of_kept (hforce : force = false) (hkept : tree.pathExists env.home env.settingsPath = true) :
    (run env words tree).status = 0 ∧ (run env words tree).tree = tree := by
  subst hforce
  obtain ⟨output, hrun⟩ := run_setUp_of_kept sourceDir outputDir (s := ⟨tree, [], []⟩) hkept
  simp only [run, asked, perform, status_ofAction, tree_ofAction, hrun, and_true]
  rfl

/-- Otherwise the exit status tells whether the project is set up, and what was done stays in any case. -/
theorem exists_outcome (h : tree.pathExists env.home env.settingsPath = true → force = true) :
    ∃ fault?, SetsUp env sourceDir outputDir tree (run env words tree).tree fault? ∧
      (run env words tree).status = if fault?.isNone then 0 else 1 := by
  obtain ⟨next, fault?, output, hsetsUp, hrun⟩ :=
    run_setUp sourceDir outputDir (s := ⟨tree, [], []⟩) h
  refine ⟨fault?, ?_, ?_⟩
  · simp only [run, asked, perform, tree_ofAction, hrun]
    exact hsetsUp
  · simp only [run, asked, perform, status_ofAction, hrun]
    cases fault? <;> rfl

end Stages

end InterfaceGen.Command
