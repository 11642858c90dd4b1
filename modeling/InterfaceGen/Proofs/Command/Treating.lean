import InterfaceGen.Command.Batch
import InterfaceGen.Proofs.Files.Putting
import InterfaceGen.Proofs.Results

/-!
# What becomes of the sources of a project

The conversion of a source is read off the file tree alone: it gives a fate and the tree afterwards, and its
report is read off the fate.  A list of sources is converted one after the other.

Main definitions:

- `treated`: the fate of a source and the tree after its conversion.
- `allTreated`: the fates of some sources and the tree after their conversion.
- `Fate.line`, `Fate.complaint`: what is printed on a fate.

Main results:

- Theorem `run_treatSource` and `run_treatSources`: the steps of the command do just that.
-/

namespace InterfaceGen.Command

/-! ## Steps of a command -/

section Steps

variable (s : Session)

@[simp] theorem run_pure {α : Type} (a : α) : (pure a : Action α).run.run s = (.ok a, s) := rfl

@[simp] theorem run_throw {α : Type} (failure : Failure) :
    (throw failure : Action α).run.run s = (.error failure, s) := rfl

@[simp] theorem run_get : (get : Action Session).run.run s = (.ok s, s) := rfl

@[simp] theorem run_modify (f : Session → Session) : (modify f : Action Unit).run.run s = (.ok (), f s) := rfl

@[simp] theorem run_printLine (line : Text) :
    (printLine line).run.run s = (.ok (), { s with output := s.output ++ line ++ ['\n'] }) := rfl

@[simp] theorem run_reportLine (line : Text) :
    (reportLine line).run.run s = (.ok (), { s with messages := s.messages ++ line ++ ['\n'] }) := rfl

@[simp] theorem run_pathExists (env : Environment) (path : Text) :
    (pathExists env path).run.run s = (.ok (s.tree.pathExists env.home path), s) := rfl

/-- A result is passed on, and an error is a failure. -/
@[simp] theorem run_orFail {ε α : Type} (failure : ε → Failure) (result : Except ε α) :
    (orFail failure result).run.run s = (result.mapError failure, s) := by
  cases result <;> rfl

/-- Reading a file changes nothing. -/
@[simp] theorem run_readText (env : Environment) (path : Text) :
    (readText env path).run.run s = ((s.tree.readText env.home path).mapError .files, s) := by
  rw [readText, run_bind]
  simp

/-- The result of a change to the file tree that may go wrong. -/
def resultOf : Option FileError → Except Failure Unit
  | none => .ok ()
  | some fault => .error (.files fault)

/-- Making directories leaves as many as could be made. -/
@[simp] theorem run_makeDirectories (env : Environment) (path : Text) :
    (makeDirectories env path).run.run s =
      (resultOf (s.tree.makeDirectories env.home path).2,
        { s with tree := (s.tree.makeDirectories env.home path).1 }) := by
  rw [makeDirectories, run_bind]
  simp only [run_get, run_bind, run_modify]
  cases (s.tree.makeDirectories env.home path).2 <;> rfl

/-- Writing a file leaves the tree with it. -/
theorem run_writeText_ok {env : Environment} {path t : Text} {next : FileTree}
    (h : s.tree.writeText env.home path t = .ok next) :
    (writeText env path t).run.run s = (.ok (), { s with tree := next }) := by
  simp only [writeText, run_bind, run_get, run_orFail, h, mapError_ok, run_modify]

/-- A file that cannot be written changes nothing. -/
theorem run_writeText_error {env : Environment} {path t : Text} {fault : FileError}
    (h : s.tree.writeText env.home path t = .error fault) :
    (writeText env path t).run.run s = (.error (.files fault), s) := by
  simp only [writeText, run_bind, run_get, run_orFail, h, mapError_error]

/-- Writing a result puts it into its file. -/
@[simp] theorem run_writeResult (env : Environment) (path result : Text) :
    (writeResult env path result).run.run s =
      (resultOf (s.tree.putText env.home path (result ++ ['\n'])).2,
        { s with tree := (s.tree.putText env.home path (result ++ ['\n'])).1 }) := by
  unfold writeResult FileTree.putText FileTree.makeAround
  cases Path.parent? path with
  | none =>
    cases hwrite : s.tree.writeText env.home path (result ++ ['\n']) with
    | ok next => simp only [run_writeText_ok s hwrite, hwrite, resultOf]
    | error fault => simp only [run_writeText_error s hwrite, hwrite, resultOf]
  | some dir =>
    simp only [run_bind, run_makeDirectories]
    cases s.tree.makeDirectories env.home dir with
    | mk next fault? =>
      cases fault? with
      | some fault => rfl
      | none =>
        cases hwrite : next.writeText env.home path (result ++ ['\n']) with
        | ok last => simp only [resultOf, run_writeText_ok ⟨next, s.output, s.messages⟩ hwrite, hwrite]
        | error fault => simp only [resultOf, run_writeText_error ⟨next, s.output, s.messages⟩ hwrite, hwrite]

end Steps

/-! ## One source -/

/-- The interfaces of a source; a blank text is a source without classes. -/
def translation (options : Options) (source : Text) : Except ConversionError Text :=
  if Text.allBlank source then .ok [] else (convert options source).value

section Translation

variable {options : Options} {source : Text}

/-- A source is translated to nothing exactly if it is blank or has no classes. -/
theorem translation_eq_nil_iff : translation options source = .ok [] ↔
    Text.allBlank source = true ∨ (convert options source).value = .ok [] := by
  unfold translation
  by_cases hblank : Text.allBlank source = true
  · simp [hblank]
  · simp [hblank]

/-- A translation that is not empty is the conversion of a text that is not blank. -/
theorem convert_of_translation {result : Except ConversionError Text}
    (h : translation options source = result) (hne : result ≠ .ok []) :
    Text.allBlank source = false ∧ (convert options source).value = result := by
  unfold translation at h
  split at h
  · exact absurd h.symm hne
  · next hblank => exact ⟨Bool.eq_false_iff.2 hblank, h⟩

/-- No blank source is converted. -/
theorem allBlank_of_convert {result : Text} (h : (convert options source).value = .ok result) :
    Text.allBlank source = false := by
  refine Bool.eq_false_iff.2 fun hblank => ?_
  simp [convert, modelOf, hblank] at h

/-- The interfaces of a source are its translation. -/
theorem translation_of_convert {result : Text} (h : (convert options source).value = .ok result) :
    translation options source = .ok result := by
  rw [translation, allBlank_of_convert h, if_neg Bool.false_ne_true, h]

end Translation

section Treating

variable (env : Environment) (options : Options) (sourceDir outputDir : Text)

/-- The fate of a source, given the steps to it from the directory of the sources, and the tree after its
conversion. -/
def treated (names : List Text) (tree : FileTree) : Fate × FileTree :=
  match tree.readText env.home (Path.below sourceDir names) with
  | .error fault => (.failed (.files fault), tree)
  | .ok source =>
    match translation options source with
    | .error cause => (.failed (.conversion cause), tree)
    | .ok result =>
      if result.isEmpty then (.skipped, tree)
      else
        let target := resultPath outputDir (Path.ofSteps names)
        match tree.putText env.home target (result ++ ['\n']) with
        | (next, none) => (.converted target, next)
        | (next, some fault) => (.failed (.files fault), next)

/-- Converting a source leaves its fate and the tree. -/
theorem run_convertSource (names : List Text) (s : Session) :
    ∃ result,
      (convertSource env options outputDir (Path.below sourceDir names) (Path.ofSteps names)).run.run s =
        (result, { s with tree := (treated env options sourceDir outputDir names s.tree).2 }) ∧
      Fate.ofResult result = (treated env options sourceDir outputDir names s.tree).1 := by
  unfold convertSource treated translation
  simp only [run_bind, run_readText]
  cases s.tree.readText env.home (Path.below sourceDir names) with
  | error fault => exact ⟨_, rfl, rfl⟩
  | ok source =>
    by_cases hblank : Text.allBlank source = true
    · simp only [mapError_ok, hblank, if_true]
      exact ⟨_, rfl, rfl⟩
    · simp only [mapError_ok, hblank]
      cases (convert options source).value with
      | error cause => exact ⟨_, rfl, rfl⟩
      | ok result =>
        cases hempty : result.isEmpty with
        | true =>
          simp only [Bool.false_eq_true, if_false, run_bind, run_orFail, mapError_ok, hempty, if_true]
          exact ⟨_, rfl, rfl⟩
        | false =>
          simp only [Bool.false_eq_true, if_false, run_bind, run_orFail, mapError_ok, hempty,
            run_writeResult]
          cases s.tree.putText env.home (resultPath outputDir (Path.ofSteps names)) (result ++ ['\n']) with
          | mk next fault? => cases fault? <;> exact ⟨_, rfl, rfl⟩

/-! ## Reports -/

/-- The line on standard output about a fate, if there is one. -/
def Fate.line (relative : Text) : Fate → Text
  | .converted target => [' ', ' '] ++ env.checkMark ++ [' '] ++ relative ++ " → ".toList ++ target ++ ['\n']
  | .skipped => [' ', ' '] ++ env.paint .dimmed ['-'] ++ [' '] ++ relative ++ " - no classes".toList ++ ['\n']
  | .failed _ => []

/-- The message about a fate, if there is one. -/
def Fate.complaint (relative : Text) : Fate → Text
  | .failed failure => [' ', ' '] ++ env.paint .red "✗".toList ++ [' '] ++ relative ++ " - ".toList ++
      env.paint .red failure.headline ++ ['\n']
  | _ => []

/-- Every fate is reported by a line or by a message. -/
theorem run_print (fate : Fate) (relative : Text) (s : Session) :
    (fate.print env relative).run.run s =
      (.ok (), ⟨s.tree, s.output ++ fate.line env relative, s.messages ++ fate.complaint env relative⟩) := by
  cases fate <;> simp [Fate.print, Fate.line, Fate.complaint]

/-- Treating a source leaves its fate and the tree, and the report of its fate. -/
theorem run_treatSource (names : List Text) (s : Session) :
    (treatSource env options sourceDir outputDir names).run.run s =
      let treatment := treated env options sourceDir outputDir names s.tree
      (.ok treatment.1, ⟨treatment.2, s.output ++ treatment.1.line env (Path.ofSteps names),
        s.messages ++ treatment.1.complaint env (Path.ofSteps names)⟩) := by
  obtain ⟨result, hrun, hfate⟩ := run_convertSource env options sourceDir outputDir names s
  have hlift : (ExceptT.lift (convertSource env options outputDir (Path.below sourceDir names)
      (Path.ofSteps names)).run : Action (Except Failure (Option Text))).run.run s =
        (.ok result, { s with tree := (treated env options sourceDir outputDir names s.tree).2 }) :=
    congrArg (fun run : Except Failure (Option Text) × Session => (Except.ok run.1, run.2)) hrun
  change (ExceptT.lift (convertSource env options outputDir (Path.below sourceDir names)
      (Path.ofSteps names)).run >>= fun result =>
        (Fate.ofResult result).print env (Path.ofSteps names) >>= fun _ =>
          pure (Fate.ofResult result)).run.run s = _
  rw [run_bind, hlift]
  simp only [run_bind, run_print, hfate, run_pure]

/-! ## All sources -/

/-- The fates of some sources, treated one after the other, and the tree after that. -/
def allTreated : List (List Text) → FileTree → List Fate × FileTree
  | [], tree => ([], tree)
  | names :: rest, tree =>
    let (fate, next) := treated env options sourceDir outputDir names tree
    let (fates, last) := allTreated rest next
    (fate :: fates, last)

/-- Every source has a fate. -/
theorem length_allTreated (sources : List (List Text)) (tree : FileTree) :
    (allTreated env options sourceDir outputDir sources tree).1.length = sources.length := by
  induction sources generalizing tree with
  | nil => rfl
  | cons names rest ih => simp [allTreated, ih]

/-- The sources that are converted, given the fates of some sources. -/
def converted (sources : List (List Text)) (fates : List Fate) : List (List Text) :=
  ((sources.zip fates).filter fun treatment => treatment.2.isConverted).map (·.1)

/-- A source is converted if that is its fate. -/
theorem mem_converted_iff {sources : List (List Text)} {fates : List Fate} {names : List Text} :
    names ∈ converted sources fates ↔ ∃ target, (names, Fate.converted target) ∈ sources.zip fates := by
  simp only [converted, List.mem_map, List.mem_filter]
  constructor
  · rintro ⟨⟨names, fate⟩, ⟨hmem, hconverted⟩, rfl⟩
    cases fate with
    | converted target => exact ⟨target, hmem⟩
    | skipped => cases hconverted
    | failed failure => cases hconverted
  · rintro ⟨target, hmem⟩
    exact ⟨_, ⟨hmem, rfl⟩, rfl⟩

/-- The lines on standard output about some sources. -/
def lines (sources : List (List Text)) (fates : List Fate) : Text :=
  (sources.zip fates).flatMap fun treatment => treatment.2.line env (Path.ofSteps treatment.1)

/-- The messages about some sources. -/
def complaints (sources : List (List Text)) (fates : List Fate) : Text :=
  (sources.zip fates).flatMap fun treatment => treatment.2.complaint env (Path.ofSteps treatment.1)

/-- Treating some sources leaves their fates and the tree, and the reports of their fates. -/
theorem run_treatSources (sources : List (List Text)) (s : Session) :
    (sources.mapM (treatSource env options sourceDir outputDir)).run.run s =
      let treatments := allTreated env options sourceDir outputDir sources s.tree
      (.ok treatments.1, ⟨treatments.2, s.output ++ lines env sources treatments.1,
        s.messages ++ complaints env sources treatments.1⟩) := by
  induction sources generalizing s with
  | nil =>
    rw [List.mapM_nil, run_pure]
    simp [allTreated, lines, complaints]
  | cons names rest ih =>
    rw [List.mapM_cons, run_bind, run_treatSource]
    simp only [run_bind, ih, run_pure, allTreated, lines, complaints, List.zip_cons_cons, List.flatMap_cons,
      List.append_assoc]

end Treating

end InterfaceGen.Command
