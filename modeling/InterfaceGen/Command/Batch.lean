import InterfaceGen.Command.Single
import InterfaceGen.Files.Walk

/-!
# Converting a project

All sources below a directory are converted, each into a file of its own.  A source that cannot be
converted does not keep the others from being converted.

Main definitions:

- `convertSource`: converts one source of a project.
- `Fate`, `treatSource`: what becomes of a source, and its conversion with a report of that.
- `buildProject`: converts all sources of a project.
-/

namespace InterfaceGen.Command

/-! ## One source -/

/-- The extension of sources. -/
def sourceExtension : Text :=
  "cs".toList

/-- The extension of results. -/
def resultExtension : Text :=
  "ts".toList

/-- The path of the result of a source, given its path below the directory of the sources. -/
def resultPath (outputDir relative : Text) : Text :=
  Path.withExtension (Path.join outputDir relative) resultExtension

/-- Converts a source into a file, whose path is returned; a source without classes has no result. -/
def convertSource (env : Environment) (options : Options) (outputDir path relative : Text) :
    Action (Option Text) := do
  let source ← readText env path
  if Text.allBlank source then return none
  let result ← orFail .conversion (convert options source).value
  if result.isEmpty then return none
  let target := resultPath outputDir relative
  writeResult env target result
  return some target

/-! ## What becomes of a source -/

/-- What becomes of a source. -/
inductive Fate where
  /-- Its interfaces are in the file at this path. -/
  | converted (target : Text)
  /-- It has no classes. -/
  | skipped
  /-- It cannot be converted. -/
  | failed (failure : Failure)
deriving DecidableEq, Repr

namespace Fate

/-- The fate of a source by the result of its conversion. -/
def ofResult : Except Failure (Option Text) → Fate
  | .ok (some target) => converted target
  | .ok none => skipped
  | .error failure => failed failure

/-- Whether a source is converted. -/
def isConverted : Fate → Bool
  | converted _ => true
  | _ => false

/-- Whether a source has no classes. -/
def isSkipped : Fate → Bool
  | skipped => true
  | _ => false

/-- Whether a source cannot be converted. -/
def isFailed : Fate → Bool
  | failed _ => true
  | _ => false

/-- Prints what becomes of a source, given its path below the directory of the sources. -/
def print (env : Environment) (relative : Text) : Fate → Action Unit
  | converted target =>
    printLine ([' ', ' '] ++ env.checkMark ++ [' '] ++ relative ++ " → ".toList ++ target)
  | skipped =>
    printLine ([' ', ' '] ++ env.paint .dimmed ['-'] ++ [' '] ++ relative ++ " - no classes".toList)
  | failed failure =>
    reportLine ([' ', ' '] ++ env.paint .red "✗".toList ++ [' '] ++ relative ++ " - ".toList ++
      env.paint .red failure.headline)

end Fate

/-- Converts a source, given the steps to it from the directory of the sources, and prints what becomes of
it. -/
def treatSource (env : Environment) (options : Options) (sourceDir outputDir : Text)
    (names : List Text) : Action Fate := do
  let relative := Path.ofSteps names
  let path := if names.isEmpty then sourceDir else Path.join sourceDir relative
  let result ← ExceptT.lift (convertSource env options outputDir path relative).run
  let fate := Fate.ofResult result
  fate.print env relative
  return fate

/-! ## Whole projects -/

/-- Prints how many sources are converted; it is a failure if some cannot be. -/
def printTotals (env : Environment) (fates : List Fate) : Action Unit := do
  let converted := Text.ofNat (fates.countP Fate.isConverted)
  let failed := fates.countP Fate.isFailed
  printLine []
  if failed = 0 then
    printLine (env.paint .green "✅".toList ++ " Converted ".toList ++ converted ++
      " files successfully (".toList ++ Text.ofNat (fates.countP Fate.isSkipped) ++
      " without classes)".toList)
  else
    printLine (env.paint .yellow "⚠️".toList ++ " Converted ".toList ++ converted ++
      " files, ".toList ++ Text.ofNat failed ++ " errors".toList)
    throw (.sources failed fates.length)

/-- Converts all sources below a path, by default the directory of the sources, into a directory, by
default that of the results. -/
def buildProject (env : Environment) (path outputDir : Option Text) (isStrict : Bool) :
    Action Unit := do
  let settings ← loadSettings env
  let sourceDir := Path.join env.directory (path.getD settings.sourceDir)
  let outputDir := Path.join env.directory (outputDir.getD settings.outputDir)
  unless ← pathExists env sourceDir do
    throw (.missingSources sourceDir)
  let options := conversionOptions settings isStrict
  printLine (env.paint .boldBrightBlue "🔨 Converting C# classes...".toList)
  let sources := (← get).tree.sources env.home sourceDir sourceExtension
  if sources.isEmpty then
    printLine (env.paint .yellow "⚠️  No .cs files found".toList)
  else
    printLine ("Found ".toList ++ Text.ofNat sources.length ++ " files".toList)
    let fates ← sources.mapM (treatSource env options sourceDir outputDir)
    printTotals env fates

end InterfaceGen.Command
