import InterfaceGen.Command.Style
import InterfaceGen.Settings.Json

/-!
# Projects

A project is a directory with a settings file.  Setting one up makes the directory of the sources with an
example in it and the settings file; nothing that is there is replaced, but for the settings file if that
is asked for.

Main definitions:

- `loadSettings`: the settings of the project in the working directory.
- `setUp`: sets up a project in the working directory.
-/

namespace InterfaceGen.Command

/-! ## Settings -/

/-- The name of the settings file. -/
def settingsName : Text :=
  "tsconvert.config.json".toList

/-- The path of the settings file. -/
def Environment.settingsPath (env : Environment) : Text :=
  Path.join env.directory settingsName

/-- The settings of the project in the working directory; without a settings file, the defaults. -/
def loadSettings (env : Environment) : Action Settings := do
  if ← pathExists env env.settingsPath then
    match Settings.parse? (← readText env env.settingsPath) with
    | some settings => return settings
    | none => throw .settings
  else return {}

/-! ## Setting up -/

/-- The name of the example. -/
def exampleName : Text :=
  "Person.cs".toList

/-- The example: a class with a nested one. -/
def exampleSource : Text :=
  "public class Person
\x7b
    public string Name \x7b get; set; \x7d
    public int? Age \x7b get; set; \x7d
    public List<Address> Addresses \x7b get; set; \x7d
    public class Address
    \x7b
        public string StreetName \x7b get; set; \x7d
        public int PostCode \x7b get; set; \x7d
    \x7d
\x7d
".toList

/-- Makes the directory of the sources, unless there is something at its path. -/
def makeSourceDir (env : Environment) (sourceDir : Text) : Action Unit := do
  let path := Path.join env.directory sourceDir
  unless ← pathExists env path do
    makeDirectories env path
    printLine ([' ', ' '] ++ env.checkMark ++ " Created ".toList ++ sourceDir ++ ['/'])

/-- Puts the example into the directory of the sources, unless there is something at its path. -/
def makeExample (env : Environment) (sourceDir : Text) : Action Unit := do
  let path := Path.join (Path.join env.directory sourceDir) exampleName
  unless ← pathExists env path do
    writeText env path exampleSource
    printLine ([' ', ' '] ++ env.checkMark ++ " Created ".toList ++ exampleName)

/-- Writes the settings file with these directories. -/
def makeSettings (env : Environment) (sourceDir outputDir : Text) : Action Unit := do
  let settings : Settings := { sourceDir, outputDir }
  writeText env env.settingsPath settings.print
  printLine ([' ', ' '] ++ env.checkMark ++ " Created ".toList ++ settingsName)

/-- Sets up a project in the working directory. -/
def setUp (env : Environment) (sourceDir outputDir : Text) (force : Bool) : Action Unit := do
  if (← pathExists env env.settingsPath) && !force then
    printLine (env.paint .yellow "⚠️".toList ++ [' '] ++ env.paint .brightWhite settingsName ++
      " already exists".toList)
    printLine "Use --force to overwrite".toList
  else
    printLine (env.paint .boldBrightBlue "📝 Initializing tsconvert...".toList)
    makeSourceDir env sourceDir
    makeExample env sourceDir
    makeSettings env sourceDir outputDir
    printLine []
    printLine (env.paint .boldGreen "✅ Project initialized!".toList)
    printLine []
    printLine "Next steps:".toList
    printLine ("  1. Add C# classes under ".toList ++ sourceDir ++ ['/'])
    printLine "  2. Run: tsconvert build".toList
    printLine ("  3. Check output in ".toList ++ outputDir ++ ['/'])

end InterfaceGen.Command
