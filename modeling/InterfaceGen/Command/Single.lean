import InterfaceGen.Command.Project
import InterfaceGen.Model.Json

/-!
# Converting one source

One source is read from a file or from standard input, and its interfaces or its model are printed or
written to a file.

Main definitions:

- `readInput`: the text of an input.
- `convertInput`: converts an input.
- `printModel`: prints the model of an input.
-/

namespace InterfaceGen.Command

/-- The text of an input: of a file, or of standard input for a dash or if no file is named. -/
def readInput (env : Environment) (input : Option Text) : Action Text := do
  match input.filter (!Path.isJust ['-'] ·) with
  | some path => orFail (.input path) ((← get).tree.readText env.home path)
  | none => orFail (.input "stdin".toList) env.input.text?

/-- The interfaces of a text that is a source, or a model in JSON. -/
def interfacesOf (options : Options) (fromJson : Bool) (t : Text) : Except Failure Text :=
  if fromJson then
    match Model.parse? t with
    | none => .error .model
    | some model => (model.interfaces options).value.mapError .conversion
  else (convert options t).value.mapError .conversion

/-- The options of a conversion by the settings, made strict if that is asked for. -/
def conversionOptions (settings : Settings) (isStrict : Bool) : Options :=
  let options := settings.options
  { options with isStrict := options.isStrict || isStrict }

/-- Writes interfaces to the file at a path, with the directories around it. -/
def writeResult (env : Environment) (path result : Text) : Action Unit := do
  match Path.parent? path with
  | some dir => makeDirectories env dir
  | none => pure ()
  writeText env path (result ++ ['\n'])

/-- Converts an input, and prints the result or writes it to a file. -/
def convertInput (env : Environment) (input output : Option Text) (fromJson isStrict : Bool) :
    Action Unit := do
  let settings ← loadSettings env
  let t ← readInput env input
  let result ← orFail id (interfacesOf (conversionOptions settings isStrict) fromJson t)
  match output with
  | some path =>
    writeResult env path result
    reportLine ([' ', ' '] ++ env.checkMark ++ [' '] ++ path)
  | none => printLine result

/-- Prints the model of an input in JSON. -/
def printModel (env : Environment) (input : Option Text) : Action Unit := do
  let t ← readInput env input
  let model ← orFail .conversion (modelOf t).value
  printLine model.print

end InterfaceGen.Command
