import InterfaceGen.Conversion
import InterfaceGen.Files.Tree

/-!
# Sessions

A command runs in a session: it changes the file tree and prints, and what it did before a failure stays.

Main definitions:

- `Environment`: what a command is given.
- `Session`: the file tree and what is printed.
- `Failure`: why a command fails, with the wording of its causes.
- `Action`: a step of a command.

Main results:

- Theorem `run_bind`: how two steps run after each other.
-/

namespace InterfaceGen.Command

/-! ## Environment -/

/-- What a command is given: the absolute path of the working directory, standard input, and whether its
messages are colored. -/
structure Environment where
  directory : Text
  input : Content
  isColored : Bool

/-- The location of the working directory. -/
def Environment.home (env : Environment) : Location :=
  Path.steps env.directory

/-! ## Failures -/

/-- What is said of JSON text that is not well-formed or does not have the shape it should. -/
def jsonFault : Text :=
  "malformed or unfitting JSON".toList

/-- Why a command fails. -/
inductive Failure where
  /-- The settings file describes no settings. -/
  | settings
  /-- An operation on files fails. -/
  | files (fault : FileError)
  /-- The input cannot be read. -/
  | input (name : Text) (fault : FileError)
  /-- The input describes no model. -/
  | model
  /-- The input has no interfaces. -/
  | conversion (cause : ConversionError)
  /-- There is nothing at the path of the sources. -/
  | missingSources (path : Text)
  /-- Some sources could not be converted. -/
  | sources (failed total : Nat)
deriving DecidableEq, Repr

namespace Failure

/-- The wording of a failure and of the causes behind it, outermost first. -/
def causes : Failure → List Text
  | settings => [jsonFault]
  | files fault => [fault.message]
  | input name fault => ["Cannot read ".toList ++ name, fault.message]
  | model => ["Input is not a valid declaration model".toList, jsonFault]
  | conversion cause => cause.message :: (cause.cause?.map TypeError.message).toList
  | missingSources path => ["Source directory does not exist: ".toList ++ Path.quoted path]
  | sources failed total =>
    [Text.ofNat failed ++ " of ".toList ++ Text.ofNat total ++ " files failed to convert".toList]

/-- The wording of a failure without the causes behind it. -/
def headline (f : Failure) : Text :=
  f.causes.headD []

/-- The wording of a failure with the causes behind it. -/
def message (f : Failure) : Text :=
  [':', ' '].intercalate f.causes

end Failure

/-! ## Actions -/

/-- The file tree, and what is printed on standard output and as messages. -/
structure Session where
  tree : FileTree
  output : Text
  messages : Text

/-- A step of a command: it may fail, and what it did to the session before stays. -/
abbrev Action := ExceptT Failure (StateM Session)

/-- A step after another runs in the session that the other leaves, unless the other fails. -/
theorem run_bind {α β : Type} (x : Action α) (f : α → Action β) (s : Session) :
    (x >>= f).run.run s =
      match x.run.run s with
      | (.ok a, next) => (f a).run.run next
      | (.error e, next) => (.error e, next) := by
  rw [ExceptT.run_bind, StateT.run_bind]
  rcases x.run.run s with ⟨_ | a, next⟩ <;> rfl

/-- Prints a line on standard output. -/
def printLine (line : Text) : Action Unit :=
  modify fun s => { s with output := s.output ++ line ++ ['\n'] }

/-- Prints a line as a message. -/
def reportLine (line : Text) : Action Unit :=
  modify fun s => { s with messages := s.messages ++ line ++ ['\n'] }

/-- The value of a result, or the failure that its error means. -/
def orFail {ε α : Type} (failure : ε → Failure) : Except ε α → Action α
  | .ok a => pure a
  | .error e => throw (failure e)

/-- Whether there is anything at a path. -/
def pathExists (env : Environment) (path : Text) : Action Bool := do
  return (← get).tree.pathExists env.home path

/-- The text of the file at a path. -/
def readText (env : Environment) (path : Text) : Action Text := do
  orFail .files ((← get).tree.readText env.home path)

/-- Puts a text into the file at a path. -/
def writeText (env : Environment) (path t : Text) : Action Unit := do
  let tree ← orFail .files ((← get).tree.writeText env.home path t)
  modify fun s => { s with tree }

/-- Makes a directory and those around it. -/
def makeDirectories (env : Environment) (path : Text) : Action Unit := do
  let (tree, fault?) := (← get).tree.makeDirectories env.home path
  modify fun s => { s with tree }
  match fault? with
  | none => pure ()
  | some fault => throw (.files fault)

end InterfaceGen.Command
