import InterfaceGen.Command.Batch
import InterfaceGen.Command.Help

/-!
# Running the program

The words of a command line are carried out on a file tree.

Main definitions:

- `Outcome`: the exit status, what is printed, and the file tree afterwards.
- `run`: the outcome of a command line.
-/

namespace InterfaceGen.Command

/-- What a run of the program leaves. -/
structure Outcome where
  status : Nat
  output : Text
  messages : Text
  tree : FileTree

/-- The name of the program and its version. -/
def versionText : Text :=
  programName ++ " 0.1.0\n".toList

/-- Carries out an invocation. -/
def perform (env : Environment) : Invocation → Action Unit
  | .init sourceDir outputDir force => setUp env sourceDir outputDir force
  | .convert input output fromJson isStrict => convertInput env input output fromJson isStrict
  | .build path outputDir isStrict => buildProject env path outputDir isStrict
  | .parse input => printModel env input

/-- The outcome of an action: a failure is reported and makes the exit status 1. -/
def Outcome.ofAction (env : Environment) (action : Action Unit) (tree : FileTree) : Outcome :=
  let (result, session) := action.run.run ⟨tree, [], []⟩
  match result with
  | .ok () => ⟨0, session.output, session.messages, session.tree⟩
  | .error failure =>
    let report := '\n' :: env.paint .boldRed "Error:".toList ++ [' '] ++ failure.message ++ ['\n', '\n']
    ⟨1, session.output, session.messages ++ report, session.tree⟩

/-- The outcome of a command line: words that break the rules are answered with help as a message. -/
def run (env : Environment) (words : List Text) (tree : FileTree) : Outcome :=
  match Request.ofWords words with
  | .perform invocation => Outcome.ofAction env (perform env invocation) tree
  | .help topic => ⟨0, helpText env topic, [], tree⟩
  | .version => ⟨0, versionText, [], tree⟩
  | .misuse => ⟨2, [], helpText env .program, tree⟩

end InterfaceGen.Command
