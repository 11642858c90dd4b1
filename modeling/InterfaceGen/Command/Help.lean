import InterfaceGen.Command.Invocation
import InterfaceGen.Command.Style

/-!
# Help

Help on the program and on its commands is written from what they take: what it is for, how it is called,
and lists of the commands, the operand and the options.

Main definitions:

- `HelpEntry`, `helpList`: a list of terms with what they are for, in two columns.
- `helpText`: the help on a topic.
-/

namespace InterfaceGen.Command

/-! ## Lists -/

/-- A term of a list and what it is for.  The parts of the term are bold or not. -/
structure HelpEntry where
  term : List (Bool × Text)
  purpose : Text

namespace HelpEntry

/-- The number of characters in the term. -/
def width (entry : HelpEntry) : Nat :=
  (entry.term.flatMap (·.2)).length

/-- The line of an entry, where the term has a column of the given width. -/
def line (env : Environment) (column : Nat) (entry : HelpEntry) : Text :=
  let term := entry.term.flatMap fun (isBold, t) => if isBold then env.paint .bold t else t
  [' ', ' '] ++ term ++ List.replicate (column + 2 - entry.width) ' ' ++ entry.purpose ++ ['\n']

/-- The entry for a command or another word. -/
def ofWord (word purpose : Text) : HelpEntry :=
  ⟨[(true, word)], purpose⟩

/-- The entry for an option: its letter, or blanks in place of it, its name and its value. -/
def ofOption (rule : OptionRule) : HelpEntry :=
  let letter :=
    match rule.letter with
    | some c => [(true, ['-', c]), (false, [',', ' '])]
    | none => [(false, List.replicate 4 ' ')]
  let value :=
    match rule.kind with
    | .value label _ => [(false, [' ', '<'] ++ label ++ ['>'])]
    | _ => []
  ⟨letter ++ (true, ['-', '-'] ++ rule.name) :: value, rule.purpose⟩

/-- The entry for an operand, which is shown as its usage. -/
def ofOperand (usage purpose : Text) : HelpEntry :=
  ⟨[(false, usage)], purpose⟩

end HelpEntry

/-- A heading with a list of entries below it; nothing if there are none. -/
def helpList (env : Environment) (heading : Text) (entries : List HelpEntry) : Text :=
  if entries.isEmpty then []
  else
    let column := entries.foldl (fun n e => max n e.width) 0
    ['\n'] ++ env.paint .boldUnderlined (heading ++ [':']) ++ ['\n'] ++ entries.flatMap (·.line env column)

/-! ## Topics -/

/-- The name of the program. -/
def programName : Text :=
  "tsconvert".toList

/-- What the program is for. -/
def programPurpose : Text :=
  "tsconvert - generate TypeScript interfaces from C# data classes".toList

/-- What the command for help is for. -/
def helpPurpose : Text :=
  "Print this message or the help of the given subcommand(s)".toList

/-- What a topic is for. -/
def Topic.purpose : Topic → Text
  | program => programPurpose
  | command name => name.purpose
  | help => helpPurpose

/-- The words that call for a topic. -/
def Topic.words : Topic → List Text
  | program => [programName]
  | command name => [programName, name.text]
  | help => [programName, Request.helpWord]

/-- The options of a topic. -/
def Topic.options : Topic → List OptionRule
  | program => mainGrammar.options
  | command name => name.grammar.options
  | help => []

/-- The usage of an operand, and what it is for. -/
def Topic.operand? : Topic → Option (Text × Text)
  | program => none
  | command name => name.grammar.operand.map fun rule => (['['] ++ rule.label ++ [']'], rule.purpose)
  | help => some ("[COMMAND]...".toList, "Print help for the subcommand(s)".toList)

/-- The commands that a topic lists. -/
def Topic.commands : Topic → List HelpEntry
  | program =>
    Name.all.map (fun name => HelpEntry.ofWord name.text name.purpose) ++
      [HelpEntry.ofWord Request.helpWord helpPurpose]
  | _ => []

/-- How a topic is called. -/
def Topic.usage (env : Environment) (topic : Topic) : Text :=
  let options := if topic.options.isEmpty then [] else " [OPTIONS]".toList
  let command := if topic.commands.isEmpty then [] else " <COMMAND>".toList
  let operand := (topic.operand?.map fun (usage, _) => ' ' :: usage).getD []
  env.paint .boldUnderlined "Usage:".toList ++ [' '] ++ env.paint .bold ([' '].intercalate topic.words) ++
    options ++ command ++ operand ++ ['\n']

/-- The help on a topic. -/
def helpText (env : Environment) (topic : Topic) : Text :=
  let operands := topic.operand?.toList.map fun (usage, purpose) => HelpEntry.ofOperand usage purpose
  topic.purpose ++ ['\n', '\n'] ++ topic.usage env ++
    helpList env "Commands".toList topic.commands ++
    helpList env "Arguments".toList operands ++
    helpList env "Options".toList (topic.options.map HelpEntry.ofOption)

end InterfaceGen.Command
