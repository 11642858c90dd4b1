import InterfaceGen.Command.Arguments

/-!
# Invocations

What the program is asked to do: set up a project, convert one source, convert all sources of a project,
or print the model of a source; or else to show help or its version.

Main definitions:

- `Name`, `Name.grammar`: the commands of the program and the words that they take.
- `Invocation`: a command with its arguments.
- `Request.ofWords`: what the words of a command line ask for.
-/

namespace InterfaceGen.Command

/-! ## Commands -/

/-- A command of the program. -/
inductive Name where
  | init
  | convert
  | build
  | parse
deriving DecidableEq, Repr

namespace Name

/-- Every command. -/
def all : List Name :=
  [init, convert, build, parse]

/-- The word for a command. -/
def text : Name → Text
  | init => "init".toList
  | convert => "convert".toList
  | build => "build".toList
  | parse => "parse".toList

/-- What a command does. -/
def purpose : Name → Text
  | init => "Create a tsconvert.config.json and an example class".toList
  | convert => "Convert a single C# file (or stdin) to TypeScript".toList
  | build => "Convert every .cs file under a directory".toList
  | parse => "Print the parsed declarations as JSON".toList

/-- The command that a word stands for. -/
def ofText? (word : Text) : Option Name :=
  all.find? (·.text == word)

end Name

/-! ## Grammars -/

/-- The option for more messages, which every command takes and which changes no result. -/
def verboseRule : OptionRule :=
  ⟨"verbose".toList, some 'v', .flag, "Log parser and compiler decisions to stderr".toList⟩

/-- The option that asks for help. -/
def helpRule : OptionRule :=
  ⟨"help".toList, some 'h', .stop .help, "Print help".toList⟩

/-- The option that asks for the version, in front of the command only. -/
def versionRule : OptionRule :=
  ⟨"version".toList, some 'V', .stop .version, "Print version".toList⟩

/-- The option for strict resolution of types. -/
def strictRule : OptionRule :=
  ⟨"strict".toList, none, .flag, "Fail on types that are neither scalars nor declared classes".toList⟩

/-- The option for the directory of the results. -/
def outDirRule (purpose : Text) : OptionRule :=
  ⟨"out-dir".toList, some 'o', .value "OUT_DIR".toList true, purpose⟩

/-- The operand for the source that is read. -/
def inputRule : OperandRule :=
  ⟨"INPUT".toList, false, "C# source file (reads stdin when omitted or \"-\")".toList⟩

/-- The words in front of the command. -/
def mainGrammar : Grammar :=
  ⟨[verboseRule, helpRule, versionRule], none⟩

/-- The words behind a command, with the options in the order in which help lists them. -/
def Name.grammar : Name → Grammar
  | init =>
    ⟨[⟨"src-dir".toList, some 's', .value "SRC_DIR".toList true,
          "Source directory holding .cs files [default: src]".toList⟩,
        verboseRule,
        outDirRule "Output directory for generated .ts files [default: dist]".toList,
        ⟨"force".toList, some 'f', .flag, "Force overwrite existing config".toList⟩,
        helpRule],
      none⟩
  | convert =>
    ⟨[⟨"output".toList, some 'o', .value "OUTPUT".toList false,
          "Write TypeScript to this file instead of stdout".toList⟩,
        verboseRule,
        ⟨"from-json".toList, none, .flag,
          "Read the declaration model as JSON instead of C# source".toList⟩,
        strictRule,
        helpRule],
      some inputRule⟩
  | build =>
    ⟨[outDirRule "Output directory (overrides config)".toList, verboseRule, strictRule, helpRule],
      some ⟨"PATH".toList, true,
        "Directory to search for .cs files (defaults to the configured srcDir)".toList⟩⟩
  | parse =>
    ⟨[verboseRule, helpRule], some inputRule⟩

/-! ## Invocations -/

/-- A command with its arguments. -/
inductive Invocation where
  /-- Set up a project with these directories; `force` replaces settings that are there. -/
  | init (sourceDir outputDir : Text) (force : Bool)
  /-- Convert one source, or a model in JSON; without an input it comes from standard input, and without
  an output the result goes to standard output. -/
  | convert (input output : Option Text) (fromJson isStrict : Bool)
  /-- Convert all sources below a path into a directory. -/
  | build (path outputDir : Option Text) (isStrict : Bool)
  /-- Print the model of a source. -/
  | parse (input : Option Text)
deriving DecidableEq, Repr

/-- A command with the arguments that are given. -/
def Invocation.ofGiven (given : Given) : Name → Invocation
  | .init =>
    .init ((given.value? "src-dir".toList).getD "src".toList)
      ((given.value? "out-dir".toList).getD "dist".toList) (given.has "force".toList)
  | .convert =>
    .convert given.operand (given.value? "output".toList) (given.has "from-json".toList)
      (given.has "strict".toList)
  | .build => .build given.operand (given.value? "out-dir".toList) (given.has "strict".toList)
  | .parse => .parse given.operand

/-! ## Requests -/

/-- What help is asked for. -/
inductive Topic where
  /-- The program as a whole. -/
  | program
  /-- One of its commands. -/
  | command (name : Name)
  /-- Help itself. -/
  | help
deriving DecidableEq, Repr

/-- What the words of a command line ask for. -/
inductive Request where
  | perform (invocation : Invocation)
  | help (topic : Topic)
  | version
  /-- Nothing: they break the rules. -/
  | misuse
deriving DecidableEq, Repr

namespace Request

/-- The request of words that end the reading of the arguments of a topic. -/
def ofStop (topic : Topic) : Stop → Request
  | .misuse => misuse
  | .help => help topic
  | .version => version

/-- What the words after a command ask for. -/
def ofCommand (name : Name) (words : List Text) : Request :=
  match name.grammar.read words with
  | .ok given => perform (Invocation.ofGiven given name)
  | .error reason => ofStop (.command name) reason

/-- The word that asks for help with a command. -/
def helpWord : Text :=
  "help".toList

/-- What the words after that word ask for. -/
def ofHelp : List Text → Request
  | [] => help .program
  | [word] =>
    match Name.ofText? word with
    | some name => help (.command name)
    | none => if word = helpWord then help .help else misuse
  | _ => misuse

/-- What words ask for after the options `given` in front of the command. -/
def ofWordsAfter (given : Given) : List Text → Request
  | [] => misuse
  | word :: rest =>
    match Name.ofText? word with
    | some name => ofCommand name rest
    | none =>
      if word = helpWord then ofHelp rest
      else
        match mainGrammar.readWord given word with
        | .error reason => ofStop .program reason
        | .ok (next, _) => ofWordsAfter next rest

/-- What the words of a command line ask for. -/
def ofWords (words : List Text) : Request :=
  ofWordsAfter {} words

end Request

end InterfaceGen.Command
