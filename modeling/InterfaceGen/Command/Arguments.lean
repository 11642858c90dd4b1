import InterfaceGen.Text.Basic

/-!
# Command line arguments

The words of a command line are options, with or without a value, and at most one operand.  Options are
written `--name`, `--name=value` or `--name value`, or with one letter as `-n`, `-nvalue`, `-n=value` or
`-n value`; options of one letter without a value may be put together.  After `--` there are no options.

Main definitions:

- `Grammar`: the options and operands that a command takes.
- `Grammar.read`: the options and the operand that words give.
-/

namespace InterfaceGen.Command

/-! ## Grammars -/

/-- Why the words of a command line give no command. -/
inductive Stop where
  /-- They break the rules. -/
  | misuse
  /-- They ask for help. -/
  | help
  /-- They ask for the version. -/
  | version
deriving DecidableEq, Repr

/-- What an option takes. -/
inductive OptionKind where
  /-- No value. -/
  | flag
  /-- A value, which is called by a label and may be empty or not. -/
  | value (label : Text) (allowsEmpty : Bool)
  /-- No value; it ends the reading. -/
  | stop (reason : Stop)
deriving DecidableEq, Repr

/-- An option by its name, its letter, what it takes and what it is for. -/
structure OptionRule where
  name : Text
  letter : Option Char
  kind : OptionKind
  purpose : Text
deriving DecidableEq, Repr

/-- An operand by its label, whether it may be empty, and what it is for. -/
structure OperandRule where
  label : Text
  allowsEmpty : Bool
  purpose : Text
deriving DecidableEq, Repr

/-- The options that a command takes, and the operand if it takes one. -/
structure Grammar where
  options : List OptionRule
  operand : Option OperandRule
deriving DecidableEq, Repr

/-- Whether an option may have a value. -/
def OptionKind.accepts (value : Text) : OptionKind → Bool
  | .value _ allowsEmpty => allowsEmpty || !value.isEmpty
  | _ => true

/-- The options given, with their values, and the operand. -/
structure Given where
  options : List (Text × Text) := []
  operand : Option Text := none
deriving DecidableEq, Repr

namespace Given

/-- Whether an option is given. -/
def has (given : Given) (name : Text) : Bool :=
  given.options.any (·.1 == name)

/-- The value of an option. -/
def value? (given : Given) (name : Text) : Option Text :=
  (given.options.find? (·.1 == name)).map (·.2)

/-- Gives an option a value; an option is given once, and its value is not empty unless it may be. -/
def add (given : Given) (rule : OptionRule) (value : Text) : Except Stop Given :=
  if given.has rule.name || !rule.kind.accepts value then .error .misuse
  else .ok { given with options := (rule.name, value) :: given.options }

end Given

namespace Grammar

/-! ## Single words -/

/-- Gives the operand; there is at most one, and it is not empty unless it may be. -/
def addOperand (g : Grammar) (given : Given) (word : Text) : Except Stop Given :=
  match g.operand with
  | none => .error .misuse
  | some rule =>
    if given.operand.isSome || (!rule.allowsEmpty && word.isEmpty) then .error .misuse
    else .ok { given with operand := some word }

/-- Reads the letters of a word of one dash.  An option that takes a value takes the rest of the word, or
the next word if there is no rest. -/
def readLetters (g : Grammar) (given : Given) : Text → Except Stop (Given × Option OptionRule)
  | [] => .ok (given, none)
  | letter :: rest =>
    match g.options.find? (·.letter == some letter) with
    | none => .error .misuse
    | some rule =>
      match rule.kind with
      | .stop reason => .error reason
      | .flag => do g.readLetters (← given.add rule []) rest
      | .value _ _ =>
        match rest with
        | [] => .ok (given, some rule)
        | '=' :: value => do return (← given.add rule value, none)
        | value => do return (← given.add rule value, none)

/-- Reads a word of two dashes, without them.  An option that takes a value takes what stands behind an
equals sign, or the next word if there is none. -/
def readName (g : Grammar) (given : Given) (word : Text) : Except Stop (Given × Option OptionRule) :=
  match g.options.find? (·.name == word.takeWhile (· != '=')), word.dropWhile (· != '=') with
  | none, _ => .error .misuse
  | some rule, attached =>
    match rule.kind, attached with
    | .stop reason, [] => .error reason
    | .flag, [] => do return (← given.add rule [], none)
    | .value _ _, [] => .ok (given, some rule)
    | .value _ _, _ :: value => do return (← given.add rule value, none)
    | _, _ :: _ => .error .misuse

/-- Reads a word; the option that waits for the next word as its value is returned as well. -/
def readWord (g : Grammar) (given : Given) (word : Text) : Except Stop (Given × Option OptionRule) :=
  match word with
  | '-' :: '-' :: name => g.readName given name
  | '-' :: letter :: letters => g.readLetters given (letter :: letters)
  | _ => do return (← g.addOperand given word, none)

/-! ## All words -/

/-- Whether a word is no value: it begins with a dash and is not the dash alone. -/
def isOption (word : Text) : Bool :=
  word.head? == some '-' && word != ['-']

/-- Reads the words of a command line. -/
def readFrom (g : Grammar) (given : Given) : List Text → Except Stop Given
  | [] => .ok given
  | word :: rest =>
    if word = ['-', '-'] then rest.foldlM g.addOperand given
    else
      match g.readWord given word with
      | .error reason => .error reason
      | .ok (next, none) => g.readFrom next rest
      | .ok (next, some rule) =>
        match rest with
        | [] => .error .misuse
        | value :: more =>
          if isOption value then .error .misuse
          else
            match next.add rule value with
            | .error reason => .error reason
            | .ok filled => g.readFrom filled more

/-- The options and the operand that words give. -/
def read (g : Grammar) (words : List Text) : Except Stop Given :=
  g.readFrom {} words

end Grammar

end InterfaceGen.Command
