import InterfaceGen.Command.Session

/-!
# Colored messages

Parts of a message are colored by the control sequences of terminals, if messages are colored at all.

Main definitions:

- `Environment.paint`: a text in a style, if messages are colored.
- `wantsColor`: whether messages are colored, by what the user has set.
-/

namespace InterfaceGen.Command

/-- A color or weight of letters. -/
inductive Style where
  | green
  | yellow
  | red
  | dimmed
  | brightWhite
  | boldRed
  | boldGreen
  | boldBrightBlue
  | bold
  | boldUnderlined
deriving DecidableEq, Repr

/-- The parameters of the control sequences that start a style. -/
def Style.codes : Style → List Text
  | green => ["32".toList]
  | yellow => ["33".toList]
  | red => ["31".toList]
  | dimmed => ["2".toList]
  | brightWhite => ["97".toList]
  | boldRed => ["1;31".toList]
  | boldGreen => ["1;32".toList]
  | boldBrightBlue => ["1;94".toList]
  | bold => ["1".toList]
  | boldUnderlined => ["1".toList, "4".toList]

/-- The control sequence with these parameters. -/
def controlSequence (code : Text) : Text :=
  ['\x1b', '['] ++ code ++ ['m']

/-- A text in a style, if messages are colored. -/
def Environment.paint (env : Environment) (style : Style) (t : Text) : Text :=
  if env.isColored then style.codes.flatMap controlSequence ++ t ++ controlSequence ['0'] else t

/-- The mark of something done. -/
def Environment.checkMark (env : Environment) : Text :=
  env.paint .green "✓".toList

/-- Whether a setting is on: it is there and is not `0`. -/
def isOn (setting : Option Text) : Bool :=
  setting.any (· != ['0'])

/-- Whether messages are colored: always if that is forced, never if color is refused, and otherwise on a
terminal unless color is switched off. -/
def wantsColor (forced refused allowed : Option Text) (isTerminal : Bool) : Bool :=
  isOn forced || (refused.isNone && (allowed.isNone || isOn allowed) && isTerminal)

end InterfaceGen.Command
