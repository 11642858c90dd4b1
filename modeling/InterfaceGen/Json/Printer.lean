import InterfaceGen.Json.Value

/-!
# Printing JSON

A value is printed with every item and member on a line of its own, two spaces deeper than the container
it is in; containers without content are printed on one line.

Main definitions:

- `quote`: a text as a JSON string.
- `Value.pretty`: a value as indented JSON text.
-/

namespace InterfaceGen.Json

/-! ## Strings -/

/-- A hexadecimal digit in lower case. -/
def hexChar (n : Nat) : Char :=
  Nat.digitChar n

/-- A character as it is written inside a string: quotes, backslashes and control characters are
escaped, and all others stand for themselves. -/
def escape (c : Char) : Text :=
  if c = '"' then ['\\', '"']
  else if c = '\\' then ['\\', '\\']
  else if c.toNat = 0x08 then ['\\', 'b']
  else if c.toNat = 0x0C then ['\\', 'f']
  else if c = '\n' then ['\\', 'n']
  else if c = '\r' then ['\\', 'r']
  else if c = '\t' then ['\\', 't']
  else if c.toNat < 0x20 then ['\\', 'u', '0', '0', hexChar (c.toNat / 16), hexChar (c.toNat % 16)]
  else [c]

/-- A text as a JSON string. -/
def quote (t : Text) : Text :=
  '"' :: t.flatMap escape ++ ['"']

/-- The content of a string as JSON text; a string without content is half of a surrogate pair. -/
def quoteContent : Option Text → Text
  | some t => quote t
  | none => "\"\\ud800\"".toList

/-! ## Values -/

/-- A line break and the indentation of a depth. -/
def newline (depth : Nat) : Text :=
  '\n' :: List.replicate (2 * depth) ' '

namespace Value

mutual

/-- A value inside `depth` containers as indented JSON text. -/
def prettyAt (depth : Nat) : Value → Text
  | null => "null".toList
  | bool b => if b then "true".toList else "false".toList
  | number literal => literal
  | string content => quoteContent content
  | array items => if items.isEmpty then ['[', ']'] else '[' :: prettyItems depth items
  | object members => if members.isEmpty then ['{', '}'] else '{' :: prettyMembers depth members

/-- The items of an array inside `depth` containers, with its closing bracket. -/
def prettyItems (depth : Nat) : List Value → Text
  | [] => newline depth ++ [']']
  | item :: items =>
    newline (depth + 1) ++ item.prettyAt (depth + 1) ++ (if items.isEmpty then [] else [',']) ++
      prettyItems depth items

/-- The members of an object inside `depth` containers, with its closing brace. -/
def prettyMembers (depth : Nat) : List (Option Text × Value) → Text
  | [] => newline depth ++ ['}']
  | (key, value) :: members =>
    newline (depth + 1) ++ quoteContent key ++ [':', ' '] ++ value.prettyAt (depth + 1) ++
      (if members.isEmpty then [] else [',']) ++ prettyMembers depth members

end

/-- A value as indented JSON text. -/
def pretty (v : Value) : Text :=
  v.prettyAt 0

end Value

end InterfaceGen.Json
