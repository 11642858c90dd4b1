import InterfaceGen.Text.Basic

/-!
# JSON values and tokens

A JSON value keeps what its text says and no more: numbers keep their spelling, objects keep every
member in order, and a string whose escapes leave half of a surrogate pair alone has no content.

Main definitions:

- `Json.Value`: a JSON value.
- `Json.Token`, `Json.Value.tokens`: the tokens of JSON text, and those that spell a value.
-/

namespace InterfaceGen.Json

/-- A JSON value. -/
inductive Value where
  | null
  | bool (b : Bool)
  /-- A number as it is spelled. -/
  | number (literal : Text)
  /-- A string; it has no content if half of a surrogate pair stands alone in it. -/
  | string (content : Option Text)
  | array (items : List Value)
  | object (members : List (Option Text × Value))
deriving Inhabited

/-- A token of JSON text. -/
inductive Token where
  | openBracket
  | closeBracket
  | openBrace
  | closeBrace
  | comma
  | colon
  | null
  | bool (b : Bool)
  | number (literal : Text)
  | string (content : Option Text)
deriving DecidableEq, Repr

namespace Value

mutual

/-- The tokens that spell a value. -/
def tokens : Value → List Token
  | null => [.null]
  | bool b => [.bool b]
  | number literal => [.number literal]
  | string content => [.string content]
  | array items => .openBracket :: itemTokens items
  | object members => .openBrace :: memberTokens members

/-- The tokens of the items of an array and its closing bracket. -/
def itemTokens : List Value → List Token
  | [] => [.closeBracket]
  | [item] => item.tokens ++ [.closeBracket]
  | item :: items => item.tokens ++ .comma :: itemTokens items

/-- The tokens of the members of an object and its closing brace. -/
def memberTokens : List (Option Text × Value) → List Token
  | [] => [.closeBrace]
  | [(key, value)] => .string key :: .colon :: value.tokens ++ [.closeBrace]
  | (key, value) :: members =>
    .string key :: .colon :: value.tokens ++ .comma :: memberTokens members

end

/-- The value of a string with this content. -/
def ofText (t : Text) : Value :=
  .string (some t)

/-- The content of a string. -/
def text? : Value → Option Text
  | string content => content
  | _ => none

/-- The truth value of `true` and `false`. -/
def bool? : Value → Option Bool
  | bool b => some b
  | _ => none

/-- The items of an array. -/
def items? : Value → Option (List Value)
  | array items => some items
  | _ => none

/-- The number that a literal of digits alone stands for. -/
def nat? : Value → Option Nat
  | number literal => Text.toNat? literal
  | _ => none

end Value

end InterfaceGen.Json
