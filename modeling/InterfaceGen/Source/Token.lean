import InterfaceGen.Text.Basic

/-!
# Tokens

The tokens of one line of source: the four words with a meaning of their own, all other words, and
thirteen symbols.  A token knows its spelling; which tokens may stand in a type and which may stand as
a name is decided here as well.
-/

namespace InterfaceGen.Source

/-! ## Keywords and symbols -/

/-- A word with a meaning of its own. -/
inductive Keyword where
  | publicWord
  | classWord
  | getWord
  | setWord
deriving DecidableEq, Repr

namespace Keyword

/-- Every keyword. -/
def all : List Keyword :=
  [publicWord, classWord, getWord, setWord]

/-- The spelling of a keyword. -/
def text : Keyword → Text
  | publicWord => "public".toList
  | classWord => "class".toList
  | getWord => "get".toList
  | setWord => "set".toList

/-- The keyword that a word spells. -/
def ofText? (word : Text) : Option Keyword :=
  all.find? (·.text == word)

end Keyword

/-- A token of one character. -/
inductive Symbol where
  | leftBrace
  | rightBrace
  | leftAngle
  | rightAngle
  | question
  | semicolon
  | comma
  | colon
  | equals
  | leftParen
  | rightParen
  | leftBracket
  | rightBracket
deriving DecidableEq, Repr

namespace Symbol

/-- Every symbol. -/
def all : List Symbol :=
  [leftBrace, rightBrace, leftAngle, rightAngle, question, semicolon, comma, colon, equals, leftParen,
    rightParen, leftBracket, rightBracket]

/-- The character of a symbol. -/
def char : Symbol → Char
  | leftBrace => '{'
  | rightBrace => '}'
  | leftAngle => '<'
  | rightAngle => '>'
  | question => '?'
  | semicolon => ';'
  | comma => ','
  | colon => ':'
  | equals => '='
  | leftParen => '('
  | rightParen => ')'
  | leftBracket => '['
  | rightBracket => ']'

/-- The symbol that a character is. -/
def ofChar? (c : Char) : Option Symbol :=
  all.find? (·.char == c)

end Symbol

/-! ## Tokens -/

/-- A token of a source line. -/
inductive Token where
  | keyword (word : Keyword)
  | ident (name : Text)
  | symbol (sign : Symbol)
deriving DecidableEq, Repr

namespace Token

/-- The spelling of a token. -/
def text : Token → Text
  | keyword word => word.text
  | ident name => name
  | symbol sign => [sign.char]

/-- Whether a token may stand in a type such as `List<Address>?`. -/
def fitsType : Token → Bool
  | ident _ => true
  | symbol .leftAngle => true
  | symbol .rightAngle => true
  | symbol .question => true
  | _ => false

/-- The text of a word, keywords included; symbols are no words. -/
def word? : Token → Option Text
  | keyword word => some word.text
  | ident name => some name
  | symbol _ => none

end Token

end InterfaceGen.Source
