import InterfaceGen.Source.Token
import InterfaceGen.Text.Letter
import InterfaceGen.Text.Mark

/-!
# Lexing a line

A line is cut into tokens from the left.  Words are as long as they can be; space, tab, carriage return
and line feed separate tokens; the first character that can begin neither ends the lexing.

Main definitions:

- `readToken`: the token at the start of a text, with the text after it.
- `Lexeme`: a token with its place in the line.
- `lex`: all lexemes of a line, and whether they reach its end.

Main results:

- Theorem `length_lt_of_readToken`: a token is never empty, so lexing makes progress.
-/

namespace InterfaceGen.Source

open Text

/-! ## Character classes -/

/-- Whether a character separates tokens. -/
def isGap (c : Char) : Bool :=
  c == ' ' || c == '\t' || c == '\r' || c == '\n'

/-- Whether a word may begin with a character: a letter or the underscore. -/
def isWordStart (c : Char) : Bool :=
  isLetter c || c == '_'

/-- Whether a word may go on with a character: a letter, mark, numeral or the underscore. -/
def isWordPart (c : Char) : Bool :=
  isLetter c || isMark c || isNumeral c || c == '_'

/-- Code points outside ASCII that cannot continue a word and leave a keyword before them alone. -/
def harmlessRanges : List (Nat × Nat) :=
  [(0xE000, 0xEFFF), (0x40000, 0xBFFFF), (0x100000, 0x10FFFF)]

/-- Whether a keyword followed at once by a character is an ordinary word: one outside ASCII that
cannot continue a word, unless it is harmless. -/
def spoilsKeyword (c : Char) : Bool :=
  0x80 ≤ c.toNat && !isWordPart c && !inRanges harmlessRanges c.toNat

/-! ## Single tokens -/

/-- The token that a whole word is, given the text after it. -/
def wordToken (word after : Text) : Token :=
  match Keyword.ofText? word with
  | none => .ident word
  | some keyword => if after.head?.any spoilsKeyword then .ident word else .keyword keyword

/-- The token at the start of a text and the text after it; none where no token begins. -/
def readToken : Text → Option (Token × Text)
  | [] => none
  | c :: rest =>
    match Symbol.ofChar? c with
    | some sign => some (.symbol sign, rest)
    | none =>
      if isWordStart c then
        let after := rest.dropWhile isWordPart
        some (wordToken (c :: rest.takeWhile isWordPart) after, after)
      else none

/-- What remains after a token is shorter than the text it was read from. -/
theorem length_lt_of_readToken {t rest : Text} {token : Token}
    (h : readToken t = some (token, rest)) : rest.length < t.length := by
  cases t with
  | nil => simp [readToken] at h
  | cons c cs =>
    have hdrop : (cs.dropWhile isWordPart).length ≤ cs.length :=
      (List.dropWhile_suffix isWordPart).length_le
    simp only [readToken] at h
    split at h
    · cases h; simp
    · split at h
      · cases h; simpa using Nat.lt_succ_of_le hdrop
      · cases h

/-! ## Whole lines -/

/-- A token with the bytes of the line it stands on: from `start` up to `stop`. -/
structure Lexeme where
  token : Token
  start : Nat
  stop : Nat
deriving DecidableEq, Repr

/-- The lexemes of a line, and whether lexing reached its end. -/
structure LexedLine where
  lexemes : List Lexeme
  complete : Bool
deriving DecidableEq, Repr

/-- A line with one more lexeme at its front. -/
def LexedLine.cons (lexeme : Lexeme) (line : LexedLine) : LexedLine :=
  { line with lexemes := lexeme :: line.lexemes }

/-- The tokens of a line. -/
def LexedLine.tokens (line : LexedLine) : List Token :=
  line.lexemes.map (·.token)

/-- Lexes a text that begins at byte `position` of its line. -/
def lexFrom (position : Nat) : Text → LexedLine
  | [] => ⟨[], true⟩
  | c :: rest =>
    if isGap c then lexFrom (position + c.utf8Size) rest
    else
      match _read : readToken (c :: rest) with
      | none => ⟨[], false⟩
      | some (token, after) =>
        let stop := position + byteSize token.text
        (lexFrom stop after).cons ⟨token, position, stop⟩
termination_by t => t.length
decreasing_by
  · simp
  · exact length_lt_of_readToken ‹_›

/-- Lexes a line. -/
def lex (line : Text) : LexedLine :=
  lexFrom 0 line

end InterfaceGen.Source
