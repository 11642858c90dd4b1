import InterfaceGen.Json.Value

/-!
# Reading JSON

Strict JSON text is read in two passes: characters into tokens, and tokens into a value.  The second
pass keeps the containers that are still open on a stack, so that it recurses on the tokens alone.

Main definitions:

- `tokenize?`: the tokens of a text.
- `Value.ofTokens?`: the value that tokens spell.
- `Value.parse?`: the value that a text spells.

Main results:

- Theorem `length_lt_of_readToken?`: a token is never empty, so reading makes progress.
-/

namespace InterfaceGen.Json

open Text

/-! ## Strings -/

/-- The value of a hexadecimal digit. -/
def hexDigit? (c : Char) : Option Nat :=
  let n := c.toNat
  if '0'.toNat ≤ n && n ≤ '9'.toNat then some (n - '0'.toNat)
  else if 'a'.toNat ≤ n && n ≤ 'f'.toNat then some (n - 'a'.toNat + 10)
  else if 'A'.toNat ≤ n && n ≤ 'F'.toNat then some (n - 'A'.toNat + 10)
  else none

/-- The value of four hexadecimal digits. -/
def hexUnit? (a b c d : Char) : Option Nat := do
  let a ← hexDigit? a
  let b ← hexDigit? b
  let c ← hexDigit? c
  let d ← hexDigit? d
  return ((a * 16 + b) * 16 + c) * 16 + d

/-- The code point of an escape of one letter. -/
def shortEscape? : Char → Option Nat
  | '"' => some '"'.toNat
  | '\\' => some '\\'.toNat
  | '/' => some '/'.toNat
  | 'b' => some 0x08
  | 'f' => some 0x0C
  | 'n' => some 0x0A
  | 'r' => some 0x0D
  | 't' => some 0x09
  | _ => none

/-- The codes of a string after its opening quote, and the text after its closing quote.  A code is the
code point of a character that stands for itself or the unit of an escape. -/
def readString? : Text → Option (List Nat × Text)
  | [] => none
  | c :: rest =>
    if c = '"' then some ([], rest)
    else if c = '\\' then
      match rest with
      | 'u' :: h₁ :: h₂ :: h₃ :: h₄ :: more => do
        let unit ← hexUnit? h₁ h₂ h₃ h₄
        let (codes, after) ← readString? more
        return (unit :: codes, after)
      | letter :: more => do
        let code ← shortEscape? letter
        let (codes, after) ← readString? more
        return (code :: codes, after)
      | [] => none
    else if c.toNat < 0x20 then none
    else do
      let (codes, after) ← readString? rest
      return (c.toNat :: codes, after)

/-- Whether a code is the first half of a surrogate pair. -/
def isHighSurrogate (n : Nat) : Bool :=
  0xD800 ≤ n && n ≤ 0xDBFF

/-- Whether a code is the second half of a surrogate pair. -/
def isLowSurrogate (n : Nat) : Bool :=
  0xDC00 ≤ n && n ≤ 0xDFFF

/-- The character of a surrogate pair. -/
def joinSurrogates (high low : Nat) : Char :=
  Char.ofNat (0x10000 + (high - 0xD800) * 0x400 + (low - 0xDC00))

/-- The characters of the codes of a string; none if half of a surrogate pair stands alone. -/
def charsOfCodes? : List Nat → Option Text
  | [] => some []
  | [code] =>
    if isHighSurrogate code || isLowSurrogate code then none else some [Char.ofNat code]
  | code :: next :: rest =>
    if isHighSurrogate code then
      if isLowSurrogate next then (charsOfCodes? rest).map (joinSurrogates code next :: ·) else none
    else if isLowSurrogate code then none
    else (charsOfCodes? (next :: rest)).map (Char.ofNat code :: ·)

/-! ## Numbers and words -/

/-- Whether a character can be part of a number. -/
def isNumberPart (c : Char) : Bool :=
  c.isDigit || c == '-' || c == '+' || c == '.' || c == 'e' || c == 'E'

/-- Whether a text is an exponent or empty. -/
def isExponent : Text → Bool
  | [] => true
  | mark :: rest =>
    let digits := match rest with
      | '+' :: more => more
      | '-' :: more => more
      | _ => rest
    (mark == 'e' || mark == 'E') && !digits.isEmpty && digits.all Char.isDigit

/-- Whether a text is a fraction, an exponent, one after the other, or empty. -/
def isFraction : Text → Bool
  | '.' :: rest => !(rest.takeWhile Char.isDigit).isEmpty && isExponent (rest.dropWhile Char.isDigit)
  | t => isExponent t

/-- Whether digits are an integer: at least one, and no zero in front of others. -/
def isInteger : Text → Bool
  | [] => false
  | '0' :: rest => rest.isEmpty
  | _ => true

/-- Whether a text is a number. -/
def isNumber (t : Text) : Bool :=
  let unsigned := match t with
    | '-' :: rest => rest
    | _ => t
  isInteger (unsigned.takeWhile Char.isDigit) && isFraction (unsigned.dropWhile Char.isDigit)

/-- The token that a word is. -/
def wordToken? (word : Text) : Option Token :=
  if word = "null".toList then some .null
  else if word = "true".toList then some (.bool true)
  else if word = "false".toList then some (.bool false)
  else none

/-- The token that a punctuation character is. -/
def signToken? : Char → Option Token
  | '[' => some .openBracket
  | ']' => some .closeBracket
  | '{' => some .openBrace
  | '}' => some .closeBrace
  | ',' => some .comma
  | ':' => some .colon
  | _ => none

/-! ## Tokens -/

/-- The token at the start of a text and the text after it. -/
def readToken? : Text → Option (Token × Text)
  | [] => none
  | c :: rest =>
    match signToken? c with
    | some token => some (token, rest)
    | none =>
      if c = '"' then (readString? rest).map (fun (codes, after) => (.string (charsOfCodes? codes), after))
      else if c.isAlpha then
        (wordToken? (c :: rest.takeWhile Char.isAlpha)).map (·, rest.dropWhile Char.isAlpha)
      else
        let literal := c :: rest.takeWhile isNumberPart
        if isNumberPart c && isNumber literal then
          some (.number literal, rest.dropWhile isNumberPart)
        else none

/-- What remains after a string is shorter than the text it was read from. -/
theorem length_lt_of_readString? {t rest : Text} {codes : List Nat}
    (h : readString? t = some (codes, rest)) : rest.length < t.length := by
  fun_induction readString? t generalizing codes rest <;> simp_all [Option.bind_eq_some_iff] <;> grind

/-- What remains after a token is shorter than the text it was read from. -/
theorem length_lt_of_readToken? {t rest : Text} {token : Token}
    (h : readToken? t = some (token, rest)) : rest.length < t.length := by
  cases t with
  | nil => simp [readToken?] at h
  | cons c cs =>
    have hdrop (p : Char → Bool) : (cs.dropWhile p).length ≤ cs.length :=
      (List.dropWhile_suffix p).length_le
    simp only [readToken?] at h
    split at h
    · cases h; simp
    · split at h
      · obtain ⟨⟨codes, after⟩, hread, hpair⟩ := Option.map_eq_some_iff.1 h
        cases hpair
        have := length_lt_of_readString? hread
        simp; omega
      · split at h
        · obtain ⟨word, _, hpair⟩ := Option.map_eq_some_iff.1 h
          cases hpair
          have := hdrop Char.isAlpha
          simp; omega
        · split at h
          · cases h
            have := hdrop isNumberPart
            simp; omega
          · cases h

/-- Whether a character separates tokens of JSON. -/
def isGap (c : Char) : Bool :=
  c == ' ' || c == '\n' || c == '\t' || c == '\r'

/-- The tokens of a text; none if some part of it is no token. -/
def tokenize? : Text → Option (List Token)
  | [] => some []
  | c :: rest =>
    if isGap c then tokenize? rest
    else
      match _read : readToken? (c :: rest) with
      | none => none
      | some (token, after) => (tokenize? after).map (token :: ·)
termination_by t => t.length
decreasing_by
  · simp
  · exact length_lt_of_readToken? ‹_›

/-! ## Values -/

/-- A container that is still open, with what it holds so far, latest first; an object also has the key
of the value that is being read. -/
inductive Frame where
  | array (items : List Value)
  | object (members : List (Option Text × Value)) (key : Option Text)

mutual

/-- Reads a value inside open containers, and all that follows it. -/
def expectValue? (stack : List Frame) : List Token → Option Value
  | .null :: rest => afterValue? stack .null rest
  | .bool b :: rest => afterValue? stack (.bool b) rest
  | .number literal :: rest => afterValue? stack (.number literal) rest
  | .string content :: rest => afterValue? stack (.string content) rest
  | .openBracket :: .closeBracket :: rest => afterValue? stack (.array []) rest
  | .openBracket :: rest => expectValue? (.array [] :: stack) rest
  | .openBrace :: .closeBrace :: rest => afterValue? stack (.object []) rest
  | .openBrace :: .string key :: .colon :: rest => expectValue? (.object [] key :: stack) rest
  | _ => none

/-- Reads what follows a value inside open containers. -/
def afterValue? (stack : List Frame) (value : Value) : List Token → Option Value
  | [] => if stack.isEmpty then some value else none
  | .comma :: .string key :: .colon :: rest =>
    match stack with
    | .object members open_ :: outer =>
      expectValue? (.object ((open_, value) :: members) key :: outer) rest
    | _ => none
  | .comma :: rest =>
    match stack with
    | .array items :: outer => expectValue? (.array (value :: items) :: outer) rest
    | _ => none
  | .closeBracket :: rest =>
    match stack with
    | .array items :: outer => afterValue? outer (.array (value :: items).reverse) rest
    | _ => none
  | .closeBrace :: rest =>
    match stack with
    | .object members key :: outer =>
      afterValue? outer (.object ((key, value) :: members).reverse) rest
    | _ => none
  | _ => none

end

/-- The value that tokens spell. -/
def Value.ofTokens? (tokens : List Token) : Option Value :=
  expectValue? [] tokens

/-- The value that a text spells. -/
def Value.parse? (t : Text) : Option Value :=
  (tokenize? t).bind ofTokens?

end InterfaceGen.Json
