import InterfaceGen.Source.Lexer

/-!
# What a line says

A line opens a class, closes one, declares a property, begins like a class without naming one, or says
nothing of interest.  The rules are tried in that order of rank: class header, closing brace, property.

Main definitions:

- `LineKind`: what a line says.
- `LineKind.ofLine`: the kind of a line.
-/

namespace InterfaceGen.Source

open Text

/-- What a line says. -/
inductive LineKind where
  /-- It opens a class of this name. -/
  | opening (name : Text)
  /-- It is a closing brace and nothing else. -/
  | closing
  /-- It declares a property with accessors. -/
  | property (name sourceType : Text)
  /-- It begins like a class header and names no class. -/
  | malformedHeader
  /-- It says nothing of interest. -/
  | other
deriving DecidableEq, Repr

/-! ## Class headers -/

/-- The words that may stand between `public` and `class`. -/
def classModifiers : List Text :=
  ["sealed".toList, "partial".toList, "abstract".toList]

/-- The name that a token gives a class: any word but `public` and `class`. -/
def Token.className? : Token → Option Text
  | .keyword .publicWord => none
  | .keyword .classWord => none
  | token => token.word?

/-- The kind of a header by the tokens after `public`: none unless modifiers lead to `class`. -/
def headerAfterPublic : List Token → Option LineKind
  | .ident word :: rest => if classModifiers.contains word then headerAfterPublic rest else none
  | .keyword .classWord :: rest =>
    some (match rest.head?.bind Token.className? with
      | some name => .opening name
      | none => .malformedHeader)
  | _ => none

/-- The kind of a line as a class header; none if it is no header. -/
def header? : List Token → Option LineKind
  | .keyword .publicWord :: rest => headerAfterPublic rest
  | _ => none

/-! ## Properties -/

/-- Splits lexemes after the longest run of type parts that begins at byte `stop` and has no gap. -/
def typeRun (stop : Nat) : List Lexeme → List Lexeme × List Lexeme
  | [] => ([], [])
  | lexeme :: rest =>
    if lexeme.token.fitsType && lexeme.start == stop then
      let (run, after) := typeRun lexeme.stop rest
      (lexeme :: run, after)
    else ([], lexeme :: rest)

/-- The tokens of `{ get; set; }`. -/
def accessors : List Token :=
  [.symbol .leftBrace, .keyword .getWord, .symbol .semicolon, .keyword .setWord, .symbol .semicolon,
    .symbol .rightBrace]

/-- The property that a line declares: `public`, a type that is one unbroken run of type parts and
begins with a word, a name, and accessors, with anything after them.  The type is the part of the line
that its run covers. -/
def property? (line : Text) : List Lexeme → Option LineKind
  | ⟨.keyword .publicWord, _, _⟩ :: ⟨.ident word, start, stop⟩ :: rest =>
    let (run, after) := typeRun stop rest
    let typeStop := (run.getLast?.getD ⟨.ident word, start, stop⟩).stop
    match after with
    | [] => none
    | nameLexeme :: body => do
      let name ← nameLexeme.token.word?
      let sourceType ← slice? line start typeStop
      if accessors.isPrefixOf (body.map (·.token)) then some (.property name sourceType) else none
  | _ => none

/-! ## Classification -/

/-- The kind of a line. -/
def LineKind.ofLine (line : Text) : LineKind :=
  let lexed := lex line
  match header? lexed.tokens with
  | some kind => kind
  | none =>
    if lexed.complete ∧ lexed.tokens = [.symbol .rightBrace] then .closing
    else (property? line lexed.lexemes).getD .other

end InterfaceGen.Source
