import InterfaceGen.Text.Basic
import InterfaceGen.Text.Printable

/-!
# Paths

A path is a text whose steps are separated by slashes; one that begins with a slash starts at the root.
Paths are never rewritten unless a part of them is replaced, so a result shows the path that was given.

Main definitions:

- `join`: a path inside a directory.
- `steps`, `markedSteps`: the steps of a path, without and with a mark for a slash at its end.
- `parent?`, `fileName?`, `extension?`, `withExtension`: the parts of a path.
- `quoted`: a path as it is shown between quotes.
-/

namespace InterfaceGen.Path

/-! ## Joining and splitting -/

/-- Whether a path starts at the root. -/
def isAbsolute (p : Text) : Bool :=
  p.head? == some '/'

/-- Whether a path ends with a slash. -/
def endsWithSlash (p : Text) : Bool :=
  p.getLast? == some '/'

/-- A path inside a directory; an absolute path stays as it is. -/
def join (dir p : Text) : Text :=
  if isAbsolute p || dir.isEmpty then p
  else if endsWithSlash dir then dir ++ p
  else dir ++ '/' :: p

/-- The steps of a path: its parts between slashes, without the empty ones. -/
def steps (p : Text) : List Text :=
  (Text.pieces (· == '/') p).filter (!·.isEmpty)

/-- The empty step that marks a slash at the end of a path: such a path means a directory. -/
def directoryMark : Text :=
  []

/-- The steps of a path, and the mark behind them if it ends with a slash. -/
def markedSteps (p : Text) : List Text :=
  steps p ++ if endsWithSlash p then [directoryMark] else []

/-- The relative path that takes these steps. -/
def ofSteps (names : List Text) : Text :=
  ['/'].intercalate names

/-- The step that stays where it is. -/
def stay : Text :=
  ['.']

/-- The step to the enclosing directory. -/
def up : Text :=
  ['.', '.']

/-- Whether a relative path takes the one step `name` and then stays there. -/
def isJust (name p : Text) : Bool :=
  !isAbsolute p &&
    match steps p with
    | [] => false
    | first :: rest => first == name && rest.all (· == stay)

/-! ## The last step -/

/-- A reversed path without the slashes and single dots behind its last step. -/
def dropTrailing : Text → Text
  | '/' :: rest => dropTrailing rest
  | '.' :: '/' :: rest => dropTrailing rest
  | t => t

/-- The last step of a path, and what stands before it, reversed. -/
def lastStep (p : Text) : Text × Text :=
  let core := dropTrailing p.reverse
  ((core.takeWhile (· != '/')).reverse, core.dropWhile (· != '/'))

/-- The path of the enclosing directory; the root and the empty path have none. -/
def parent? (p : Text) : Option Text :=
  let (last, before) := lastStep p
  if last.isEmpty then none
  else
    let outer := dropTrailing before
    some (if outer.isEmpty && isAbsolute p then ['/'] else outer.reverse)

/-- A path and its enclosing directories, innermost first, at most `limit` of them. -/
def ancestorsWithin : Nat → Text → List Text
  | 0, p => [p]
  | limit + 1, p =>
    match parent? p with
    | none => [p]
    | some outer => p :: ancestorsWithin limit outer

/-- A path and its enclosing directories, innermost first.  Every enclosing directory has a shorter path,
so the length of the path is enough of a limit. -/
def ancestors (p : Text) : List Text :=
  ancestorsWithin p.length p

/-- The name at the end of a path, if its last step is a name. -/
def fileName? (p : Text) : Option Text :=
  let last := (lastStep p).1
  if last.isEmpty || last == stay || last == up then none else some last

/-! ## Extensions -/

/-- A name cut at its last dot; a dot at its front does not count. -/
def splitName (name : Text) : Text × Option Text :=
  match name.reverse.dropWhile (· != '.') with
  | [] => (name, none)
  | _ :: stem =>
    if stem.isEmpty then (name, none)
    else (stem.reverse, some (name.reverse.takeWhile (· != '.')).reverse)

/-- The extension of the name at the end of a path. -/
def extension? (p : Text) : Option Text :=
  (fileName? p).bind (splitName · |>.2)

/-- A path without the extension at its end; the dot before it stays. -/
def cutExtension (p : Text) : Text :=
  match extension? p with
  | none => p
  | some ext => p.take (p.length - ext.length)

/-- A path with an extension in place of the one it has.  What is left without the old extension must end
in a name to get a new one. -/
def withExtension (p ext : Text) : Text :=
  let cut := cutExtension p
  match fileName? cut with
  | none => cut
  | some name => (lastStep cut).2.reverse ++ (splitName name).1 ++ '.' :: ext

/-! ## Showing paths -/

/-- A character as it is shown between quotes. -/
def showChar (c : Char) : Text :=
  if c = '\x00' then ['\\', '0']
  else if c = '\t' then ['\\', 't']
  else if c = '\n' then ['\\', 'n']
  else if c = '\r' then ['\\', 'r']
  else if c = '\\' || c = '"' then ['\\', c]
  else if Text.isPrintable c && !Text.isJoining c then [c]
  else ['\\', 'u', '{'] ++ Nat.toDigits 16 c.toNat ++ ['}']

/-- A path as it is shown between quotes. -/
def quoted (p : Text) : Text :=
  '"' :: p.flatMap showChar ++ ['"']

end InterfaceGen.Path
