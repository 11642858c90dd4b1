import InterfaceGen.Files.Content
import InterfaceGen.Files.Path
import InterfaceGen.SortedMap

/-!
# File trees

A file tree says what there is at every location: a file, a directory or a symbolic link.  A path leads
to a location by way of the links on it.

Main definitions:

- `FileTree`, `FileTree.entry?`: a file tree and what there is at a location.
- `FileTree.locate`: the location that a path leads to.
- `FileTree.readText`, `FileTree.writeText`, `FileTree.makeDirectory`, `FileTree.makeDirectories`: what
  can be done with files.
-/

namespace InterfaceGen

/-! ## Entries -/

/-- What there is at a location. -/
inductive Entry where
  | file (content : Content)
  | directory
  /-- A symbolic link with the path that it stands for. -/
  | link (target : Text)
deriving DecidableEq, Repr

/-- The names from the root down to an entry. -/
abbrev Location := List Text

/-- What there is at every location below the root. -/
structure FileTree where
  entries : SortedMap Location Entry

/-- Why an operation on files fails. -/
inductive FileError where
  | notFound
  | alreadyExists
  | notDirectory
  | isDirectory
  | nameTooLong
  | tooManyLinks
  /-- A path holds the character with the code zero. -/
  | invalidName
  /-- A file holds bytes that are no text. -/
  | invalidText
deriving DecidableEq, Repr

/-- The wording of a file error. -/
def FileError.message : FileError → Text
  | notFound => "No such file or directory (os error 2)".toList
  | alreadyExists => "File exists (os error 17)".toList
  | notDirectory => "Not a directory (os error 20)".toList
  | isDirectory => "Is a directory (os error 21)".toList
  | nameTooLong => "File name too long (os error 36)".toList
  | tooManyLinks => "Too many levels of symbolic links (os error 40)".toList
  | invalidName => "file name contained an unexpected NUL byte".toList
  | invalidText => "stream did not contain valid UTF-8".toList

/-- The text that a file holds. -/
def Content.text? : Content → Except FileError Text
  | text t => .ok t
  | binary _ => .error .invalidText

namespace FileTree

/-- The tree with nothing below the root. -/
def empty : FileTree :=
  ⟨.empty⟩

/-- What there is at a location; the root is a directory. -/
def entry? (tree : FileTree) (place : Location) : Option Entry :=
  if place.isEmpty then some .directory else tree.entries.find? place

/-- A tree with an entry set at a location. -/
def set (tree : FileTree) (place : Location) (entry : Entry) : FileTree :=
  ⟨tree.entries.insert place entry⟩

/-- The names in a directory, in ascending order. -/
def names (tree : FileTree) (place : Location) : List Text :=
  tree.entries.keys.filterMap fun key => if key.dropLast = place then key.getLast? else none

/-- A tree with the directories above a location in place. -/
def withDirectoriesAbove (tree : FileTree) : Location → Location → FileTree
  | _, [] => tree
  | _, [_] => tree
  | above, name :: rest =>
    let place := above ++ [name]
    let next := if (tree.entry? place).isSome then tree else tree.set place .directory
    next.withDirectoriesAbove place rest

/-- A tree with an entry at a location and directories above it. -/
def add (tree : FileTree) (place : Location) (entry : Entry) : FileTree :=
  (tree.withDirectoriesAbove [] place).set place entry

/-! ## Following paths -/

/-- The most bytes a name may have. -/
def maxNameBytes : Nat :=
  255

/-- The most bytes a path may have. -/
def maxPathBytes : Nat :=
  4095

/-- The most links that are followed on the way along a path. -/
def maxLinks : Nat :=
  40

/-- What a path is followed for. -/
inductive Purpose where
  | finding
  /-- A file is to be written at the end, where no slash may stand. -/
  | writing
deriving DecidableEq, Repr

/-- The location that steps lead to from a directory, where the last of them need not exist.  A link is
replaced by the steps of its target; at most `links` are.  A file to be written must not be marked as a
directory, by its own path or by that of a link to it, whatever there is at its place. -/
def follow (tree : FileTree) (purpose : Purpose) (links : Nat) (dir : Location) :
    List Text → Except FileError Location
  | [] => .ok dir
  | step :: rest =>
    if step = Path.stay ∨ step = Path.directoryMark then tree.follow purpose links dir rest
    else if step = Path.up then tree.follow purpose links dir.dropLast rest
    else if purpose = .writing ∧ rest = [Path.directoryMark] then .error .isDirectory
    else if maxNameBytes < Text.byteSize step then .error .nameTooLong
    else
      let place := dir ++ [step]
      match tree.entry? place with
      | none => if rest.isEmpty then .ok place else .error .notFound
      | some .directory => tree.follow purpose links place rest
      | some (.file _) => if rest.isEmpty then .ok place else .error .notDirectory
      | some (.link target) =>
        match links with
        | 0 => .error .tooManyLinks
        | links + 1 =>
          let start := if Path.isAbsolute target then [] else dir
          tree.follow purpose links start (Path.markedSteps target ++ rest)
termination_by steps => (links, steps.length)

/-- The directory that a path starts from, given the one that relative paths start from. -/
def origin (home : Location) (p : Text) : Location :=
  if Path.isAbsolute p then [] else home

/-- The fault of a path itself: it is empty, too long or holds a character that no path may hold. -/
def pathFault? (p : Text) : Option FileError :=
  if p.contains '\x00' then some .invalidName
  else if p.isEmpty then some .notFound
  else if maxPathBytes < Text.byteSize p then some .nameTooLong
  else none

/-- The location that a path leads to when it is followed for a purpose. -/
def locateFor (tree : FileTree) (purpose : Purpose) (home : Location) (p : Text) :
    Except FileError Location :=
  match pathFault? p with
  | some fault => .error fault
  | none => tree.follow purpose maxLinks (origin home p) (Path.markedSteps p)

/-- The location that a path leads to. -/
def locate (tree : FileTree) (home : Location) (p : Text) : Except FileError Location :=
  tree.locateFor .finding home p

/-- What there is where a path leads. -/
def find? (tree : FileTree) (home : Location) (p : Text) : Option Entry :=
  match tree.locate home p with
  | .ok place => tree.entry? place
  | .error _ => none

/-- Whether there is anything where a path leads. -/
def pathExists (tree : FileTree) (home : Location) (p : Text) : Bool :=
  (tree.find? home p).isSome

/-- Whether a path leads to a directory. -/
def isDirectory (tree : FileTree) (home : Location) (p : Text) : Bool :=
  tree.find? home p == some .directory

/-! ## Files -/

/-- The text of the file at a path. -/
def readText (tree : FileTree) (home : Location) (p : Text) : Except FileError Text := do
  match tree.entry? (← tree.locate home p) with
  | some (.file content) => content.text?
  | some .directory => .error .isDirectory
  | _ => .error .notFound

/-- A tree with a text in the file at a path, which is made if need be. -/
def writeText (tree : FileTree) (home : Location) (p t : Text) : Except FileError FileTree := do
  let place ← tree.locateFor .writing home p
  match tree.entry? place with
  | some .directory => .error .isDirectory
  | _ => .ok (tree.set place (.file (.text t)))

/-! ## Directories -/

/-- The directory of the last step of a path, and that step; the root has none. -/
def locateParent (tree : FileTree) (home : Location) (p : Text) :
    Except FileError (Option (Location × Text)) :=
  match pathFault? p, (Path.steps p).getLast? with
  | some fault, _ => .error fault
  | none, none => .ok none
  | none, some last => do
    let above := (Path.steps p).dropLast ++ [Path.directoryMark]
    let dir ← tree.follow .finding maxLinks (origin home p) above
    return some (dir, last)

/-- A tree with a new directory at a path. -/
def makeDirectory (tree : FileTree) (home : Location) (p : Text) : Except FileError FileTree := do
  match ← tree.locateParent home p with
  | none => .error .alreadyExists
  | some (dir, last) =>
    if last = Path.stay ∨ last = Path.up then .error .alreadyExists
    else if maxNameBytes < Text.byteSize last then .error .nameTooLong
    else if (tree.entry? (dir ++ [last])).isSome then .error .alreadyExists
    else .ok (tree.set (dir ++ [last]) .directory)

/-- A tree with a directory at a path, and whether it is one in the end: nothing is done where there is
one already. -/
def ensureDirectory (tree : FileTree) (home : Location) (p : Text) : FileTree × Option FileError :=
  match tree.makeDirectory home p with
  | .ok next => (next, none)
  | .error fault => (tree, if tree.isDirectory home p then none else some fault)

/-- Makes the first of some directories, each enclosed by the next, with those around it that are
missing. -/
def makeFirst (tree : FileTree) (home : Location) : List Text → FileTree × Option FileError
  | [] => (tree, none)
  | p :: outer =>
    if p.isEmpty then (tree, none)
    else
      match tree.ensureDirectory home p with
      | (_, some .notFound) =>
        match tree.makeFirst home outer with
        | (next, none) => next.ensureDirectory home p
        | failed => failed
      | done => done

/-- A tree with a directory at a path and around it, and what went wrong if it could not be made.  What
was made before an error stays. -/
def makeDirectories (tree : FileTree) (home : Location) (p : Text) : FileTree × Option FileError :=
  tree.makeFirst home (Path.ancestors p)

end FileTree

end InterfaceGen
