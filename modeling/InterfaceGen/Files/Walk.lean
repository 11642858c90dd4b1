import InterfaceGen.Files.Tree

/-!
# Walking a file tree

All entries below a directory are visited in order of their names, through links as well.  Links that lead
nowhere and links back to a directory that is being visited are passed over.

Main definitions:

- `FileTree.belowWithin`: the entries below a directory, down to a depth.
- `FileTree.sources`: the entries at or below a path that have a given extension.
- `FileTree.changes`: what differs in a directory between two trees.
-/

namespace InterfaceGen.FileTree

/-! ## Walking -/

/-- The steps to all entries below the directory at a path, in order, at most `depth` deep.  The
directories around it and itself are `open_`: a link to one of them is passed over.  Every entry is found
by its path from the start, so the links on the way to it count towards the most that are followed. -/
def belowWithin (tree : FileTree) (home : Location) :
    Nat → List Location → Text → List (List Text)
  | 0, _, _ => []
  | depth + 1, open_, p =>
    match tree.locate home p with
    | .error _ => []
    | .ok dir =>
      (tree.names dir).flatMap fun name =>
        let inner := Path.join p name
        let enter (place : Location) : List (List Text) :=
          [name] :: (tree.belowWithin home depth (place :: open_) inner).map (name :: ·)
        match tree.entry? (dir ++ [name]) with
        | none => []
        | some (.file _) => [[name]]
        | some .directory => enter (dir ++ [name])
        | some (.link _) =>
          match tree.locate home inner with
          | .error _ => []
          | .ok place =>
            match tree.entry? place with
            | some (.file _) => [[name]]
            | some .directory => if open_.contains place then [] else enter place
            | _ => []

/-- More than the depth of any walk: between two links a walk goes down the tree, and every link leads to a
directory that is not open yet. -/
def maxDepth (tree : FileTree) : Nat :=
  (tree.entries.entries.length + 1) * (tree.entries.entries.foldl (fun n e => max n e.1.length) 0 + 1) + 1

/-- The steps from a path to the entries at or below it that have an extension, in order. -/
def sources (tree : FileTree) (home : Location) (p ext : Text) : List (List Text) :=
  match tree.locate home p with
  | .error _ => []
  | .ok place =>
    let visited := match tree.entry? place with
      | some (.file _) => [[]]
      | some .directory => [] :: tree.belowWithin home tree.maxDepth [place] p
      | _ => []
    visited.filter fun names => Path.extension? (Path.join p (Path.ofSteps names)) = some ext

/-! ## Differences -/

/-- What is new or different in a directory of a tree compared with the tree before: the paths of files
with what they hold, and the paths of new directories without entries, with a slash behind them. -/
def changes (before after : FileTree) (dir : Location) : List (Text × Option Content) :=
  after.entries.entries.filterMap fun (place, entry) =>
    if dir.isPrefixOf place then
      let path := Path.ofSteps (place.drop dir.length)
      match entry with
      | .file content => if before.entry? place = some entry then none else some (path, some content)
      | .directory =>
        if (before.entry? place).isSome || !(after.names place).isEmpty then none
        else some (path ++ ['/'], none)
      | .link _ => none
    else none

end InterfaceGen.FileTree
