import InterfaceGen.Command.Run

/-!
# The program

The outer layer: it loads the part of the disk that a command line names into a file tree, runs the
command line on it, writes what has changed back, and prints.

Files are opened by name; directories are not listed.  The command that converts a whole project therefore
takes the paths that there are below the directory of the sources from standard input, one a line.
-/

open InterfaceGen InterfaceGen.Command

/-! ## Reading -/

/-- All bytes of standard input. -/
def readStandardInput : IO ByteArray := do
  let stdin ← IO.getStdin
  let mut bytes := ByteArray.empty
  repeat
    let chunk ← stdin.read 65536
    if chunk.isEmpty then break
    bytes := bytes ++ chunk
  return bytes

/-- What there is on the disk at a path. -/
def lookUp (path : Text) : IO (Option Entry) := do
  try
    let _ ← IO.FS.Handle.mk (String.ofList (path ++ "/.".toList)) .read
    return some .directory
  catch _ =>
    try
      return some (.file (.ofBytes (← IO.FS.readBinFile (String.ofList path))))
    catch _ => return none

/-- Loads what there is at a path and around it into a tree. -/
def load (env : Environment) (tree : FileTree) (path : Text) : IO FileTree := do
  let mut tree := tree
  for outer in (Path.ancestors path).reverse do
    if let .ok place := tree.locate env.home outer then
      if (tree.entry? place).isNone then
        if let some entry ← lookUp outer then
          tree := tree.set place entry
  return tree

/-- The paths that an invocation reads, apart from the settings file. -/
def pathsRead (env : Environment) (tree : FileTree) : Invocation → IO (List Text)
  | .init sourceDir _ _ =>
    let dir := Path.join env.directory sourceDir
    return [dir, Path.join dir exampleName]
  | .convert input _ _ _ => return input.toList
  | .parse input => return input.toList
  | .build path _ _ => do
    let names := match Content.ofBytes (← readStandardInput) with
      | .text t => Text.lines t
      | .binary _ => []
    let (settings, _) := (loadSettings env).run.run ⟨tree, [], []⟩
    let sourceDir := path.getD (settings.toOption.getD {}).sourceDir
    return Path.join env.directory sourceDir :: names.map (Path.join env.directory)

/-- The bytes of standard input, if an invocation takes its input from there. -/
def inputOf : Invocation → IO ByteArray
  | .convert input _ _ _ | .parse input =>
    if (input.filter (!Path.isJust ['-'] ·)).isNone then readStandardInput else return ByteArray.empty
  | _ => return ByteArray.empty

/-! ## Writing -/

/-- Writes what differs between two trees to the disk. -/
def store (before after : FileTree) : IO Unit := do
  for (path, content) in before.changes after [] do
    let path := '/' :: path
    match content with
    | none => IO.FS.createDirAll (String.ofList path)
    | some content =>
      IO.FS.createDirAll (String.ofList ((Path.parent? path).getD ['/']))
      IO.FS.writeBinFile (String.ofList path) content.toBytes

/-! ## The program -/

/-- The tree of the working directory with what a command line reads.  A first run shows where it writes,
so that what stands there is loaded as well. -/
def loadFor (env : Environment) (words : List Text) : IO FileTree := do
  let mut tree := FileTree.empty.add env.home .directory
  tree ← load env tree env.settingsPath
  if let .perform invocation := Request.ofWords words then
    for path in ← pathsRead env tree invocation do
      tree ← load env tree path
    for (path, _) in tree.changes (run env words tree).tree [] do
      tree ← load env tree ('/' :: path)
  return tree

/-- Runs a command line and returns its exit status. -/
def main (args : List String) : IO UInt32 := do
  let words := args.map String.toList
  let directory := (toString (← IO.currentDir)).toList
  let setting (name : String) : IO (Option Text) := return (← IO.getEnv name).map String.toList
  let isColored := wantsColor (← setting "CLICOLOR_FORCE") (← setting "NO_COLOR") (← setting "CLICOLOR")
    (← (← IO.getStdout).isTty)
  let input ← match Request.ofWords words with
    | .perform invocation => inputOf invocation
    | _ => pure ByteArray.empty
  let env : Environment := ⟨directory, .ofBytes input, isColored⟩
  let tree ← loadFor env words
  let outcome := run env words tree
  store tree outcome.tree
  IO.print (String.ofList outcome.output)
  IO.eprint (String.ofList outcome.messages)
  return UInt32.ofNat outcome.status
