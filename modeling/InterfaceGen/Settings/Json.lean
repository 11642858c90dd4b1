import InterfaceGen.Json.Printer
import InterfaceGen.Json.Reader
import InterfaceGen.Json.Record
import InterfaceGen.Settings.Basic

/-!
# Settings as JSON

Every setting may be left out, and has its default then.  Additions to the vocabulary are printed only if
there are any.

Main definitions:

- `Settings.print`: settings as indented JSON text.
- `Settings.parse?`: the settings that JSON text describes.
-/

namespace InterfaceGen.Settings

open Json

/-! ## Writing -/

/-- Settings as JSON. -/
def toJson (s : Settings) : Value :=
  .object <|
    [(some "srcDir".toList, .ofText s.sourceDir),
     (some "outDir".toList, .ofText s.outputDir),
     (some "indentWidth".toList, .number (Text.ofNat s.indentWidth.toNat)),
     (some "export".toList, .bool s.exported),
     (some "strict".toList, .bool s.isStrict)] ++
    (if s.scalarTypes.isEmpty then []
      else [(some "scalarTypes".toList,
        .object (s.scalarTypes.entries.map (fun entry => (some entry.1, .ofText entry.2))))]) ++
    (if s.collectionTypes.isEmpty then []
      else [(some "collectionTypes".toList, .array (s.collectionTypes.map .ofText))])

/-- Settings as indented JSON text. -/
def print (s : Settings) : Text :=
  s.toJson.pretty

/-! ## Reading -/

/-- The names of all settings. -/
def keys : List Text :=
  ["srcDir".toList, "outDir".toList, "indentWidth".toList, "export".toList, "strict".toList,
   "scalarTypes".toList, "collectionTypes".toList]

/-- The width that JSON describes: a number of 64 bits. -/
def width? (v : Value) : Option UInt64 := do
  let n ← v.nat?
  if n < UInt64.size then some (UInt64.ofNat n) else none

/-- The scalars that the members of an object describe; the last of a name counts. -/
def scalars? : Value → Option (SortedMap Text Text)
  | .object members => do
    return .ofList (← members.mapM (fun (key, value) => do return (← key, ← value.text?)))
  | _ => none

/-- The collections that the items of an array describe. -/
def collections? (v : Value) : Option (List Text) := do
  (← v.items?).mapM Value.text?

/-- The settings that JSON describes. -/
def ofJson? (v : Value) : Option Settings := do
  let [srcDir, outDir, width, exported, strict, scalars, collections] ← v.record? keys | none
  let defaults : Settings := {}
  return {
    sourceDir := ← optional defaults.sourceDir Value.text? srcDir
    outputDir := ← optional defaults.outputDir Value.text? outDir
    indentWidth := ← optional defaults.indentWidth width? width
    exported := ← optional defaults.exported Value.bool? exported
    isStrict := ← optional defaults.isStrict Value.bool? strict
    scalarTypes := ← optional defaults.scalarTypes scalars? scalars
    collectionTypes := ← optional defaults.collectionTypes collections? collections
  }

/-- The settings that JSON text describes. -/
def parse? (t : Text) : Option Settings :=
  (Value.parse? t).bind ofJson?

end InterfaceGen.Settings
