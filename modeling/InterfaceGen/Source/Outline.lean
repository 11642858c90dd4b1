import InterfaceGen.Event
import InterfaceGen.Model.Basic
import InterfaceGen.Source.Line
import InterfaceGen.Text.Lines

/-!
# The outline of a source

Reading keeps the classes that are open, innermost first, and those that are closed, latest first.  A
class header opens a class, a closing brace closes the innermost one, a property goes to the innermost
one, and all other lines change nothing.  Every line reports one event.

Main definitions:

- `Outline.addLine`: the outline after one more line.
- `Outline.toModel`: the closed classes as a model, with a warning for every class left open.
- `read`: the model of a source.
-/

namespace InterfaceGen.Source

open Text

/-- The classes found so far: the open ones, innermost first, and the closed ones, latest first. -/
structure Outline where
  opened : List DataClass
  closed : List DataClass
deriving DecidableEq, Repr

namespace Outline

/-- The outline before the first line. -/
def empty : Outline :=
  ⟨[], []⟩

/-- The event of a line of some kind, and the outline after it. -/
def step (outline : Outline) (line : Text) : LineKind → Event × Outline
  | .opening name =>
    (.opening name outline.opened.length, { outline with opened := ⟨name, []⟩ :: outline.opened })
  | .closing =>
    match outline.opened with
    | [] => (.strayClosing, outline)
    | inner :: outer =>
      (.closing inner.name inner.properties.length, ⟨outer, inner :: outline.closed⟩)
  | .property name sourceType =>
    match outline.opened with
    | [] => (.strayProperty name, outline)
    | inner :: outer =>
      let grown := { inner with properties := inner.properties ++ [⟨name, sourceType⟩] }
      (.adding inner.name name sourceType, { outline with opened := grown :: outer })
  | .malformedHeader => (.skipping line, outline)
  | .other => (.skipping line, outline)

/-- The event of a line, and the outline after it. -/
def addLine (outline : Outline) (line : Text) : Event × Outline :=
  outline.step line (LineKind.ofLine line)

/-- The outline after some lines. -/
def addLines (outline : Outline) : List Text → Logged Outline
  | [] => ⟨[], outline⟩
  | line :: rest =>
    let (event, next) := outline.addLine line
    let added := next.addLines rest
    ⟨event :: added.events, added.value⟩

/-- Lines are read one part after the other. -/
theorem value_addLines_append (outline : Outline) (before after : List Text) :
    (outline.addLines (before ++ after)).value =
      ((outline.addLines before).value.addLines after).value := by
  induction before generalizing outline with
  | nil => rfl
  | cons line rest ih => exact ih (outline.addLine line).2

/-- The closed classes, latest first, so that an enclosing class comes before those it encloses.
Classes left open are dropped with a warning, outermost first. -/
def toModel (outline : Outline) : Logged Model :=
  ⟨outline.opened.reverse.map (.unclosed ·.name), ⟨outline.closed⟩⟩

end Outline

/-- The model that some lines leave. -/
def readLines (lines : List Text) : Logged Model := do
  let outline ← Outline.empty.addLines lines
  outline.toModel

/-- The model of a source. -/
def read (source : Text) : Logged Model := do
  Logged.report (.readingStarts (byteSize source))
  readLines (normalLines source)

end InterfaceGen.Source
