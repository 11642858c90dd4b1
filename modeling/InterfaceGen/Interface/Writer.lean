import InterfaceGen.Text.Blank

/-!
# Indented writing

A writer collects pieces of text and keeps an indentation level.  Blanks at the end of what is written
are left out of the result, but stay in the writer, so that they reappear once more is written.

Main definitions:

- `Writer.write`, `Writer.writeIndented`, `Writer.writeLine`: a writer with more text.
- `Writer.indent`, `Writer.dedent`: a writer one level deeper, or one less deep.
- `Writer.written`, `Writer.result`: all that is written, and the same without blanks at the end.
-/

namespace InterfaceGen

/-- Pieces of text, latest first, and the indentation of the next line. -/
structure Writer where
  width : UInt64
  level : Nat
  pieces : List Text
deriving Repr

namespace Writer

/-- A writer with so many spaces per level that has written nothing. -/
def start (width : UInt64) : Writer :=
  ⟨width, 0, []⟩

/-! ## What is written -/

/-- All that is written. -/
def written (w : Writer) : Text :=
  w.pieces.reverse.flatten

/-- All that is written, without blanks at its end. -/
def result (w : Writer) : Text :=
  Text.trimEnd w.written

/-! ## Writing -/

/-- Writes a text as it is. -/
def write (w : Writer) (t : Text) : Writer :=
  { w with pieces := t :: w.pieces }

/-- The spaces before an indented text: the product of level and width, in numbers of 64 bits.  Products from
`2 ^ 63` on are refused when memory is asked for so many spaces; that failure is left out of the model, as
memory is. -/
def indentation (w : Writer) : Text :=
  List.replicate (UInt64.ofNat w.level * w.width).toNat ' '

/-- Writes a text behind the indentation. -/
def writeIndented (w : Writer) (t : Text) : Writer :=
  w.write (w.indentation ++ t)

/-- Writes a text behind the indentation, and a line break. -/
def writeLine (w : Writer) (t : Text) : Writer :=
  (w.writeIndented t).write ['\n']

@[simp] theorem written_start (width : UInt64) : (start width).written = [] := rfl

@[simp] theorem written_write (w : Writer) (t : Text) : (w.write t).written = w.written ++ t := by
  simp [written, write]

@[simp] theorem written_writeIndented (w : Writer) (t : Text) :
    (w.writeIndented t).written = w.written ++ (w.indentation ++ t) := by
  simp [writeIndented]

@[simp] theorem written_writeLine (w : Writer) (t : Text) :
    (w.writeLine t).written = w.written ++ (w.indentation ++ t ++ ['\n']) := by
  simp [writeLine]

@[simp] theorem level_writeLine (w : Writer) (t : Text) : (w.writeLine t).level = w.level := rfl

@[simp] theorem width_writeLine (w : Writer) (t : Text) : (w.writeLine t).width = w.width := rfl

/-! ## Levels -/

/-- One level deeper. -/
def indent (w : Writer) : Writer :=
  { w with level := w.level + 1 }

/-- One level less deep; the outermost level stays. -/
def dedent (w : Writer) : Writer :=
  { w with level := w.level - 1 }

@[simp] theorem written_indent (w : Writer) : w.indent.written = w.written := rfl

@[simp] theorem written_dedent (w : Writer) : w.dedent.written = w.written := rfl

@[simp] theorem level_indent (w : Writer) : w.indent.level = w.level + 1 := rfl

@[simp] theorem level_dedent (w : Writer) : w.dedent.level = w.level - 1 := rfl

@[simp] theorem width_indent (w : Writer) : w.indent.width = w.width := rfl

@[simp] theorem width_dedent (w : Writer) : w.dedent.width = w.width := rfl

/-- Nothing stands before a line of the outermost level. -/
theorem indentation_of_level_zero {w : Writer} (h : w.level = 0) : w.indentation = [] := by
  simp [indentation, h]

/-- The width stands once before a line of the first level. -/
theorem indentation_of_level_one {w : Writer} (h : w.level = 1) :
    w.indentation = List.replicate w.width.toNat ' ' := by
  simp [indentation, h]

end Writer

end InterfaceGen
