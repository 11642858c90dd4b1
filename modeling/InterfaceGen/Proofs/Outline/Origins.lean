import InterfaceGen.Source.Outline

/-!
# Where classes come from

A model holds nothing that is not declared: the name of each class stands in a header among the lines read,
and each of its properties in a property line.  This is so of all classes of an outline, the open ones too,
and every line keeps it so.

Main results:

- Theorem `Outline.AllDeclared.addLine`: one more line keeps the classes of an outline declared.
- Theorem `declaredBy_of_mem_classes`: the classes that are read are declared.
-/

namespace InterfaceGen.Source

open Text

variable {lines : List Text}

/-- A class whose name and properties are declared by some lines. -/
structure DeclaredBy (lines : List Text) (c : DataClass) : Prop where
  name : ∃ line ∈ lines, LineKind.ofLine line = .opening c.name
  properties : ∀ p ∈ c.properties, ∃ line ∈ lines, LineKind.ofLine line = .property p.name p.sourceType

/-- With one more property that is declared, a class stays declared. -/
theorem DeclaredBy.addProperty {c : DataClass} (h : DeclaredBy lines c) {p : Property} {line : Text}
    (hline : line ∈ lines) (hkind : LineKind.ofLine line = .property p.name p.sourceType) :
    DeclaredBy lines { c with properties := c.properties ++ [p] } := by
  refine ⟨h.name, fun q hq => ?_⟩
  rcases List.mem_append.1 hq with hq | hq
  · exact h.properties q hq
  · obtain rfl := List.mem_singleton.1 hq
    exact ⟨line, hline, hkind⟩

namespace Outline

/-- All classes of an outline, open or closed, are declared by some lines. -/
def AllDeclared (lines : List Text) (outline : Outline) : Prop :=
  ∀ c ∈ outline.opened ++ outline.closed, DeclaredBy lines c

/-- One of the lines keeps the classes of an outline declared. -/
theorem AllDeclared.addLine {outline : Outline} (h : outline.AllDeclared lines) {line : Text}
    (hline : line ∈ lines) : (outline.addLine line).2.AllDeclared lines := by
  obtain ⟨opened, closed⟩ := outline
  unfold Outline.addLine
  cases hkind : LineKind.ofLine line with
  | opening name =>
    intro c hc
    rcases List.mem_cons.1 hc with rfl | hc
    · exact ⟨⟨line, hline, hkind⟩, by simp⟩
    · exact h c hc
  | closing =>
    cases opened with
    | nil => exact h
    | cons inner outer => exact fun c hc => h c (List.perm_middle.mem_iff.1 hc)
  | property name sourceType =>
    cases opened with
    | nil => exact h
    | cons inner outer =>
      intro c hc
      rcases List.mem_cons.1 hc with rfl | hc
      · exact (h inner List.mem_cons_self).addProperty hline hkind
      · exact h c (List.mem_cons_of_mem inner hc)
  | malformedHeader => exact h
  | other => exact h

/-- Any of the lines, one after the other, keep the classes of an outline declared. -/
theorem AllDeclared.addLines {outline : Outline} (h : outline.AllDeclared lines) {more : List Text}
    (hmore : ∀ line ∈ more, line ∈ lines) : (outline.addLines more).value.AllDeclared lines := by
  induction more generalizing outline with
  | nil => exact h
  | cons line rest ih =>
    exact ih (h.addLine (hmore line List.mem_cons_self)) fun t ht => hmore t (List.mem_cons_of_mem line ht)

end Outline

/-- The classes that are read are declared by the lines they are read from. -/
theorem declaredBy_of_mem_classes {c : DataClass} (hc : c ∈ (readLines lines).value.classes) :
    DeclaredBy lines c := by
  have hempty : Outline.empty.AllDeclared lines := by simp [Outline.AllDeclared, Outline.empty]
  have hclosed : c ∈ (Outline.empty.addLines lines).value.closed := hc
  exact hempty.addLines (fun _ hline => hline) c (List.mem_append_right _ hclosed)

end InterfaceGen.Source
