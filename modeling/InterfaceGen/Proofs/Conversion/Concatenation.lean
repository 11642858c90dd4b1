import InterfaceGen.Proofs.Conversion.Lenient
import InterfaceGen.Proofs.Interface.Blocks
import InterfaceGen.Proofs.Source.Forest

/-!
# Concatenated sources

When one source leaves no class open, another one behind it is read as if it stood alone.  What is closed
before a run is never touched by the run, so that its classes stay behind those of the run; and a stray
closing brace finds no open class, whether the other source stands before it or not.  Without strictness
the interfaces of the two sources are put together in the same order.

Main definitions:

- `Outline.onto`: an outline with more classes that were closed before.
- `outlineOf`: the outline that the lines of a source leave.

Main results:

- Theorem `value_addLines_onto`: a run leaves the classes closed before it where they are.
- Theorem `value_interfaces_append`: the interfaces of a model that is put together from two.
- Theorem `convert_concatenation`: a concatenation is converted to the interfaces of both sources, those of
  the later one first.
-/

namespace InterfaceGen

open Text Source

/-! ## What was closed before -/

namespace Source

/-- An outline with more classes that were closed before. -/
def Outline.onto (outline : Outline) (base : List DataClass) : Outline :=
  { outline with closed := outline.closed ++ base }

/-- A line leaves the classes closed before it where they are. -/
theorem afterKind_onto (outline : Outline) (base : List DataClass) (kind : LineKind) :
    (outline.onto base).afterKind kind = (outline.afterKind kind).onto base := by
  obtain ⟨opened, closed⟩ := outline
  cases kind with
  | opening name => rfl
  | closing => cases opened <;> rfl
  | property name sourceType => cases opened <;> rfl
  | malformedHeader => rfl
  | other => rfl

/-- A run leaves the classes closed before it where they are. -/
theorem value_addLines_onto (outline : Outline) (base : List DataClass) (lines : List Text) :
    ((outline.onto base).addLines lines).value = (outline.addLines lines).value.onto base := by
  rw [Outline.value_addLines, Outline.value_addLines]
  induction lines.map LineKind.ofLine generalizing outline with
  | nil => rfl
  | cons kind rest ih =>
    rw [Outline.afterKinds_cons, Outline.afterKinds_cons, afterKind_onto]
    exact ih (outline.afterKind kind)

/-- The outline that the lines of a source leave. -/
def outlineOf (source : Text) : Outline :=
  (Outline.empty.addLines (normalLines source)).value

/-- The classes of a source are those that its lines close. -/
theorem classes_read (source : Text) : (read source).value.classes = (outlineOf source).closed := rfl

/-- Two sources on lines of their own are normalized one after the other. -/
theorem normalLines_append (s t : Text) : normalLines (s ++ '\n' :: t) = normalLines s ++ normalLines t := by
  have hlines : lines (s ++ '\n' :: t) = lines s ++ lines t := pieces_append_cons (by decide) s t
  rw [normalLines, hlines, List.map_append, List.filter_append]
  rfl

/-- If the first source leaves no class open, the second one is read onto what the first one closed. -/
theorem outlineOf_append {s : Text} (hclosed : (outlineOf s).opened = []) (t : Text) :
    outlineOf (s ++ '\n' :: t) = (outlineOf t).onto (outlineOf s).closed := by
  have hstart : outlineOf s = Outline.empty.onto (outlineOf s).closed := by
    cases houtline : outlineOf s with
    | mk opened closed =>
      rw [houtline] at hclosed
      obtain rfl : opened = [] := hclosed
      rfl
  calc outlineOf (s ++ '\n' :: t)
      = ((outlineOf s).addLines (normalLines t)).value := by
        rw [outlineOf, normalLines_append, Outline.value_addLines_append]
        rfl
    _ = ((Outline.empty.onto (outlineOf s).closed).addLines (normalLines t)).value := by rw [← hstart]
    _ = (outlineOf t).onto (outlineOf s).closed := value_addLines_onto Outline.empty _ _

/-- If the first source leaves no class open, its classes come behind those of the second one. -/
theorem classes_read_append {s : Text} (hclosed : (outlineOf s).opened = []) (t : Text) :
    (read (s ++ '\n' :: t)).value.classes = (read t).value.classes ++ (read s).value.classes := by
  rw [classes_read, outlineOf_append hclosed]
  rfl

end Source

/-! ## Interfaces of two models -/

/-- Texts with line breaks between them, those of two lists that are not empty. -/
theorem intercalate_append {texts others : List Text} (htexts : texts ≠ []) (hothers : others ≠ []) :
    ['\n'].intercalate (texts ++ others) =
      ['\n'].intercalate [['\n'].intercalate texts, ['\n'].intercalate others] := by
  rw [List.intercalate_cons_cons, List.intercalate_singleton]
  induction texts with
  | nil => exact absurd rfl htexts
  | cons t rest ih =>
    cases rest with
    | nil =>
      obtain ⟨u, more, rfl⟩ := List.exists_cons_of_ne_nil hothers
      rw [List.intercalate_singleton, List.singleton_append, List.intercalate_cons_cons]
    | cons next more =>
      have hrest := ih (List.cons_ne_nil next more)
      rw [List.cons_append] at hrest ⊢
      rw [List.cons_append, List.intercalate_cons_cons, hrest, List.intercalate_cons_cons]
      simp only [List.append_assoc]

/-- Texts that are not empty, with line breaks between them, make an empty text only if there are none. -/
theorem intercalate_eq_nil_iff {texts : List Text} (h : ∀ t ∈ texts, t ≠ []) :
    ['\n'].intercalate texts = [] ↔ texts = [] := by
  constructor
  · intro hnil
    cases texts with
    | nil => rfl
    | cons t rest =>
      have hinfix : t <:+: ['\n'].intercalate (t :: rest) := infix_intercalate List.mem_cons_self
      rw [hnil, List.infix_nil] at hinfix
      exact absurd hinfix (h t List.mem_cons_self)
  · rintro rfl
    rfl

/-- Texts of two lists, none of which is empty, with line breaks between them: what either list makes is left
out if it is empty. -/
theorem intercalate_append_filter {texts others : List Text} (htexts : ∀ t ∈ texts, t ≠ [])
    (hothers : ∀ t ∈ others, t ≠ []) :
    ['\n'].intercalate (texts ++ others) =
      ['\n'].intercalate
        ([['\n'].intercalate texts, ['\n'].intercalate others].filter (!·.isEmpty)) := by
  by_cases hfirst : texts = []
  · subst hfirst
    by_cases hsecond : others = []
    · subst hsecond
      rfl
    · have hne := mt (intercalate_eq_nil_iff hothers).1 hsecond
      rw [List.intercalate_nil, List.filter_cons_of_neg (by simp), List.filter_cons_of_pos (by simpa using hne)]
      simp
  · have hne := mt (intercalate_eq_nil_iff htexts).1 hfirst
    rw [List.filter_cons_of_pos (by simpa using hne)]
    by_cases hsecond : others = []
    · subst hsecond
      simp
    · have hne' := mt (intercalate_eq_nil_iff hothers).1 hsecond
      rw [List.filter_cons_of_pos (by simpa using hne'), List.filter_nil, intercalate_append hfirst hsecond]

/-- No block is empty. -/
theorem ne_nil_of_mem_blocks {m : Model} {options : Options} {blocks : List Text}
    (h : m.classes.mapM (m.block options) = .ok blocks) : ∀ t ∈ blocks, t ≠ [] := by
  intro t ht
  obtain ⟨body, rfl⟩ := exists_of_mem_blocks h t ht
  simp

/-- Without strictness, a model that is put together from two has the interfaces of the first one and of the
second one, or fails as the first one does that fails. -/
theorem value_interfaces_append {options : Options} (hlenient : options.isStrict = false) (m m' : Model) :
    (Model.interfaces ⟨m.classes ++ m'.classes⟩ options).value = do
      let first ← (m.interfaces options).value
      let second ← (m'.interfaces options).value
      return ['\n'].intercalate ([first, second].filter (!·.isEmpty)) := by
  have hblock : Model.block ⟨m.classes ++ m'.classes⟩ options = m.block options :=
    block_lenient hlenient m _
  have hblock' : m'.block options = m.block options := block_lenient hlenient m m'
  rw [value_interfaces, value_interfaces, value_interfaces, hblock, List.mapM_append]
  cases hfirst : m.classes.mapM (m.block options) with
  | error e => rfl
  | ok blocks =>
    cases hsecond : m'.classes.mapM (m'.block options) with
    | error e =>
      rw [hblock'] at hsecond
      rw [hsecond]
      rfl
    | ok blocks' =>
      have happend := intercalate_append_filter (ne_nil_of_mem_blocks hfirst) (ne_nil_of_mem_blocks hsecond)
      rw [hblock'] at hsecond
      rw [hsecond]
      exact congrArg Except.ok happend

/-! ## Concatenations -/

/-- A source behind one that leaves no class open is read as if it stood alone, and its classes come first.
So without strictness, for two sources that are not blank, the interfaces of both are those of the second one
and then those of the first one, as far as there are any; and the conversion fails with the error of the
second one, or else with that of the first one. -/
theorem convert_concatenation (s t : Text) (hclosed : (outlineOf s).opened = []) :
    (read (s ++ '\n' :: t)).value.classes = (read t).value.classes ++ (read s).value.classes ∧
      ∀ options : Options, options.isStrict = false →
        (∃ c ∈ s, isBlank c = false) → (∃ c ∈ t, isBlank c = false) →
        (convert options (s ++ '\n' :: t)).value = do
          let later ← (convert options t).value
          let earlier ← (convert options s).value
          return ['\n'].intercalate ([later, earlier].filter (!·.isEmpty)) := by
  have hclasses := classes_read_append hclosed t
  refine ⟨hclasses, ?_⟩
  intro options hlenient hs ht
  have hboth : ∃ c ∈ s ++ '\n' :: t, isBlank c = false := by
    obtain ⟨c, hc, hblank⟩ := hs
    exact ⟨c, List.mem_append_left _ hc, hblank⟩
  have hmodel : (read (s ++ '\n' :: t)).value = ⟨(read t).value.classes ++ (read s).value.classes⟩ := by
    rw [← hclasses]
  rw [value_convert hboth, value_convert hs, value_convert ht, hmodel]
  exact value_interfaces_append hlenient _ _

/-- A class between a closing brace and a carriage return, and a source with a class left open behind a stray
closing brace. -/
theorem strayBraces_concatenation :
    let s := "\x7d\npublic class A\n\x7b\n\x7d\r".toList
    let t := "\x7d\npublic class B\n\x7b\npublic int X \x7b get; set; \x7d\n\x7d\npublic class C".toList
    (outlineOf s).opened = [] ∧
      (read (s ++ '\n' :: t)).value.classes = (read t).value.classes ++ (read s).value.classes ∧
      (convert {} (s ++ '\n' :: t)).value = do
        let later ← (convert {} t).value
        let earlier ← (convert {} s).value
        return ['\n'].intercalate ([later, earlier].filter (!·.isEmpty)) := by
  intro s t
  have hclosed : (outlineOf s).opened = [] := by decide +kernel
  have hs : ∃ c ∈ s, isBlank c = false := ⟨'}', by decide, by decide⟩
  have ht : ∃ c ∈ t, isBlank c = false := ⟨'}', by decide, by decide⟩
  obtain ⟨hclasses, hconvert⟩ := convert_concatenation s t hclosed
  exact ⟨hclosed, hclasses, hconvert {} rfl hs ht⟩

end InterfaceGen
