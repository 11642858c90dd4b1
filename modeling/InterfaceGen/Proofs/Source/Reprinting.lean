import InterfaceGen.Proofs.Outline.Origins
import InterfaceGen.Proofs.Source.Classification
import InterfaceGen.Proofs.Source.Forest
import InterfaceGen.Proofs.Text.Words

/-!
# Printing what was read

Whatever a source is, the classes that are read from it can be written down one after the other, in the
order in which they close, and are read back.  The reader is tolerant, so this is a matter of what it can
have read: a type has no keywords among its names and no two names without a sign between them, and a type
and a name that would make a header were no property in the first place.

Main definitions:

- `Model.toSource`: the classes of a model as a source.

Main results:

- Theorem `exists_propertyLine`: a property that is read is one that can be printed.
- Theorem `read_toSource`: the classes that are read from a source are read back from what they print as.
-/

namespace InterfaceGen

open Text

/-! ## Classes as a source -/

/-- A property as a line of source. -/
def Property.toLine (p : Property) : Text :=
  "public ".toList ++ (p.sourceType ++ ' ' :: (p.name ++ " \x7b get; set; \x7d".toList))

/-- A class as lines of source. -/
def DataClass.toLines (c : DataClass) : List Text :=
  ("public class ".toList ++ c.name) :: ['{'] :: (c.properties.map Property.toLine ++ [['}']])

/-- The classes of a model as a source, the last one first. -/
def Model.toSource (m : Model) : Text :=
  ['\n'].intercalate (m.classes.reverse.flatMap DataClass.toLines)

namespace Source

/-! ## Types that are read -/

/-- A character of words leaves keywords before it alone. -/
theorem not_spoilsKeyword {c : Char} (h : isWordPart c = true) : spoilsKeyword c = false := by
  simp [spoilsKeyword, h]

/-- Spacing and a word leave keywords before them alone. -/
theorem not_spoiled_of_word {word : Text} (h : IsWord word) (spacing : Spacing) (rest : Text) :
    (spacing.text ++ (word ++ rest)).head?.any spoilsKeyword = false := by
  cases htext : spacing.text with
  | cons c more =>
    exact (keepsKeyword_iff.1 (keepsKeyword_gap (spacing.isGap c (by simp [htext])) _)).2
  | nil =>
    cases word with
    | nil => exact h.elim
    | cons c more => exact not_spoilsKeyword (isWordPart_of_isWordStart h.1)

/-- An ordinary word is no keyword, if nothing behind it spoils keywords. -/
def IsPlainAt.name {word after : Text} (h : IsPlainAt word after)
    (hafter : after.head?.any spoilsKeyword = false) : PlainName :=
  ⟨⟨word, h.1⟩, fun keyword hspelled => h.2.2 keyword hspelled (keepsKeyword_iff.2 ⟨h.2.1, hafter⟩)⟩

/-- A run of type parts leaves keywords before it alone, if what follows does. -/
theorem IsTypeRun.not_spoiled {after run : Text} (h : IsTypeRun after run)
    (hafter : after.head?.any spoilsKeyword = false) : (run ++ after).head?.any spoilsKeyword = false := by
  cases h with
  | nil => exact hafter
  | sign sign hrun => exact (keepsKeyword_iff.1 (keepsKeyword_symbol sign.symbol _)).2
  | @name name run hname hrun =>
    rw [List.append_assoc]
    exact not_spoiled_of_word hname.1 ⟨[], by simp⟩ (run ++ after)

/-- No word stands at once behind an ordinary word, as both would be one. -/
theorem IsPlainAt.not_isWord_behind {word next rest after : Text}
    (h : IsPlainAt word ((next ++ rest) ++ after)) : ¬ IsWord next := by
  intro hnext
  have hend := h.2.1
  rw [List.append_assoc] at hend
  exact hnext.not_endsWord (rest ++ after) hend

/-- A run of type parts is made of signs each of which may have a name behind it, with or without a name
before them. -/
theorem IsTypeRun.exists_signs {after run : Text} (h : IsTypeRun after run)
    (hafter : after.head?.any spoilsKeyword = false) :
    (∃ more : List (TypeSign × Option PlainName), run = spelling (more.flatMap signTokens)) ∨
      ∃ (name : PlainName) (more : List (TypeSign × Option PlainName)),
        run = name.text ++ spelling (more.flatMap signTokens) := by
  induction h with
  | nil => exact .inl ⟨[], rfl⟩
  | @sign sign run hrun ih =>
    rcases ih with ⟨more, rfl⟩ | ⟨name, more, rfl⟩
    · exact .inl ⟨(sign, none) :: more, rfl⟩
    · exact .inl ⟨(sign, some name) :: more, rfl⟩
  | @name name run hname hrun ih =>
    rcases ih with ⟨more, rfl⟩ | ⟨next, more, rfl⟩
    · exact .inr ⟨hname.name (hrun.not_spoiled hafter), more, rfl⟩
    · exact absurd next.isWord hname.not_isWord_behind

/-- A type that stands before what leaves keywords alone is one that can be printed. -/
theorem IsTypeAt.exists_spelling {type after : Text} (h : IsTypeAt type after)
    (hafter : after.head?.any spoilsKeyword = false) : ∃ spelled : TypeSpelling, spelled.text = type := by
  obtain ⟨first, run, rfl, hfirst, hrun, -⟩ := h
  rcases hrun.exists_signs hafter with ⟨more, rfl⟩ | ⟨next, more, rfl⟩
  · exact ⟨⟨hfirst.name (hrun.not_spoiled hafter), more⟩, rfl⟩
  · exact absurd next.isWord hfirst.not_isWord_behind

/-- What follows a type of one word ends it. -/
theorem IsTypeAt.endsWord {type after : Text} (h : IsTypeAt type after) (hword : IsWord type) :
    EndsWord after := by
  obtain ⟨first, run, rfl, hfirst, hrun, -⟩ := h
  cases hrun with
  | nil => exact hfirst.2.1
  | @sign sign run hrun =>
    -- a sign is no part of a word
    have hpart := hword.isWordPart sign.symbol.char (by simp)
    rw [sign.symbol.not_wordPart] at hpart
    cases hpart
  | @name name run hname hrun => exact absurd hname.1 hfirst.not_isWord_behind

/-! ## Properties that are read -/

/-- A property of a type named like a modifier and itself named `class` would read like a header. -/
theorem exists_header_of_modifier {modifier : Modifier} {indent before : Spacing} {gap : Separator}
    {accessors : AccessorSpacing} {after : Text}
    (hend : EndsWord (before.text ++ ("class".toList ++ (accessors.text ++ after)))) :
    ReadsHeader (indent.text ++ ("public".toList ++ (gap.text ++ (modifier.text ++
      (before.text ++ ("class".toList ++ (accessors.text ++ after))))))) (accessors.text ++ after) := by
  have hclass : IsWord "class".toList := Keyword.classWord.isWord
  refine ⟨⟨indent, gap, [(modifier, ⟨before, before.ne_nil hclass hend⟩)]⟩, ?_,
    accessors.keepsKeyword after⟩
  simp only [HeaderLead.text, modifierText, List.flatMap_singleton, List.append_assoc]

/-- A property that is read is one that can be printed. -/
theorem exists_propertyLine {line name type : Text} (h : LineKind.ofLine line = .property name type) :
    ∃ p : PropertyLine, p.name.text = name ∧ p.type.text = type := by
  obtain ⟨hheader, indent, gap, before, accessors, after, hline, htype, hname⟩ := ofLine_eq_property_iff.1 h
  have hbehind := not_spoiled_of_word hname before (accessors.text ++ after)
  obtain ⟨spelled, rfl⟩ := htype.exists_spelling hbehind
  refine ⟨⟨spelled, ⟨name, hname⟩, ?_⟩, rfl, rfl⟩
  rintro ⟨⟨modifier, hmodifier⟩, hclass⟩
  obtain rfl : name = "class".toList := hclass
  rw [hmodifier] at hline htype
  exact hheader ⟨_, hline ▸ exists_header_of_modifier (htype.endsWord modifier.isWord)⟩

/-- A class that is read has a word as its name. -/
theorem isWord_of_opening {line name : Text} (h : LineKind.ofLine line = .opening name) : IsWord name := by
  obtain ⟨-, -, -, -, -, hname, -⟩ := ofLine_eq_opening_iff.1 h
  exact hname

/-! ## Printed models -/

/-- The property that a property line declares. -/
def PropertyLine.property (p : PropertyLine) : Property :=
  ⟨p.name.text, p.type.text⟩

/-- The line of a property that can be printed is its printed line. -/
theorem PropertyLine.toLine_property (p : PropertyLine) :
    p.property.toLine = PrintedLine.normal (.property p) := by
  rw [PrintedLine.normal, p.normal_eq]
  rfl

/-- A header without modifiers is the first line of its class. -/
theorem HeaderLine.normal_eq {header : HeaderLine} (h : header.modifiers = []) :
    PrintedLine.normal (.header header) = "public class ".toList ++ header.name.text := by
  simp only [PrintedLine.normal, HeaderLine.words, h, List.map_nil, List.singleton_append,
    List.intercalate_cons_cons, List.intercalate_singleton]
  rfl

/-- Properties are printed line by line, and enclose no classes. -/
theorem memberLines_property (properties : List PropertyLine) :
    memberLines (properties.map .property) = properties.map .property ∧
      memberClasses (properties.map .property) = [] := by
  induction properties with
  | nil => exact ⟨rfl, rfl⟩
  | cons p rest ih =>
    rw [List.map_cons, memberLines, memberClasses, ih.1, ih.2]
    exact ⟨rfl, rfl⟩

/-- Declared properties are those of lines that can be printed. -/
theorem exists_propertyLines {lines : List Text} {properties : List Property}
    (h : ∀ p ∈ properties, ∃ line ∈ lines, LineKind.ofLine line = .property p.name p.sourceType) :
    ∃ members : List PropertyLine, members.map PropertyLine.property = properties := by
  induction properties with
  | nil => exact ⟨[], rfl⟩
  | cons p rest ih =>
    obtain ⟨members, hmembers⟩ := ih fun q hq => h q (List.mem_cons_of_mem p hq)
    obtain ⟨line, -, hline⟩ := h p List.mem_cons_self
    obtain ⟨member, hname, htype⟩ := exists_propertyLine hline
    refine ⟨member :: members, ?_⟩
    rw [List.map_cons, hmembers, PropertyLine.property, hname, htype]

/-- A declared class that is not named like a keyword of headers is printed as one item. -/
theorem DeclaredBy.exists_item {lines : List Text} {c : DataClass} (h : DeclaredBy lines c)
    (hname : c.name ≠ "public".toList ∧ c.name ≠ "class".toList) :
    ∃ item : Item, item.lines.map PrintedLine.normal = c.toLines ∧ item.classes = [c] := by
  obtain ⟨line, -, hline⟩ := h.name
  obtain ⟨members, hmembers⟩ := exists_propertyLines h.properties
  obtain ⟨hlines, hclasses⟩ := memberLines_property members
  let header : HeaderLine := ⟨[], ⟨c.name, isWord_of_opening hline⟩, hname.1, hname.2⟩
  refine ⟨.member (.nested header (members.map .property)), ?_, ?_⟩
  · have hprinted : members.map (PrintedLine.normal ∘ .property) = c.properties.map Property.toLine := by
      rw [← hmembers, List.map_map]
      exact List.map_congr_left fun p _ => p.toLine_property.symm
    rw [Item.lines, Member.lines, hlines, List.map_cons, List.map_cons, List.map_append, List.map_map,
      hprinted, HeaderLine.normal_eq rfl]
    rfl
  · have hdeclared : (members.map Member.property).filterMap Member.declared? = c.properties := by
      rw [List.filterMap_map, ← hmembers, ← List.filterMap_eq_map]
      rfl
    rw [Item.classes, Member.classes, hclasses, classOf, hdeclared]

/-- Declared classes that are not named like keywords of headers are printed as a forest. -/
theorem exists_forest {lines : List Text} {classes : List DataClass}
    (h : ∀ c ∈ classes, DeclaredBy lines c ∧ c.name ≠ "public".toList ∧ c.name ≠ "class".toList) :
    ∃ forest : List Item, (itemLines forest).map PrintedLine.normal = classes.flatMap DataClass.toLines ∧
      itemClasses forest = classes.reverse := by
  induction classes with
  | nil => exact ⟨[], rfl, rfl⟩
  | cons c rest ih =>
    obtain ⟨forest, hlines, hclasses⟩ := ih fun d hd => h d (List.mem_cons_of_mem c hd)
    obtain ⟨hdeclared, hname⟩ := h c List.mem_cons_self
    obtain ⟨item, hitem, hclass⟩ := hdeclared.exists_item hname
    refine ⟨item :: forest, ?_, ?_⟩
    · rw [itemLines, List.flatMap_cons, List.map_append, hitem, List.flatMap_cons, ← hlines]
      rfl
    · rw [itemClasses, hclasses, hclass, List.reverse_cons]

/-- A forest that is printed line by line, with nothing but the words of each line, is read back. -/
theorem value_read_normal (forest : List Item) :
    (read (['\n'].intercalate ((itemLines forest).map PrintedLine.normal))).value =
      ⟨itemClasses forest⟩ := by
  have hnormal : ∀ row ∈ (itemLines forest).map PrintedLine.normal, ∃ line, row = normalLine line := by
    intro row hrow
    obtain ⟨line, -, rfl⟩ := List.mem_map.1 hrow
    exact ⟨_, (line.normalLine_place (Layout.plain.line 0)).symm⟩
  have hkinds : ((itemLines forest).map PrintedLine.normal).map LineKind.ofLine =
      (itemLines forest).map PrintedLine.kind := by
    rw [List.map_map]
    exact List.map_congr_left fun line _ => line.ofLine_normal
  have hrun : (Outline.empty.addLines (normalLines
      (['\n'].intercalate ((itemLines forest).map PrintedLine.normal)))).value =
        ⟨[], itemClasses forest⟩ := by
    rw [Outline.value_addLines, normalLines_of_normal hnormal, Outline.afterKinds_filter, hkinds]
    have hforest := afterKinds_itemLines forest []
    rwa [List.append_nil] at hforest
  exact congrArg (fun outline : Outline => (⟨outline.closed⟩ : Model)) hrun

/-- Every source can be printed as its classes: if none of the classes that are read from it is named
`public` or `class`, then the same classes, with the same properties and types, are read from what they
print as. -/
theorem read_toSource (source : Text)
    (h : ∀ c ∈ (read source).value.classes, c.name ≠ "public".toList ∧ c.name ≠ "class".toList) :
    (read (read source).value.toSource).value = (read source).value := by
  have hdeclared : ∀ c ∈ (read source).value.classes.reverse,
      DeclaredBy (normalLines source) c ∧ c.name ≠ "public".toList ∧ c.name ≠ "class".toList := by
    intro c hc
    have hread : c ∈ (readLines (normalLines source)).value.classes := List.mem_reverse.1 hc
    exact ⟨declaredBy_of_mem_classes hread, h c hread⟩
  obtain ⟨forest, hlines, hclasses⟩ := exists_forest hdeclared
  rw [Model.toSource, ← hlines, value_read_normal, hclasses, List.reverse_reverse]

/-- A class that is left open, and one with types whose signs do not match, names at once behind them, names
that are keywords, and a type that is a modifier. -/
def untidyFields : Text :=
  ['\n'].intercalate (["public class Lost", "public sealed class get",
    "  public List<int>set \x7bget;set;\x7d", "public A>><B?class \x7b get ; set ; \x7d = 1;",
    "public partial item \x7b get; set; \x7d", "\x7d"].map String.toList)

/-- The class that is read from untidy fields is read back from what it prints as. -/
theorem untidyFields_reprint :
    (∀ c ∈ (read untidyFields).value.classes, c.name ≠ "public".toList ∧ c.name ≠ "class".toList) ∧
      (read untidyFields).value.toSource = ['\n'].intercalate (["public class get", "\x7b",
        "public List<int> set \x7b get; set; \x7d", "public A>><B? class \x7b get; set; \x7d",
        "public partial item \x7b get; set; \x7d", "\x7d"].map String.toList) ∧
      (read (read untidyFields).value.toSource).value = (read untidyFields).value :=
  ⟨by decide +kernel, by decide +kernel, read_toSource untidyFields (by decide +kernel)⟩

end Source

end InterfaceGen
