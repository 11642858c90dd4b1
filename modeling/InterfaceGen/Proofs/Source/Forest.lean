import InterfaceGen.Proofs.Source.Layout
import InterfaceGen.Source.Outline

/-!
# Reading undoes printing

Nested classes are printed line by line and read back.  The reader meets a class within the classes that
are open around it, so what reading a member does is stated for every outline before it: its property
goes to the innermost open class, and its classes are closed when its last line is read.

Main definitions:

- `Member`, `Item`: what stands in a class, and what stands outside all classes.
- `memberLines`, `itemLines`: the lines they are printed with.
- `memberClasses`, `itemClasses`: their classes, an enclosing class before those it encloses and later
  classes before earlier ones.

Main results:

- Theorem `afterKinds_memberLines`: what reading the members of a class does to every outline.
- Theorem `read_print`: the classes of a printed forest are read back, in every layout.
-/

namespace InterfaceGen.Source

open Text

/-! ## Outlines by the kinds of lines -/

namespace Outline

/-- The outline after a line of some kind. -/
def afterKind (outline : Outline) (kind : LineKind) : Outline :=
  (outline.step [] kind).2

/-- The outline after lines of some kinds. -/
def afterKinds (outline : Outline) (kinds : List LineKind) : Outline :=
  kinds.foldl afterKind outline

/-- Kinds are read one part after the other. -/
@[simp] theorem afterKinds_append (outline : Outline) (before after : List LineKind) :
    outline.afterKinds (before ++ after) = (outline.afterKinds before).afterKinds after :=
  List.foldl_append

/-- Kinds are read one by one. -/
@[simp] theorem afterKinds_cons (outline : Outline) (kind : LineKind) (rest : List LineKind) :
    outline.afterKinds (kind :: rest) = (outline.afterKind kind).afterKinds rest :=
  rfl

/-- The outline depends on a line by its kind only. -/
theorem addLine_eq_afterKind (outline : Outline) (line : Text) :
    (outline.addLine line).2 = outline.afterKind (LineKind.ofLine line) := by
  unfold addLine afterKind
  cases LineKind.ofLine line with
  | opening name => rfl
  | closing => cases hopened : outline.opened <;> simp [step, hopened]
  | property name sourceType => cases hopened : outline.opened <;> simp [step, hopened]
  | malformedHeader => rfl
  | other => rfl

/-- The outline depends on lines by their kinds only. -/
theorem value_addLines (outline : Outline) (lines : List Text) :
    (outline.addLines lines).value = outline.afterKinds (lines.map LineKind.ofLine) := by
  induction lines generalizing outline with
  | nil => rfl
  | cons line rest ih =>
    rw [List.map_cons, afterKinds_cons, ← addLine_eq_afterKind]
    exact ih (outline.addLine line).2

/-- Lines that hold no word change nothing. -/
theorem afterKinds_filter (outline : Outline) (lines : List Text) :
    outline.afterKinds ((lines.filter (!·.isEmpty)).map LineKind.ofLine) =
      outline.afterKinds (lines.map LineKind.ofLine) := by
  induction lines generalizing outline with
  | nil => rfl
  | cons line rest ih =>
    cases line with
    | nil =>
      have hempty : LineKind.ofLine [] = .other := by decide +kernel
      rw [List.map_cons, hempty, afterKinds_cons]
      exact ih outline
    | cons c more =>
      rw [List.filter_cons_of_pos (by simp), List.map_cons, List.map_cons, afterKinds_cons,
        afterKinds_cons, ih]

/-- The innermost open class with more properties. -/
def addProperties (properties : List Property) : List DataClass → List DataClass
  | [] => []
  | inner :: outer => { inner with properties := inner.properties ++ properties } :: outer

/-- Of no properties nothing is added. -/
@[simp] theorem addProperties_nil (opened : List DataClass) : addProperties [] opened = opened := by
  cases opened <;> simp [addProperties]

/-- Properties are added one part after the other. -/
@[simp] theorem addProperties_addProperties (before after : List Property) (opened : List DataClass) :
    addProperties after (addProperties before opened) = addProperties (before ++ after) opened := by
  cases opened <;> simp [addProperties]

/-- A property line adds its property to the innermost open class, if there is one. -/
theorem afterKind_property (opened closed : List DataClass) (name sourceType : Text) :
    afterKind ⟨opened, closed⟩ (.property name sourceType) =
      ⟨addProperties [⟨name, sourceType⟩] opened, closed⟩ := by
  cases opened <;> rfl

end Outline

/-- What a noise line says does not count. -/
theorem NoiseLine.afterKind (noise : NoiseLine) (outline : Outline) :
    outline.afterKind (LineKind.ofLine (normalLine noise.text)) = outline := by
  rcases noise.no_meaning with hother | hmalformed
  · rw [hother]
    rfl
  · rw [hmalformed]
    rfl

/-! ## Nested classes -/

/-- What may stand in a class: a property, a class with its own members, or noise. -/
inductive Member where
  | property (line : PropertyLine)
  | nested (header : HeaderLine) (members : List Member)
  | noise (line : NoiseLine)

/-- The property that a member declares for the class around it. -/
def Member.declared? : Member → Option Property
  | .property line => some ⟨line.name.text, line.type.text⟩
  | .nested _ _ => none
  | .noise _ => none

/-- A class of some members, with their properties in the order in which they stand. -/
def classOf (header : HeaderLine) (members : List Member) : DataClass :=
  ⟨header.name.text, members.filterMap Member.declared?⟩

mutual

/-- The lines that a member is printed with. -/
def Member.lines : Member → List PrintedLine
  | .property line => [.property line]
  | .nested header members => .header header :: .leftBrace :: (memberLines members ++ [.rightBrace])
  | .noise line => [.noise line]

/-- The lines that members are printed with. -/
def memberLines : List Member → List PrintedLine
  | [] => []
  | member :: rest => member.lines ++ memberLines rest

end

mutual

/-- The classes of a member: the class itself before those that it encloses. -/
def Member.classes : Member → List DataClass
  | .property _ => []
  | .nested header members => classOf header members :: memberClasses members
  | .noise _ => []

/-- The classes of members, those of later members first. -/
def memberClasses : List Member → List DataClass
  | [] => []
  | member :: rest => memberClasses rest ++ member.classes

end

mutual

/-- A member gives its property to the innermost open class and closes its own classes. -/
theorem Member.afterKinds_lines (member : Member) (opened closed : List DataClass) :
    Outline.afterKinds ⟨opened, closed⟩ (member.lines.map PrintedLine.kind) =
      ⟨Outline.addProperties member.declared?.toList opened, member.classes ++ closed⟩ := by
  cases member with
  | property line => exact Outline.afterKind_property opened closed _ _
  | nested header members =>
    have hmembers := afterKinds_memberLines members (⟨header.name.text, []⟩ :: opened) closed
    have hinner : Outline.addProperties (members.filterMap Member.declared?)
        (⟨header.name.text, []⟩ :: opened) = classOf header members :: opened := rfl
    have hopening : (Outline.afterKind ⟨opened, closed⟩ (.opening header.name.text)).afterKind .other =
        ⟨⟨header.name.text, []⟩ :: opened, closed⟩ := rfl
    rw [Member.lines, List.map_cons, List.map_cons, List.map_append, Outline.afterKinds_cons,
      Outline.afterKinds_cons, Outline.afterKinds_append]
    change Outline.afterKinds (Outline.afterKinds
      ((Outline.afterKind ⟨opened, closed⟩ (.opening header.name.text)).afterKind .other) _) [.closing] = _
    rw [hopening, hmembers, hinner, Member.declared?, Option.toList_none, Outline.addProperties_nil,
      Member.classes]
    rfl
  | noise line =>
    rw [Member.lines, List.map_singleton, Outline.afterKinds_cons, PrintedLine.kind, line.afterKind,
      Member.declared?, Option.toList_none, Outline.addProperties_nil]
    rfl

/-- Members give their properties to the innermost open class and close their own classes. -/
theorem afterKinds_memberLines (members : List Member) (opened closed : List DataClass) :
    Outline.afterKinds ⟨opened, closed⟩ ((memberLines members).map PrintedLine.kind) =
      ⟨Outline.addProperties (members.filterMap Member.declared?) opened,
        memberClasses members ++ closed⟩ := by
  cases members with
  | nil =>
    rw [List.filterMap_nil, Outline.addProperties_nil]
    rfl
  | cons member rest =>
    have hproperties : (member :: rest).filterMap Member.declared? =
        member.declared?.toList ++ rest.filterMap Member.declared? := by
      cases hdeclared : member.declared? with
      | none => simp [hdeclared]
      | some property => simp [hdeclared]
    rw [memberLines, List.map_append, Outline.afterKinds_append, member.afterKinds_lines,
      afterKinds_memberLines rest, Outline.addProperties_addProperties, hproperties, memberClasses,
      List.append_assoc]

end

/-! ## Forests -/

/-- What may stand outside all classes: a class, a stray property, noise, or a stray closing brace. -/
inductive Item where
  | member (inner : Member)
  | strayBrace

/-- The lines that an item is printed with. -/
def Item.lines : Item → List PrintedLine
  | .member inner => inner.lines
  | .strayBrace => [.rightBrace]

/-- The classes of an item. -/
def Item.classes : Item → List DataClass
  | .member inner => inner.classes
  | .strayBrace => []

/-- The lines that a forest is printed with. -/
def itemLines (forest : List Item) : List PrintedLine :=
  forest.flatMap Item.lines

/-- The classes of a forest: from the roots on, those of later items first. -/
def itemClasses : List Item → List DataClass
  | [] => []
  | item :: rest => itemClasses rest ++ item.classes

/-- With no class open, an item closes its classes and nothing else happens. -/
theorem Item.afterKinds_lines (item : Item) (closed : List DataClass) :
    Outline.afterKinds ⟨[], closed⟩ (item.lines.map PrintedLine.kind) = ⟨[], item.classes ++ closed⟩ := by
  cases item with
  | member inner => exact inner.afterKinds_lines [] closed
  | strayBrace => rfl

/-- With no class open, a forest closes its classes and nothing else happens. -/
theorem afterKinds_itemLines (forest : List Item) (closed : List DataClass) :
    Outline.afterKinds ⟨[], closed⟩ ((itemLines forest).map PrintedLine.kind) =
      ⟨[], itemClasses forest ++ closed⟩ := by
  induction forest generalizing closed with
  | nil => rfl
  | cons item rest ih =>
    have hlines : itemLines (item :: rest) = item.lines ++ itemLines rest := List.flatMap_cons
    rw [hlines, List.map_append, Outline.afterKinds_append, item.afterKinds_lines, ih, itemClasses,
      List.append_assoc]

/-- The classes of a printed forest are read back, in every layout: each with its own properties, and
the root classes before those they enclose. -/
theorem read_print (forest : List Item) (layout : Layout) :
    (read (layout.print (itemLines forest))).value = ⟨itemClasses forest⟩ := by
  have hkinds : ((itemLines forest).map PrintedLine.normal).map LineKind.ofLine =
      (itemLines forest).map PrintedLine.kind := by
    rw [List.map_map]
    exact List.map_congr_left fun line _ => line.ofLine_normal
  have hrun : (Outline.empty.addLines (normalLines (layout.print (itemLines forest)))).value =
      ⟨[], itemClasses forest⟩ := by
    rw [Outline.value_addLines, normalLines_print, Outline.afterKinds_filter, hkinds]
    have hforest := afterKinds_itemLines forest []
    rwa [List.append_nil] at hforest
  calc (read (layout.print (itemLines forest))).value
      = ⟨(Outline.empty.addLines (normalLines (layout.print (itemLines forest)))).value.closed⟩ := rfl
    _ = ⟨itemClasses forest⟩ := by rw [hrun]

/-- The layout with one space between the words of a line and nothing more. -/
def Layout.plain : Layout :=
  let none : Blanks := ⟨[], nofun, nofun⟩
  let space : Blanks := ⟨[' '], List.forall_mem_singleton.2 (by decide), by decide⟩
  ⟨fun _ => ⟨[], none, fun _ => ⟨space, List.cons_ne_nil ' ' []⟩, none⟩, []⟩

-- a class around another, with a property of an optional list of numbers before it
example :
    let outer : Name := ⟨"Outer".toList, by decide +kernel⟩
    let inner : Name := ⟨"Inner".toList, by decide +kernel⟩
    let list : PlainName :=
      ⟨⟨"List".toList, by decide +kernel⟩, fun keyword => by cases keyword <;> decide⟩
    let int : PlainName :=
      ⟨⟨"int".toList, by decide +kernel⟩, fun keyword => by cases keyword <;> decide⟩
    let type : TypeSpelling := ⟨list, [(.leftAngle, some int), (.rightAngle, none), (.question, none)]⟩
    let members : List Member :=
      [.property ⟨type, inner, fun h => absurd h.2 (by decide)⟩,
        .nested ⟨[], inner, by decide, by decide⟩ []]
    Layout.plain.print (itemLines [.member (.nested ⟨[.sealedWord], outer, by decide, by decide⟩ members)]) =
      ['\n'].intercalate (["public sealed class Outer", "\x7b", "public List<int>? Inner \x7b get; set; \x7d",
        "public class Inner", "\x7b", "\x7d", "\x7d"].map String.toList) := by
  decide +kernel

end InterfaceGen.Source
