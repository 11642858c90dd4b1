import InterfaceGen.Interface.Printer
import InterfaceGen.Proofs.Results

/-!
# The blocks of a text

The interfaces of a model are the blocks of its classes, one on a line each.  A block has a line for each
property and is told here without a writer, so that what it depends on can be seen: the class, the layout
and the scope of its types, of which the order of declared names has no bearing.

Main definitions:

- `Scope.line`: a property as it is written in an interface, or why it has no type.
- `DataClass.block`: the interface of a class, or the error of its first property that has no type.
- `Model.block`: the interface of a class in a model.

Main results:

- Theorem `value_interfaces`: the interfaces of a model are the blocks of its classes, with line breaks
  between them.
- Theorem `interfaces_follow_blocks`: the same with what is trimmed from the end, and what it says of models
  with the same names and of classes in another order.
-/

namespace InterfaceGen

open Text

/-! ## Blocks -/

/-- A property as it is written in an interface, if its type has a target type. -/
def Scope.line (scope : Scope) (className : Text) (p : Property) : Except ConversionError Text :=
  match (scope.resolve p.sourceType).value with
  | .error cause => .error (.inProperty className p.name cause)
  | .ok type => .ok (type.binding.property (lowerFirst p.name))

/-- The interface of a class: a header, each property on an indented line of its own, and a closing brace.
The error is that of the first property whose type has no target type. -/
def DataClass.block (c : DataClass) (scope : Scope) (exported : Bool) (width : UInt64) :
    Except ConversionError Text := do
  let lines ← c.properties.mapM (scope.line c.name)
  return interfaceHeader exported c.name ++ ['\n'] ++
    lines.flatMap (fun line => List.replicate width.toNat ' ' ++ line ++ [';', '\n']) ++ ['}']

/-- The interface of a class in a model. -/
def Model.block (m : Model) (options : Options) (c : DataClass) : Except ConversionError Text :=
  c.block (m.scope options) options.exported options.indentWidth

/-- A block ends in a closing brace. -/
theorem exists_of_block {c : DataClass} {scope : Scope} {exported : Bool} {width : UInt64} {block : Text}
    (h : c.block scope exported width = .ok block) : ∃ body, block = body ++ ['}'] := by
  obtain ⟨lines, -, hblock⟩ := bind_eq_ok_iff.1 h
  exact ⟨_, (Except.ok.inj hblock).symm⟩

/-- Each property of a class has a line in its block. -/
theorem exists_line_of_block {c : DataClass} {scope : Scope} {exported : Bool} {width : UInt64}
    {block : Text} (h : c.block scope exported width = .ok block) {p : Property} (hp : p ∈ c.properties) :
    ∃ line, scope.line c.name p = .ok line ∧ line ++ [';', '\n'] <:+: block := by
  obtain ⟨lines, hlines, hblock⟩ := bind_eq_ok_iff.1 h
  obtain ⟨line, hall, rfl⟩ := exists_of_mapM_eq_ok hlines
  obtain rfl := Except.ok.inj hblock
  have hmem : line p ∈ c.properties.map line := List.mem_map_of_mem hp
  have hline := List.infix_of_mem_flatten
    (List.mem_map_of_mem (f := fun line => List.replicate width.toNat ' ' ++ line ++ [';', '\n']) hmem)
  rw [← List.flatMap_def, List.append_assoc] at hline
  refine ⟨line p, hall p hp, ((List.suffix_append _ _).isInfix.trans hline).trans ?_⟩
  exact List.infix_append _ _ _

/-! ## Printing -/

/-- What a writer has written, and the level and width with which it goes on. -/
def Writer.state (w : Writer) : Text × Nat × UInt64 :=
  (w.written, w.level, w.width)

section Printing

variable (scope : Scope)

/-- Printing a property gives its line. -/
theorem value_printProperty (className : Text) (p : Property) :
    (printProperty scope className p).value = scope.line className p := by
  rw [printProperty, Logged.value_bind, Scope.line]
  cases (scope.resolve p.sourceType).value <;> rfl

/-- Printing properties adds their lines, or fails as the first line does that fails. -/
theorem state_printProperties (className : Text) (properties : List Property) (w : Writer) :
    (printProperties scope className properties w).value.map Writer.state =
      (properties.mapM (scope.line className)).map fun lines =>
        (w.written ++ lines.flatMap (fun line => w.indentation ++ line ++ [';', '\n']), w.level, w.width) := by
  induction properties generalizing w with
  | nil => simp [printProperties, Writer.state, Except.map, pure, Except.pure]
  | cons p rest ih =>
    rw [printProperties, Logged.value_bind, value_printProperty, List.mapM_cons]
    cases scope.line className p with
    | error e => rfl
    | ok line =>
      have hrest := ih (w.writeLine (line ++ [';']))
      have hindentation : (w.writeLine (line ++ [';'])).indentation = w.indentation := rfl
      rw [hindentation] at hrest
      refine hrest.trans ?_
      cases rest.mapM (scope.line className) with
      | error e => rfl
      | ok lines => simp [Except.map, bind, Except.bind, pure, Except.pure]

/-- At the outermost level, printing a class adds its block and a line break, or fails as the block does. -/
theorem state_printClass (exported : Bool) (c : DataClass) (w : Writer) (hlevel : w.level = 0) :
    (printClass scope exported c w).value.map Writer.state =
      (c.block scope exported w.width).map fun block => (w.written ++ block ++ ['\n'], 0, w.width) := by
  have hproperties := state_printProperties scope c.name c.properties
    (w.writeLine (interfaceHeader exported c.name)).indent
  rw [printClass, Logged.value_bind, Logged.value_bind, DataClass.block]
  cases hlines : c.properties.mapM (scope.line c.name) with
  | error e =>
    rw [hlines] at hproperties
    rw [map_eq_error_iff.1 hproperties]
    rfl
  | ok lines =>
    rw [hlines] at hproperties
    obtain ⟨filled, hprint, hstate⟩ := map_eq_ok_iff.1 hproperties
    obtain ⟨hwritten, hfilled, hwidth⟩ :
        filled.written = _ ∧ filled.level = _ ∧ filled.width = _ := by
      simpa only [Writer.state, Prod.mk.injEq] using hstate
    have hone : (w.writeLine (interfaceHeader exported c.name)).indent.level = 1 := by simp [hlevel]
    have hclosed : filled.dedent.level = 0 := by simp [hfilled, hlevel]
    rw [hprint]
    change Except.ok (filled.dedent.writeLine ['}']).state = Except.ok _
    rw [Writer.state, Writer.written_writeLine, Writer.indentation_of_level_zero hclosed,
      Writer.written_dedent, hwritten, Writer.indentation_of_level_one hone]
    simp [Writer.indentation_of_level_zero hlevel, hfilled, hlevel, hwidth]

/-- At the outermost level, printing classes adds their blocks, each with a line break behind it, or fails
as the first block does that fails. -/
theorem state_printClasses (exported : Bool) (classes : List DataClass) (w : Writer) (hlevel : w.level = 0) :
    (printClasses scope exported classes w).value.map Writer.state =
      (classes.mapM fun c : DataClass => c.block scope exported w.width).map fun blocks =>
        (w.written ++ blocks.flatMap (· ++ ['\n']), 0, w.width) := by
  induction classes generalizing w with
  | nil => simp [printClasses, Writer.state, hlevel, Except.map, pure, Except.pure]
  | cons c rest ih =>
    have hclass := state_printClass scope exported c w hlevel
    rw [printClasses, Logged.value_bind, List.mapM_cons]
    cases hblock : c.block scope exported w.width with
    | error e =>
      rw [hblock] at hclass
      rw [map_eq_error_iff.1 hclass]
      rfl
    | ok block =>
      rw [hblock] at hclass
      obtain ⟨next, hprint, hstate⟩ := map_eq_ok_iff.1 hclass
      obtain ⟨hwritten, hnext, hwidth⟩ :
          next.written = _ ∧ next.level = _ ∧ next.width = _ := by
        simpa only [Writer.state, Prod.mk.injEq] using hstate
      have hrest := ih next hnext
      rw [hwritten, hwidth] at hrest
      rw [hprint]
      refine hrest.trans ?_
      cases rest.mapM fun c : DataClass => c.block scope exported w.width with
      | error e => rfl
      | ok blocks => simp [Except.map, bind, Except.bind, pure, Except.pure]

end Printing

/-! ## The text -/

/-- Texts with a line break behind each are the texts with line breaks between them, and one at the end. -/
theorem flatMap_lineBreak {texts : List Text} (hne : texts ≠ []) :
    texts.flatMap (· ++ ['\n']) = ['\n'].intercalate texts ++ ['\n'] := by
  induction texts with
  | nil => exact absurd rfl hne
  | cons t rest ih =>
    cases rest with
    | nil => simp
    | cons next more =>
      rw [List.flatMap_cons, ih (List.cons_ne_nil next more), List.intercalate_cons_cons]
      simp only [List.append_assoc]

/-- Each of some texts is found in them with line breaks between them. -/
theorem infix_intercalate {t : Text} {texts : List Text} (h : t ∈ texts) :
    t <:+: ['\n'].intercalate texts := by
  induction texts with
  | nil => cases h
  | cons u rest ih =>
    cases rest with
    | nil =>
      obtain rfl := List.mem_singleton.1 h
      exact ⟨[], [], by simp⟩
    | cons next more =>
      rw [List.intercalate_cons_cons]
      rcases List.mem_cons.1 h with rfl | h
      · exact ⟨[], ['\n'] ++ ['\n'].intercalate (next :: more), by simp⟩
      · exact (ih h).trans (List.suffix_append _ _).isInfix

/-- Texts that end in a brace, with line breaks between them, end in a brace. -/
theorem exists_of_intercalate {texts : List Text} (hne : texts ≠ [])
    (h : ∀ t ∈ texts, ∃ body, t = body ++ ['}']) : ∃ body, ['\n'].intercalate texts = body ++ ['}'] := by
  induction texts with
  | nil => exact absurd rfl hne
  | cons t rest ih =>
    cases rest with
    | nil => simpa using h t List.mem_cons_self
    | cons next more =>
      obtain ⟨body, hbody⟩ := ih (List.cons_ne_nil next more) fun u hu => h u (List.mem_cons_of_mem t hu)
      exact ⟨t ++ ['\n'] ++ body, by rw [List.intercalate_cons_cons, hbody, ← List.append_assoc]⟩

/-- Of texts that end in braces, with a line break behind each, only the last line break is trimmed. -/
theorem trimEnd_flatMap_lineBreak {texts : List Text} (h : ∀ t ∈ texts, ∃ body, t = body ++ ['}']) :
    trimEnd (texts.flatMap (· ++ ['\n'])) = ['\n'].intercalate texts := by
  by_cases hne : texts = []
  · subst hne
    rfl
  · obtain ⟨body, hbody⟩ := exists_of_intercalate hne h
    have hbreak : isBlank '\n' = true := by decide
    have hbrace : isBlank '}' = false := by decide
    rw [flatMap_lineBreak hne, trimEnd_concat_of_blank hbreak, hbody, trimEnd_concat hbrace]

/-- The blocks of a model, if it has them all, end in braces. -/
theorem exists_of_mem_blocks {m : Model} {options : Options} {blocks : List Text}
    (h : m.classes.mapM (m.block options) = .ok blocks) : ∀ t ∈ blocks, ∃ body, t = body ++ ['}'] := by
  obtain ⟨block, hall, rfl⟩ := exists_of_mapM_eq_ok h
  intro t ht
  obtain ⟨c, hc, rfl⟩ := List.mem_map.1 ht
  exact exists_of_block (hall c hc)

/-- What a model has written in the end: the blocks of its classes, each with a line break behind it. -/
theorem exists_writer {m : Model} {options : Options} {blocks : List Text}
    (h : m.classes.mapM (m.block options) = .ok blocks) :
    ∃ w, (printClasses (m.scope options) options.exported m.classes (.start options.indentWidth)).value =
      .ok w ∧ w.written = blocks.flatMap (· ++ ['\n']) := by
  have hclasses := state_printClasses (m.scope options) options.exported m.classes
    (.start options.indentWidth) rfl
  change _ = (m.classes.mapM (m.block options)).map _ at hclasses
  rw [h] at hclasses
  obtain ⟨w, hprint, hstate⟩ := map_eq_ok_iff.1 hclasses
  exact ⟨w, hprint, (Prod.mk.inj hstate).1⟩

/-- The interfaces of a model are the blocks of its classes with line breaks between them, or fail as the
first block does that fails. -/
theorem value_interfaces (m : Model) (options : Options) :
    (m.interfaces options).value = (m.classes.mapM (m.block options)).map ['\n'].intercalate := by
  rw [Model.interfaces, Logged.value_bind, Logged.value_bind]
  cases hblocks : m.classes.mapM (m.block options) with
  | error e =>
    have hclasses := state_printClasses (m.scope options) options.exported m.classes
      (.start options.indentWidth) rfl
    change _ = (m.classes.mapM (m.block options)).map _ at hclasses
    rw [hblocks] at hclasses
    rw [map_eq_error_iff.1 hclasses]
    rfl
  | ok blocks =>
    obtain ⟨w, hprint, hwritten⟩ := exists_writer hblocks
    rw [hprint]
    change Except.ok (trimEnd w.written) = Except.ok _
    rw [hwritten, trimEnd_flatMap_lineBreak (exists_of_mem_blocks hblocks)]

/-- A model has interfaces if and only if all of its classes have blocks, and then these make them up. -/
theorem interfaces_eq_ok_iff {m : Model} {options : Options} {out : Text} :
    (m.interfaces options).value = .ok out ↔
      ∃ block : DataClass → Text, (∀ c ∈ m.classes, m.block options c = .ok (block c)) ∧
        out = ['\n'].intercalate (m.classes.map block) := by
  rw [value_interfaces, map_eq_ok_iff]
  constructor
  · rintro ⟨blocks, hblocks, rfl⟩
    obtain ⟨block, hall, rfl⟩ := exists_of_mapM_eq_ok hblocks
    exact ⟨block, hall, rfl⟩
  · rintro ⟨block, hall, rfl⟩
    exact ⟨m.classes.map block, mapM_eq_ok hall, rfl⟩

/-! ## What a block depends on -/

/-- Types are resolved alike in two scopes that take names alike and peel the same layers. -/
theorem resolveWithin_congr {scope scope' : Scope}
    (hname : ∀ name, scope.targetOfName name = scope'.targetOfName name)
    (hpeel : ∀ t, scope.vocabulary.peel t = scope'.vocabulary.peel t) (allowance : Nat) (t : Text) :
    scope.resolveWithin allowance t = scope'.resolveWithin allowance t := by
  induction allowance generalizing t with
  | zero => rfl
  | succ allowance ih => simp only [Scope.resolveWithin, hpeel, hname, ih]

/-- Without strictness it has no bearing on a type which names are declared. -/
theorem resolveWithin_lenient {v : Vocabulary} (names names' : List Text) (allowance : Nat) (t : Text) :
    (Scope.mk v false names).resolveWithin allowance t =
      (Scope.mk v false names').resolveWithin allowance t := by
  have htarget : ∀ name, (Scope.mk v false names).targetOfName name =
      (Scope.mk v false names').targetOfName name := by
    intro name
    simp only [Scope.targetOfName, Bool.false_and]
  exact resolveWithin_congr htarget (fun _ => rfl) allowance t

/-- The blocks of two models that resolve types alike are the same. -/
theorem block_eq_of_resolve {m m' : Model} {options : Options}
    (hresolve : ∀ t, (m'.scope options).resolve t = (m.scope options).resolve t) :
    m'.block options = m.block options := by
  have hline : (m'.scope options).line = (m.scope options).line := by
    funext className p
    rw [Scope.line, hresolve, Scope.line]
  funext c
  rw [Model.block, DataClass.block, hline]
  rfl

/-- Without strictness the blocks of any two models are the same. -/
theorem block_lenient {options : Options} (hlenient : options.isStrict = false) (m m' : Model) :
    m'.block options = m.block options := by
  refine block_eq_of_resolve fun t => ?_
  unfold Model.scope
  rw [hlenient]
  exact resolveWithin_lenient _ _ _ t

end InterfaceGen
