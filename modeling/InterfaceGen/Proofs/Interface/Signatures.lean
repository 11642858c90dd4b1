import InterfaceGen.Proofs.Interface.Blocks
import InterfaceGen.Text.Lines

/-!
# Reading interfaces back

The signature of an interface is what its text is to say: a name, and for each property a name, whether the
property may be left out, and its type as it is written.  The text of interfaces is made from their
signatures alone, and a reader who goes through it line by line finds them again, without being told how it
is laid out: behind its indentation a property has a colon after its name, a header has a space after its
first word, and a closing brace has nothing behind it.

Main definitions:

- `PropertySignature`, `InterfaceSignature`: what the text of an interface is to say.
- `Model.signatures`: the signatures of the interfaces of a model.
- `readSignatures`: the signatures that are read from a text.

Main results:

- Theorem `value_interfaces_eq`: the text of interfaces is made from their signatures.
- Theorem `readSignatures_intercalate`: plain signatures are read back from their text.
-/

namespace InterfaceGen

open Text

/-! ## Signatures -/

/-- What the line of a property says. -/
structure PropertySignature where
  name : Text
  isOptional : Bool
  type : Text
deriving DecidableEq, Repr, Inhabited

/-- What the text of an interface says. -/
structure InterfaceSignature where
  name : Text
  properties : List PropertySignature
deriving DecidableEq, Repr, Inhabited

/-- The signature of a property, if its type has a target type. -/
def Scope.signature (scope : Scope) (className : Text) (p : Property) :
    Except ConversionError PropertySignature :=
  match (scope.resolve p.sourceType).value with
  | .error cause => .error (.inProperty className p.name cause)
  | .ok type => .ok ⟨lowerFirst p.name, type.binding.isOptional, type.binding.type.text⟩

/-- The signature of the interface of a class. -/
def DataClass.signature (c : DataClass) (scope : Scope) : Except ConversionError InterfaceSignature :=
  (c.properties.mapM (scope.signature c.name)).map fun properties => ⟨c.name, properties⟩

/-- The signatures of the interfaces of a model, in order. -/
def Model.signatures (m : Model) (options : Options) : Except ConversionError (List InterfaceSignature) :=
  m.classes.mapM fun c => c.signature (m.scope options)

/-! ## The lines of interfaces -/

/-- A line of an interface by what it says. -/
inductive SignatureLine where
  | header (name : Text)
  | property (signature : PropertySignature)
  | closing
deriving DecidableEq, Repr, Inhabited

/-- A property as it is written. -/
def PropertySignature.text (p : PropertySignature) : Text :=
  p.name ++ (if p.isOptional then ['?'] else []) ++ [':', ' '] ++ p.type

/-- A line of an interface as it is written. -/
def SignatureLine.text (exported : Bool) (width : UInt64) : SignatureLine → Text
  | header name => interfaceHeader exported name
  | property p => List.replicate width.toNat ' ' ++ p.text ++ [';']
  | closing => ['}']

/-- The lines of an interface. -/
def InterfaceSignature.lines (i : InterfaceSignature) : List SignatureLine :=
  .header i.name :: (i.properties.map .property ++ [.closing])

/-- The text of an interface. -/
def InterfaceSignature.text (exported : Bool) (width : UInt64) (i : InterfaceSignature) : Text :=
  ['\n'].intercalate (i.lines.map (SignatureLine.text exported width))

/-- The text of an interface, with a line break behind each of its lines. -/
theorem InterfaceSignature.text_append (exported : Bool) (width : UInt64) (i : InterfaceSignature) :
    i.text exported width ++ ['\n'] =
      (i.lines.map (SignatureLine.text exported width)).flatMap (· ++ ['\n']) :=
  (flatMap_lineBreak (List.cons_ne_nil _ _)).symm

/-- The line of a property is that of its signature. -/
theorem line_eq_signature (scope : Scope) (className : Text) :
    scope.line className = fun p => (scope.signature className p).map PropertySignature.text := by
  funext p
  unfold Scope.line Scope.signature
  cases (scope.resolve p.sourceType).value <;> rfl

/-- The block of a class is the text of its signature. -/
theorem block_eq_signature (c : DataClass) (scope : Scope) (exported : Bool) (width : UInt64) :
    c.block scope exported width = (c.signature scope).map (InterfaceSignature.text exported width) := by
  unfold DataClass.block DataClass.signature
  rw [line_eq_signature, mapM_map]
  cases c.properties.mapM (scope.signature c.name) with
  | error e => rfl
  | ok properties =>
    refine congrArg Except.ok ((List.append_left_inj ['\n']).1 ?_)
    rw [InterfaceSignature.text_append]
    simp [InterfaceSignature.lines, SignatureLine.text, List.flatMap_map, PropertySignature.text]

/-- The interfaces of a model are the texts of their signatures with line breaks between them. -/
theorem value_interfaces_eq (m : Model) (options : Options) :
    (m.interfaces options).value = (m.signatures options).map fun signatures =>
      ['\n'].intercalate
        (signatures.map (InterfaceSignature.text options.exported options.indentWidth)) := by
  have hblock : m.block options = fun c => (c.signature (m.scope options)).map
      (InterfaceSignature.text options.exported options.indentWidth) := by
    funext c
    exact block_eq_signature c _ _ _
  rw [value_interfaces, hblock, mapM_map, Model.signatures]
  cases m.classes.mapM fun c => c.signature (m.scope options) <;> rfl

/-- The texts of interfaces are the texts of all of their lines. -/
theorem intercalate_text (exported : Bool) (width : UInt64) (signatures : List InterfaceSignature) :
    ['\n'].intercalate (signatures.map (InterfaceSignature.text exported width)) =
      ['\n'].intercalate
        ((signatures.flatMap InterfaceSignature.lines).map (SignatureLine.text exported width)) := by
  cases signatures with
  | nil => rfl
  | cons i rest =>
    have htexts : (i :: rest).map (InterfaceSignature.text exported width) ≠ [] := List.cons_ne_nil _ _
    have hlines :
        ((i :: rest).flatMap InterfaceSignature.lines).map (SignatureLine.text exported width) ≠ [] :=
      List.cons_ne_nil _ _
    refine (List.append_left_inj ['\n']).1 ?_
    rw [← flatMap_lineBreak htexts, ← flatMap_lineBreak hlines, List.flatMap_map, List.map_flatMap,
      List.flatMap_assoc]
    exact congrArg List.flatten (List.map_congr_left fun j _ => j.text_append exported width)

/-! ## Reading lines -/

/-- Whether a character may stand in the first word of a line. -/
def isNameChar (c : Char) : Bool :=
  c != ' ' && c != ':' && c != '?'

/-- What a line of an interface says.  The name of an interface is the word before the brace. -/
def SignatureLine.read (line : Text) : SignatureLine :=
  let t := line.dropWhile (· == ' ')
  match t.dropWhile isNameChar with
  | ':' :: ' ' :: type => .property ⟨t.takeWhile isNameChar, false, type.dropLast⟩
  | '?' :: ':' :: ' ' :: type => .property ⟨t.takeWhile isNameChar, true, type.dropLast⟩
  | ' ' :: _ => .header ((pieces (· == ' ') line).dropLast.getLastD [])
  | _ => .closing

/-- What makes a property readable: its name could be no other part of its line, and it is on one line. -/
structure PropertySignature.IsPlain (p : PropertySignature) : Prop where
  name : ∀ c ∈ p.name, isNameChar c = true
  oneLine : '\n' ∉ p.name ++ p.type

/-- What makes an interface readable: its name is one word, and so are those of its properties. -/
structure InterfaceSignature.IsPlain (i : InterfaceSignature) : Prop where
  name : ' ' ∉ i.name ∧ '\n' ∉ i.name
  properties : ∀ p ∈ i.properties, p.IsPlain

/-- The first word of a line ends where a character stands that names do not have. -/
theorem span_name {name : Text} (h : ∀ c ∈ name, isNameChar c = true) {c : Char} (hc : isNameChar c = false)
    (rest : Text) :
    (name ++ c :: rest).takeWhile isNameChar = name ∧
      (name ++ c :: rest).dropWhile isNameChar = c :: rest := by
  refine takeWhile_dropWhile_run h fun d hd => ?_
  obtain rfl : c = d := by simpa using hd
  exact hc

/-- Spaces before a name are indentation. -/
theorem dropWhile_indentation {name : Text} (h : ∀ c ∈ name, isNameChar c = true) {c : Char} (hc : c ≠ ' ')
    (n : Nat) (rest : Text) :
    (List.replicate n ' ' ++ (name ++ c :: rest)).dropWhile (· == ' ') = name ++ c :: rest := by
  rw [List.dropWhile_append_of_pos (by simp)]
  cases name with
  | nil => simp [hc]
  | cons d more =>
    have hd : isNameChar d = true := h d List.mem_cons_self
    have hspace : d ≠ ' ' := by
      rintro rfl
      simp [isNameChar] at hd
    simp [hspace]

/-- A header is read back. -/
theorem read_header (exported : Bool) {name : Text} (h : ' ' ∉ name) :
    SignatureLine.read (interfaceHeader exported name) = .header name := by
  have hname : ∀ c ∈ name, (c == ' ') = false := by
    intro c hc
    simpa using fun hspace : c = ' ' => h (hspace ▸ hc)
  have hwords : ∀ lead : Text, pieces (· == ' ') (lead ++ ' ' :: (name ++ [' ', '{'])) =
      pieces (· == ' ') lead ++ [name] ++ [['{']] := by
    intro lead
    rw [pieces_append_cons rfl, pieces_append_cons rfl, pieces_of_uncut hname]
    simp [pieces]
  have hlast : ∀ lead : Text, (pieces (· == ' ') (lead ++ ' ' :: (name ++ [' ', '{']))).dropLast.getLastD [] =
      name := by
    intro lead
    rw [hwords, List.dropLast_concat, List.getLastD_concat]
  cases exported with
  | false => exact congrArg SignatureLine.header (hlast "interface".toList)
  | true => exact congrArg SignatureLine.header (hlast "export interface".toList)

/-- The line of a property is read back, however far it is indented. -/
theorem read_property {p : PropertySignature} (h : p.IsPlain) (n : Nat) :
    SignatureLine.read (List.replicate n ' ' ++ p.text ++ [';']) = .property p := by
  obtain ⟨name, isOptional, type⟩ := p
  cases isOptional with
  | false =>
    have hline : List.replicate n ' ' ++ PropertySignature.text ⟨name, false, type⟩ ++ [';'] =
        List.replicate n ' ' ++ (name ++ ':' :: ' ' :: (type ++ [';'])) := by
      simp [PropertySignature.text]
    obtain ⟨htake, hdrop⟩ := span_name h.name (c := ':') rfl (' ' :: (type ++ [';']))
    rw [hline, SignatureLine.read, dropWhile_indentation h.name (by decide), htake, hdrop]
    simp
  | true =>
    have hline : List.replicate n ' ' ++ PropertySignature.text ⟨name, true, type⟩ ++ [';'] =
        List.replicate n ' ' ++ (name ++ '?' :: ':' :: ' ' :: (type ++ [';'])) := by
      simp [PropertySignature.text]
    obtain ⟨htake, hdrop⟩ := span_name h.name (c := '?') rfl (':' :: ' ' :: (type ++ [';']))
    rw [hline, SignatureLine.read, dropWhile_indentation h.name (by decide), htake, hdrop]
    simp

/-! ## Reading texts -/

/-- The signatures that lines make up, and before them the properties that have no header yet: a property
belongs to the last header before it. -/
def gather : List SignatureLine → List PropertySignature × List InterfaceSignature
  | [] => ([], [])
  | .header name :: rest => ([], ⟨name, (gather rest).1⟩ :: (gather rest).2)
  | .property p :: rest => (p :: (gather rest).1, (gather rest).2)
  | .closing :: rest => ([], (gather rest).2)

/-- The signatures that are read from a text. -/
def readSignatures (t : Text) : List InterfaceSignature :=
  (gather ((Text.lines t).map SignatureLine.read)).2

/-- The properties before a closing brace are gathered in order. -/
theorem gather_properties (properties : List PropertySignature) (rest : List SignatureLine) :
    gather (properties.map .property ++ .closing :: rest) = (properties, (gather rest).2) := by
  induction properties with
  | nil => rfl
  | cons p more ih => rw [List.map_cons, List.cons_append, gather, ih]

/-- The lines of interfaces make up these interfaces. -/
theorem gather_lines (signatures : List InterfaceSignature) :
    gather (signatures.flatMap InterfaceSignature.lines) = ([], signatures) := by
  induction signatures with
  | nil => rfl
  | cons i rest ih =>
    rw [List.flatMap_cons, InterfaceSignature.lines, List.cons_append, List.append_assoc,
      List.singleton_append, gather, gather_properties, ih]

section Plain

variable {signatures : List InterfaceSignature} (h : ∀ i ∈ signatures, i.IsPlain) (exported : Bool)
  (width : UInt64)
include h

/-- The lines of plain interfaces are read back. -/
theorem read_text {line : SignatureLine} (hline : line ∈ signatures.flatMap InterfaceSignature.lines) :
    SignatureLine.read (line.text exported width) = line := by
  obtain ⟨i, hi, hline⟩ := List.mem_flatMap.1 hline
  rcases List.mem_cons.1 hline with rfl | hline
  · exact read_header exported (h i hi).name.1
  · rcases List.mem_append.1 hline with hproperty | hclosing
    · obtain ⟨p, hp, rfl⟩ := List.mem_map.1 hproperty
      exact read_property ((h i hi).properties p hp) width.toNat
    · obtain rfl := List.mem_singleton.1 hclosing
      rfl

/-- The lines of plain interfaces have no line breaks. -/
theorem not_lineBreak_of_mem_lines {line : SignatureLine}
    (hline : line ∈ signatures.flatMap InterfaceSignature.lines) : '\n' ∉ line.text exported width := by
  obtain ⟨i, hi, hline⟩ := List.mem_flatMap.1 hline
  rcases List.mem_cons.1 hline with rfl | hline
  · have hname := (h i hi).name.2
    cases exported <;> simp [SignatureLine.text, interfaceHeader, hname]
  · rcases List.mem_append.1 hline with hproperty | hclosing
    · obtain ⟨p, hp, rfl⟩ := List.mem_map.1 hproperty
      have hplain := ((h i hi).properties p hp).oneLine
      rw [List.mem_append, not_or] at hplain
      cases hoptional : p.isOptional <;>
        simp [SignatureLine.text, PropertySignature.text, hplain, hoptional]
    · obtain rfl := List.mem_singleton.1 hclosing
      simp [SignatureLine.text]

/-- Plain interfaces are read back from their texts, with any layout. -/
theorem readSignatures_intercalate :
    readSignatures (['\n'].intercalate (signatures.map (InterfaceSignature.text exported width))) =
      signatures := by
  by_cases hne : signatures = []
  · subst hne
    rfl
  · have hrows :
        (signatures.flatMap InterfaceSignature.lines).map (SignatureLine.text exported width) ≠ [] := by
      obtain ⟨i, rest, rfl⟩ := List.exists_cons_of_ne_nil hne
      exact List.cons_ne_nil _ _
    have hread : ((signatures.flatMap InterfaceSignature.lines).map
        (SignatureLine.text exported width)).map SignatureLine.read =
          signatures.flatMap InterfaceSignature.lines := by
      rw [List.map_map]
      exact (List.map_congr_left fun line hline => read_text h exported width hline).trans (List.map_id _)
    rw [intercalate_text, readSignatures, lines_intercalate hrows, hread, gather_lines]
    intro row hrow
    obtain ⟨line, hline, rfl⟩ := List.mem_map.1 hrow
    exact not_lineBreak_of_mem_lines h exported width hline

end Plain

end InterfaceGen
