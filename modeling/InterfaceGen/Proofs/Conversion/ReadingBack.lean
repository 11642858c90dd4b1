import InterfaceGen.Proofs.Conversion.Lenient
import InterfaceGen.Proofs.Conversion.OptionalMarks
import InterfaceGen.Proofs.Interface.Signatures
import InterfaceGen.Proofs.Source.Reprinting
import InterfaceGen.Proofs.Types.Nesting

/-!
# Reading converted sources back

What a source declares has no spaces, colons or line breaks in its names and no line breaks in its types,
and neither lowering a name nor resolving a type brings any in, as long as the target types of the
vocabulary are on one line.  So the interfaces of a source can be read back from their text, whatever the
options, and two sources have the same text if and only if their interfaces say the same.

Main results:

- Theorem `plain_of_mem_signatures`: the interfaces of a source are plain.
- Theorem `conversion_is_unambiguous`: the text of a conversion and what it says determine each other.
-/

namespace InterfaceGen

open Text Source

/-! ## Types on one line -/

/-- The core of a type is made of characters of the type. -/
theorem mem_of_mem_core {v : Vocabulary} {t core : Text} (h : v.Core t core) : ∀ c ∈ core, c ∈ t := by
  have htrim : ∀ {t : Text} {c : Char}, c ∈ trim t → c ∈ t := fun {t c} hc =>
    (List.dropWhile_suffix isBlank).subset
      (List.mem_reverse.1 ((List.dropWhile_suffix isBlank).subset (List.mem_reverse.1 hc)))
  induction h with
  | name hname => exact fun c hc => htrim hc
  | layer hlayer hcore ih => exact fun c hc => htrim (Vocabulary.mem_of_encloses_inner hlayer c (ih c hc))

section Targets

variable {options : Options}
  (htargets : ∀ name target, options.vocabulary.target? name = some target → '\n' ∉ target)
include htargets

/-- A type on one line is resolved to a type on one line. -/
theorem not_lineBreak_of_resolve {m : Model} {t : Text} {type : TargetType} (ht : '\n' ∉ t)
    (h : ((m.scope options).resolve t).value = .ok type) : '\n' ∉ type.binding.type.text := by
  obtain ⟨core, hcore, -, -, hleaf⟩ := Scope.exists_core_of_resolve h
  have hlayers : '\n' ∉ ['(', ')'] ++ TargetType.arrayMark ++ TargetType.absentMark := by decide
  rw [← List.count_eq_zero, TargetType.count_text hlayers, TargetType.leaf_binding, hleaf,
    List.count_eq_zero]
  unfold Vocabulary.meaningOf
  cases htarget : (m.scope options).vocabulary.target? core with
  | some target => exact htargets core target htarget
  | none => exact fun hbreak => ht (mem_of_mem_core hcore _ hbreak)

/-! ## Plain interfaces -/

/-- What is declared as a property has a plain signature. -/
theorem plain_of_signature {m : Model} {className line : Text} {p : Property} {signature : PropertySignature}
    (hline : LineKind.ofLine line = .property p.name p.sourceType)
    (h : (m.scope options).signature className p = .ok signature) : signature.IsPlain := by
  obtain ⟨printed, hname, -⟩ := exists_propertyLine hline
  have hword : ∀ c ∈ p.name, isWordPart c = true := hname ▸ printed.name.isWord.isWordPart
  have hsign : ∀ {c : Char}, isWordPart c = false → c.toNat < 0x61 → c ∉ lowerFirst p.name := by
    intro c hpart hc
    refine not_mem_lowerFirst hc fun hmem => ?_
    rw [hword c hmem] at hpart
    cases hpart
  have htype : '\n' ∉ p.sourceType := by
    intro hbreak
    have hblank := not_blank_of_isTypeChar ((isTypeText_of_property hline).2 _ hbreak)
    revert hblank
    decide
  unfold Scope.signature at h
  cases hresolve : ((m.scope options).resolve p.sourceType).value with
  | error cause =>
    rw [hresolve] at h
    cases h
  | ok type =>
    rw [hresolve] at h
    obtain rfl := Except.ok.inj h
    refine ⟨fun c hc => ?_, ?_⟩
    · have hspace : c ≠ ' ' := fun heq => hsign (by decide +kernel) (by decide) (heq ▸ hc)
      have hcolon : c ≠ ':' := fun heq => hsign (by decide +kernel) (by decide) (heq ▸ hc)
      have hmark : c ≠ '?' := fun heq => hsign (by decide +kernel) (by decide) (heq ▸ hc)
      simp [isNameChar, hspace, hcolon, hmark]
    · rw [List.mem_append, not_or]
      exact ⟨hsign (by decide +kernel) (by decide), not_lineBreak_of_resolve htargets htype hresolve⟩

/-- The interfaces of a source are plain. -/
theorem plain_of_mem_signatures {source : Text} {signatures : List InterfaceSignature}
    (h : (read source).value.signatures options = .ok signatures) : ∀ i ∈ signatures, i.IsPlain := by
  obtain ⟨signature, hall, rfl⟩ := exists_of_mapM_eq_ok h
  intro i hi
  obtain ⟨c, hc, rfl⟩ := List.mem_map.1 hi
  have hread : c ∈ (readLines (normalLines source)).value.classes := hc
  have hdeclared := declaredBy_of_mem_classes hread
  obtain ⟨properties, hproperties, hsignature⟩ := map_eq_ok_iff.1 (hall c hc)
  obtain ⟨property, hproperty, rfl⟩ := exists_of_mapM_eq_ok hproperties
  rw [← hsignature]
  constructor
  · obtain ⟨line, -, hline⟩ := hdeclared.name
    have hblank := (isWord_of_opening hline).not_blank
    exact ⟨fun hspace => absurd (hblank _ hspace) (by decide),
      fun hbreak => absurd (hblank _ hbreak) (by decide)⟩
  · intro p hp
    obtain ⟨q, hq, rfl⟩ := List.mem_map.1 hp
    obtain ⟨line, -, hline⟩ := hdeclared.properties q hq
    exact plain_of_signature htargets hline (hproperty q hq)

/-- The interfaces of a converted source are read back from the text of the conversion. -/
theorem signatures_of_convert {source out : Text} (h : (convert options source).value = .ok out) :
    (read source).value.signatures options = .ok (readSignatures out) := by
  have hout := interfaces_of_convert h
  rw [value_interfaces_eq] at hout
  obtain ⟨signatures, hsignatures, rfl⟩ := map_eq_ok_iff.1 hout
  rw [readSignatures_intercalate (plain_of_mem_signatures htargets hsignatures), hsignatures]

end Targets

/-! ## Unambiguous conversions -/

/-- The text of a conversion is unambiguous, with any layout.  If the target types of the vocabulary are on
one line, what the interfaces of a source are to say is read back from their text; and two sources that are
converted have the same text if and only if their interfaces have the same names and properties in the same
order, which may be left out alike and have types that are written alike. -/
theorem conversion_is_unambiguous (options : Options)
    (htargets : ∀ name target, options.vocabulary.target? name = some target → '\n' ∉ target) :
    (∀ source out, (convert options source).value = .ok out →
      (read source).value.signatures options = .ok (readSignatures out)) ∧
    ∀ s t out out', (convert options s).value = .ok out → (convert options t).value = .ok out' →
      (out = out' ↔ (read s).value.signatures options = (read t).value.signatures options) := by
  refine ⟨fun source out h => signatures_of_convert htargets h, ?_⟩
  intro s t out out' hs ht
  constructor
  · rintro rfl
    rw [signatures_of_convert htargets hs, signatures_of_convert htargets ht]
  · intro heq
    have hout := interfaces_of_convert hs
    rw [value_interfaces_eq, heq, ← value_interfaces_eq, interfaces_of_convert ht] at hout
    exact (Except.ok.inj hout).symm

/-- Options without indentation or export, and with a scalar that is written like a closing brace. -/
def terseOptions : Options :=
  { indentWidth := 0, exported := false, vocabulary := Vocabulary.standard.addScalar "Brace".toList ['}'] }

/-- A class named like the first word of a header.  Its first property begins with the capital letter whose
lower case takes two characters. -/
def dottedSource (number : Text) : Text :=
  "public class interface\n\x7b\npublic ".toList ++ number ++ "? \u0130d \x7b get; set; \x7d\n".toList ++
    "public List<Brace> End \x7b get; set; \x7d\n\x7d".toList

/-- Two sources that differ in the name of a scalar have the same text, and their interfaces say what is
read back from it. -/
theorem dottedSources_read_alike :
    (∀ name target, terseOptions.vocabulary.target? name = some target → '\n' ∉ target) ∧
      (convert terseOptions (dottedSource "int".toList)).value =
        .ok "interface interface \x7b\ni\u0307d?: number;\nend: \x7d[];\n\x7d".toList ∧
      (read (dottedSource "int".toList)).value ≠ (read (dottedSource "long".toList)).value ∧
      (read (dottedSource "int".toList)).value.signatures terseOptions =
        (read (dottedSource "long".toList)).value.signatures terseOptions ∧
      (read (dottedSource "int".toList)).value.signatures terseOptions =
        .ok [⟨"interface".toList, [⟨"i\u0307d".toList, true, "number".toList⟩,
          ⟨"end".toList, false, "\x7d[]".toList⟩]⟩] := by
  have hscalars : ∀ scalar ∈ terseOptions.vocabulary.scalars, '\n' ∉ scalar.2 := by decide +kernel
  have htargets : ∀ name target, terseOptions.vocabulary.target? name = some target → '\n' ∉ target := by
    intro name target htarget
    obtain ⟨scalar, hfound, rfl⟩ := Option.map_eq_some_iff.1 htarget
    exact hscalars scalar (List.mem_of_find?_eq_some hfound)
  have hint : (convert terseOptions (dottedSource "int".toList)).value =
      .ok "interface interface \x7b\ni\u0307d?: number;\nend: \x7d[];\n\x7d".toList := by decide +kernel
  have hlong : (convert terseOptions (dottedSource "long".toList)).value =
      .ok "interface interface \x7b\ni\u0307d?: number;\nend: \x7d[];\n\x7d".toList := by decide +kernel
  obtain ⟨hread, halike⟩ := conversion_is_unambiguous terseOptions htargets
  refine ⟨htargets, hint, by decide +kernel, (halike _ _ _ _ hint hlong).1 rfl, ?_⟩
  rw [hread _ _ hint]
  decide +kernel

end InterfaceGen
