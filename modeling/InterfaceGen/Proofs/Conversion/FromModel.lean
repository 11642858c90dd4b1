import InterfaceGen.Command.Single
import InterfaceGen.Proofs.Conversion.Lenient
import InterfaceGen.Proofs.Json.RoundTrip
import InterfaceGen.Proofs.Results

/-!
# Conversion by way of the model

A model is read back from its JSON text, whatever its names and types are.  So a source can be converted in
two steps, by printing its model and converting what was printed, with the same result as in one.

Main results:

- Theorem `parse?_print`: a printed model is read back, with any gaps behind it.
- Theorem `printed_model_converts`: what the model of a source is printed as has the interfaces of the source.
-/

namespace InterfaceGen

open Text Source Json Command

/-! ## Models in JSON -/

/-- A property is read back. -/
theorem Property.ofJson?_toJson (p : Property) : Property.ofJson? p.toJson = some p := rfl

/-- A class is read back. -/
theorem DataClass.ofJson?_toJson (c : DataClass) : DataClass.ofJson? c.toJson = some c := by
  have hproperties : DataClass.propertiesOfJson? (.array (c.properties.map Property.toJson)) =
      some c.properties := mapM_map_eq_some Property.ofJson?_toJson c.properties
  have hrecord : c.toJson.record? DataClass.keys =
      some [some (.ofText c.name), some (.array (c.properties.map Property.toJson))] := rfl
  rw [DataClass.ofJson?, hrecord]
  simp [required, Json.optional, hproperties, Value.ofText, Value.text?]

namespace Model

/-- A model is read back. -/
theorem ofJson?_toJson (m : Model) : ofJson? m.toJson = some m := by
  have hclasses : classesOfJson? (.array (m.classes.map DataClass.toJson)) = some m.classes :=
    mapM_map_eq_some DataClass.ofJson?_toJson m.classes
  have hrecord : m.toJson.record? keys = some [some (.array (m.classes.map DataClass.toJson))] := rfl
  rw [ofJson?, hrecord]
  simp [required, hclasses]

/-- There are no numbers in the JSON of a model. -/
theorem areNumbers_toJson (m : Model) : AreNumbers m.toJson.tokens := by
  simp [toJson, DataClass.toJson, Property.toJson, areNumbers_object, areNumbers_array, areNumbers_ofText]

/-- A printed model is read back, with any gaps behind it. -/
theorem parse?_print (m : Model) {gaps : Text} (hgaps : gaps.all Json.isGap = true) :
    parse? (m.print ++ gaps) = some m := by
  rw [parse?, print, Value.parse?_pretty m.areNumbers_toJson hgaps, Option.bind_some, ofJson?_toJson]

end Model

/-! ## Two steps -/

/-- A source that is not blank has a model. -/
theorem modelOf_eq_ok {source : Text} (h : ∃ c ∈ source, isBlank c = false) :
    (modelOf source).value = .ok (read source).value := by
  have hblank := not_allBlank h
  unfold modelOf
  rw [hblank]
  rfl

/-- The model of an input is printed on a line of its own, and nothing else is done. -/
theorem run_printModel {env : Environment} {input : Option Text} {s next : Session} {source : Text}
    {m : Model} (hread : (readInput env input).run.run s = (.ok source, next))
    (hmodel : (modelOf source).value = .ok m) :
    (printModel env input).run.run s =
      (.ok (), { next with output := next.output ++ m.print ++ ['\n'] }) := by
  rw [printModel, run_bind]
  simp only [hread, hmodel]
  rfl

/-- The interfaces of a printed model are those of the model. -/
theorem interfacesOf_print (options : Options) (m : Model) {gaps : Text}
    (hgaps : gaps.all Json.isGap = true) :
    interfacesOf options true (m.print ++ gaps) = (m.interfaces options).value.mapError .conversion := by
  simp only [interfacesOf, if_true, m.parse?_print hgaps]

/-- A printed model is read back, with any gaps behind it.  For a source that is not blank, what its model is
printed as is thus converted, with all options, just as the source itself: with the same text, or with the
same error. -/
theorem printed_model_converts :
    (∀ (m : Model) (gaps : Text), gaps.all Json.isGap = true → Model.parse? (m.print ++ gaps) = some m) ∧
    ∀ source : Text, (∃ c ∈ source, isBlank c = false) →
      ∃ m, (modelOf source).value = .ok m ∧
        (∀ (env : Environment) (input : Option Text) (s next : Session),
          (readInput env input).run.run s = (.ok source, next) →
            (printModel env input).run.run s =
              (.ok (), { next with output := next.output ++ m.print ++ ['\n'] })) ∧
        ∀ (options : Options) (gaps : Text), gaps.all Json.isGap = true →
          (m.interfaces options).value = (convert options source).value ∧
            interfacesOf options true (m.print ++ gaps) = interfacesOf options false source := by
  refine ⟨fun m gaps hgaps => m.parse?_print hgaps, ?_⟩
  intro source hsource
  have hmodel := modelOf_eq_ok hsource
  refine ⟨(read source).value, hmodel, ?_, ?_⟩
  · intro env input s next hread
    exact run_printModel hread hmodel
  · intro options gaps hgaps
    have hconvert := value_convert hsource options
    refine ⟨hconvert.symm, ?_⟩
    rw [interfacesOf_print options _ hgaps, ← hconvert]
    rfl

end InterfaceGen
