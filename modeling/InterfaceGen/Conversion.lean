import InterfaceGen.Interface.Printer
import InterfaceGen.Source.Outline

/-!
# Conversion

A source is read into a model, and the model is printed as interfaces.  A source of blanks alone is
refused; one without classes has an empty result.

Main definitions:

- `modelOf`: the model of a source that is not blank.
- `convert`: the interfaces of a source.
-/

namespace InterfaceGen

/-- The model of a source; a source of blanks alone is refused. -/
def modelOf (source : Text) : Logged (Except ConversionError Model) := do
  if Text.allBlank source then return .error .blankSource
  else return .ok (← Source.read source)

/-- The interfaces of a source. -/
def convert (options : Options) (source : Text) : Logged (Except ConversionError Text) := do
  Logged.report (.conversionStarts (Text.byteSize source))
  match ← modelOf source with
  | .error e => return .error e
  | .ok model => model.interfaces options

end InterfaceGen
