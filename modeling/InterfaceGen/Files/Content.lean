import InterfaceGen.Text.Basic

/-!
# File contents

A file holds text, encoded in UTF-8, or bytes that are no text.
-/

namespace InterfaceGen

/-- What a file holds: text, or bytes that are no text. -/
inductive Content where
  | text (t : Text)
  | binary (bytes : List UInt8)
deriving DecidableEq, Repr

namespace Content

/-- What bytes hold. -/
def ofBytes (bytes : ByteArray) : Content :=
  match String.fromUTF8? bytes with
  | some s => text s.toList
  | none => binary bytes.toList

/-- The bytes of what a file holds. -/
def toBytes : Content → ByteArray
  | text t => (String.ofList t).toUTF8
  | binary bytes => ⟨bytes.toArray⟩

end Content

end InterfaceGen
