import InterfaceGen.Proofs.Json.RoundTrip
import InterfaceGen.Proofs.Results
import InterfaceGen.Settings.Json
import Mathlib.Data.List.Basic
import Mathlib.Data.List.TakeWhile

/-!
# Printed settings

Settings are read back from what they are printed as, whatever their names, texts and numbers are.  Additions
to the vocabulary that are not printed, as there are none, are the defaults that are read then.

Main results:

- Theorem `isNumber_ofNat`: the digits of a number are a number in JSON.
- Theorem `record?_toJson`: the values of all settings in their JSON.
- Theorem `scalars?_object`: the further scalars that an object describes.
- Theorem `Settings.parse?_print_append` and `Settings.parse?_print`: printed settings are read back, with any
  gaps behind them.
-/

namespace InterfaceGen

open Text Json

/-! ## Numbers -/

/-- The digits of a number do not begin with a zero, unless it is zero. -/
theorem head?_ofNat_ne_zero {n : Nat} (h : 0 < n) : (ofNat n).head? ≠ some '0' := by
  induction n using Nat.strongRecOn with
  | ind n ih =>
    unfold ofNat at ih ⊢
    by_cases hsmall : n < 10
    · have hdigits : ∀ d < 10, 0 < d → d.digitChar ≠ '0' := by decide
      rw [Nat.toDigits_of_lt_base hsmall, List.head?_cons, ne_eq, Option.some.injEq]
      exact hdigits n hsmall h
    · have hfirst := ih (n / 10) (by omega) (by omega)
      rwa [Nat.toDigits_of_base_le (by omega) (by omega), List.head?_append_of_ne_nil _ Nat.toDigits_ne_nil]

/-- The digits of a number are a number in JSON. -/
theorem isNumber_ofNat (n : Nat) : isNumber (ofNat n) = true := by
  have hdigits : ∀ c ∈ ofNat n, c.isDigit = true := fun c hc =>
    Nat.isDigit_of_mem_toDigits (by decide) (by decide) hc
  have htake : (ofNat n).takeWhile Char.isDigit = ofNat n := List.takeWhile_eq_self_iff.2 hdigits
  have hdrop : (ofNat n).dropWhile Char.isDigit = [] := List.dropWhile_eq_nil_iff.2 hdigits
  have hinteger : isInteger (ofNat n) = true := by
    by_cases hzero : n = 0
    · subst hzero
      rfl
    · have hhead := head?_ofNat_ne_zero (Nat.pos_of_ne_zero hzero)
      unfold isInteger
      split
      · next hnil => exact absurd hnil Nat.toDigits_ne_nil
      · next rest hcons => exact absurd (congrArg List.head? hcons) hhead
      · rfl
  have hunsigned : isNumber (ofNat n) = (isInteger ((ofNat n).takeWhile Char.isDigit) &&
      isFraction ((ofNat n).dropWhile Char.isDigit)) := by
    unfold isNumber
    split
    · next rest heq =>
      have hminus := hdigits '-' (by rw [heq]; exact List.mem_cons_self)
      exact absurd hminus (by decide)
    · rfl
  rw [hunsigned, htake, hdrop, hinteger]
  rfl

/-! ## Settings in JSON -/

namespace Settings

variable (s : Settings)

/-- The value of the further scalars, if it is printed. -/
def scalarsField : Option Value :=
  if s.scalarTypes.isEmpty then none
  else some (.object (s.scalarTypes.entries.map fun entry => (some entry.1, .ofText entry.2)))

/-- The value of the further collections, if it is printed. -/
def collectionsField : Option Value :=
  if s.collectionTypes.isEmpty then none else some (.array (s.collectionTypes.map .ofText))

/-- The values of all settings in their JSON. -/
theorem record?_toJson : s.toJson.record? keys =
    some [some (.ofText s.sourceDir), some (.ofText s.outputDir),
      some (.number (ofNat s.indentWidth.toNat)), some (.bool s.exported), some (.bool s.isStrict),
      s.scalarsField, s.collectionsField] := by
  unfold toJson scalarsField collectionsField
  cases s.scalarTypes.isEmpty <;> cases s.collectionTypes.isEmpty <;> rfl

/-- The width is read back, as it is a number of 64 bits. -/
theorem width?_ofNat (width : UInt64) : width? (.number (ofNat width.toNat)) = some width := by
  have hnat : Value.nat? (.number (ofNat width.toNat)) = some width.toNat := toNat?_ofNat _
  rw [width?, hnat]
  simp [UInt64.toNat_lt_size]

/-- The scalar that a member describes. -/
def scalarOf? (member : Option Text × Value) : Option (Text × Text) := do
  return (← member.1, ← member.2.text?)

/-- The further scalars that an object describes are those of its members. -/
theorem scalars?_object (members : List (Option Text × Value)) :
    scalars? (.object members) = (members.mapM scalarOf?).map .ofList := by
  change (members.mapM scalarOf?).bind (fun entries => some (SortedMap.ofList entries)) = _
  cases members.mapM scalarOf? <;> rfl

/-- Further scalars are read back, and there are none where none are printed. -/
theorem optional_scalarsField : optional .empty scalars? s.scalarsField = some s.scalarTypes := by
  unfold scalarsField
  by_cases hempty : s.scalarTypes.isEmpty = true
  · rw [if_pos hempty]
    refine congrArg some (SortedMap.eq_of_perm ?_)
    rw [List.isEmpty_iff.1 hempty]
    exact .refl _
  · rw [if_neg hempty]
    have hmembers : (s.scalarTypes.entries.map fun entry => (some entry.1, .ofText entry.2)).mapM scalarOf? =
        some s.scalarTypes.entries := by
      apply mapM_map_eq_some
      exact fun _ => rfl
    rw [Json.optional, scalars?_object, hmembers, Option.map_some, SortedMap.ofList_entries]

/-- Further collections are read back, and there are none where none are printed. -/
theorem optional_collectionsField : optional [] collections? s.collectionsField = some s.collectionTypes := by
  unfold collectionsField
  by_cases hempty : s.collectionTypes.isEmpty = true
  · rw [if_pos hempty, List.isEmpty_iff.1 hempty]
    rfl
  · rw [if_neg hempty]
    exact mapM_map_eq_some (fun _ => rfl : ∀ t, (Value.ofText t).text? = some t) s.collectionTypes

/-- Settings are read back. -/
theorem ofJson?_toJson : ofJson? s.toJson = some s := by
  have hscalars := s.optional_scalarsField
  have hcollections := s.optional_collectionsField
  have hwidth : optional 4 width? (some (.number (ofNat s.indentWidth.toNat))) = _ :=
    width?_ofNat s.indentWidth
  rw [ofJson?, record?_toJson]
  simp only [bind, Option.bind, hwidth, hscalars, hcollections]
  rfl

/-- The one number in the JSON of settings is spelled by its digits. -/
theorem areNumbers_toJson : AreNumbers s.toJson.tokens := by
  have hwidth : AreNumbers (Value.number (ofNat s.indentWidth.toNat)).tokens := by
    intro literal hmem
    obtain rfl := Token.number.inj (List.mem_singleton.1 hmem)
    exact isNumber_ofNat _
  have hscalars : AreNumbers
      (Value.object (s.scalarTypes.entries.map fun entry => (some entry.1, .ofText entry.2))).tokens := by
    refine (areNumbers_object _).2 fun member hmem => ?_
    obtain ⟨entry, -, rfl⟩ := List.mem_map.1 hmem
    exact areNumbers_ofText entry.2
  have hcollections : AreNumbers (Value.array (s.collectionTypes.map .ofText)).tokens := by
    refine (areNumbers_array _).2 fun item hmem => ?_
    obtain ⟨name, -, rfl⟩ := List.mem_map.1 hmem
    exact areNumbers_ofText name
  have hbool : ∀ b, AreNumbers (Value.bool b).tokens := fun b => areNumbers_of_notMem (by simp [Value.tokens])
  refine (areNumbers_object _).2 fun member hmem => ?_
  simp only [List.mem_append, List.mem_cons, List.not_mem_nil, or_false] at hmem
  rcases hmem with ((rfl | rfl | rfl | rfl | rfl) | hmem) | hmem
  · exact areNumbers_ofText _
  · exact areNumbers_ofText _
  · exact hwidth
  · exact hbool _
  · exact hbool _
  · split at hmem
    · cases hmem
    · rwa [List.mem_singleton.1 hmem]
  · split at hmem
    · cases hmem
    · rwa [List.mem_singleton.1 hmem]

/-- Printed settings are read back, with any gaps behind them. -/
theorem parse?_print_append {gaps : Text} (hgaps : gaps.all Json.isGap = true) :
    parse? (s.print ++ gaps) = some s := by
  rw [parse?, print, Value.parse?_pretty s.areNumbers_toJson hgaps, Option.bind_some, ofJson?_toJson]

/-- Printed settings are read back. -/
theorem parse?_print : parse? s.print = some s := by
  have hparse : parse? (s.print ++ []) = some s := s.parse?_print_append rfl
  rwa [List.append_nil] at hparse

end Settings

end InterfaceGen
