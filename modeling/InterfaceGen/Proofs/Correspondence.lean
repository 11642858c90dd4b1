import Mathlib.Data.List.Basic
import Mathlib.Data.List.Perm.Basic
import Mathlib.Data.Option.Basic

/-!
# Results that correspond

Two computations that may fail correspond if both fail, or both succeed with values that correspond.

Main results:

- Theorem `rel_bind`: steps that correspond, one after the other.
- Theorem `mapM_eq_some_iff`: what is read from the elements of a list.
- Theorems `rel_mapM_of_perm` and `rel_mapM_of_mem`: elements in another order, or in another number.
-/

namespace InterfaceGen

/-! ## Steps -/

/-- Two results correspond if both are there or neither is, and their values correspond. -/
theorem rel_of_isSome {α β : Type} {R : α → β → Prop} {x : Option α} {y : Option β}
    (hsome : x.isSome = true ↔ y.isSome = true) (hvalues : ∀ a b, x = some a → y = some b → R a b) :
    Option.Rel R x y := by
  cases x with
  | none =>
    cases y with
    | none => exact .none
    | some b => exact absurd (hsome.2 rfl) Bool.false_ne_true
  | some a =>
    cases y with
    | none => exact absurd (hsome.1 rfl) Bool.false_ne_true
    | some b => exact .some (hvalues a b rfl rfl)

/-- Steps that correspond after results that correspond give results that correspond. -/
theorem rel_bind {α β γ δ : Type} {R : α → β → Prop} {S : γ → δ → Prop} {x : Option α} {y : Option β}
    {f : α → Option γ} {g : β → Option δ} (h : Option.Rel R x y)
    (hsteps : ∀ a b, R a b → Option.Rel S (f a) (g b)) : Option.Rel S (x >>= f) (y >>= g) := by
  cases h with
  | none => exact .none
  | some hab => exact hsteps _ _ hab

/-- The same results correspond as equal ones. -/
theorem rel_refl {α : Type} (x : Option α) : Option.Rel Eq x x := by
  cases x with
  | none => exact .none
  | some a => exact .some rfl

/-! ## Lists -/

/-- Values are read from all elements of a list if these are what reading gives. -/
theorem mapM_eq_some_iff {α β : Type} {f : α → Option β} {as : List α} {bs : List β} :
    as.mapM f = some bs ↔ as.map f = bs.map some := by
  induction as generalizing bs with
  | nil => cases bs <;> simp
  | cons a rest ih =>
    rw [List.mapM_cons, List.map_cons]
    cases bs with
    | nil => cases f a <;> cases rest.mapM f <;> simp
    | cons b more =>
      rw [List.map_cons, List.cons.injEq, ← ih]
      cases f a <;> cases rest.mapM f <;> simp

/-- Values are read from all elements of a list if one is read from each. -/
theorem isSome_mapM_iff {α β : Type} {f : α → Option β} {as : List α} :
    (as.mapM f).isSome = true ↔ ∀ a ∈ as, (f a).isSome = true := by
  induction as with
  | nil => simp
  | cons a rest ih =>
    rw [List.mapM_cons, List.forall_mem_cons, ← ih]
    cases f a <;> cases rest.mapM f <;> simp

/-- Elements in another order give values in another order. -/
theorem rel_mapM_of_perm {α β : Type} (f : α → Option β) {as as' : List α} (h : as.Perm as') :
    Option.Rel List.Perm (as.mapM f) (as'.mapM f) := by
  refine rel_of_isSome ?_ fun bs bs' hbs hbs' => ?_
  · simp only [isSome_mapM_iff, h.mem_iff]
  · have hmap := h.map f
    rw [mapM_eq_some_iff.1 hbs, mapM_eq_some_iff.1 hbs'] at hmap
    exact (List.map_perm_map_iff (Option.some_injective β)).1 hmap

/-- The same elements in any order and number give the same values. -/
theorem rel_mapM_of_mem {α β : Type} (f : α → Option β) {as as' : List α} (h : ∀ a, a ∈ as ↔ a ∈ as') :
    Option.Rel (fun bs bs' => ∀ b, b ∈ bs ↔ b ∈ bs') (as.mapM f) (as'.mapM f) := by
  refine rel_of_isSome ?_ fun bs bs' hbs hbs' b => ?_
  · simp only [isSome_mapM_iff, h]
  · rw [← List.mem_map_of_injective (Option.some_injective β), ← mapM_eq_some_iff.1 hbs,
      ← List.mem_map_of_injective (Option.some_injective β), ← mapM_eq_some_iff.1 hbs']
    simp only [List.mem_map, h]

end InterfaceGen
