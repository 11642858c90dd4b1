import InterfaceGen.Text.Basic
import Mathlib.Data.Char
import Mathlib.Data.List.Basic
import Mathlib.Order.Compare

/-!
# The order of texts by their bytes

Texts are compared character by character, and characters by their codes.  In UTF-8 the bytes of a character
come before those of every character with a greater code, at the first byte where they differ.  So two texts
compare as their bytes do.

Main definitions:

- `utf8`: the bytes of a text.
- `Precedes`: bytes that come before others.

Main results:

- Theorem `precedes_utf8EncodeChar`: the bytes of a character come before those of a greater one.
- Theorem `compare_utf8`: texts compare as their bytes do.
-/

namespace InterfaceGen.Text

/-- The bytes of a text in UTF-8. -/
def utf8 (t : Text) : List UInt8 :=
  t.flatMap String.utf8EncodeChar

/-! ## Bytes -/

/-- Some bytes come before others: they have a smaller one at the first place where they differ. -/
inductive Precedes : List UInt8 → List UInt8 → Prop
  | here {a b : UInt8} (h : a < b) (u v : List UInt8) : Precedes (a :: u) (b :: v)
  | later (a : UInt8) {u v : List UInt8} (h : Precedes u v) : Precedes (a :: u) (a :: v)

/-- What follows has no bearing on which bytes come first. -/
theorem Precedes.append {u v : List UInt8} (h : Precedes u v) (s t : List UInt8) :
    Precedes (u ++ s) (v ++ t) := by
  induction h with
  | here hlt u v => exact .here hlt _ _
  | later a _ ih => exact .later a ih

/-- Bytes that come before others are smaller. -/
theorem Precedes.compare_eq {u v : List UInt8} (h : Precedes u v) : compare u v = .lt := by
  induction h with
  | here hlt u v =>
    rw [List.compare_cons_cons, Std.compare_eq_lt.2 hlt]
    rfl
  | later a _ ih =>
    rw [List.compare_cons_cons, Std.compare_self, ih]
    rfl

/-- Bytes in common have no bearing on which bytes come first. -/
theorem compare_append_left (u s t : List UInt8) : compare (u ++ s) (u ++ t) = compare s t := by
  induction u with
  | nil => rfl
  | cons a rest ih =>
    rw [List.cons_append, List.cons_append, List.compare_cons_cons, Std.compare_self, ih]
    rfl

/-- Bytes by their numbers: the first that differs decides. -/
theorem Precedes.ofNat {a b : Nat} (ha : a < 256) (hb : b < 256) {u v : List UInt8}
    (h : a < b ∨ a = b ∧ Precedes u v) : Precedes (UInt8.ofNat a :: u) (UInt8.ofNat b :: v) := by
  rcases h with hlt | ⟨rfl, hlater⟩
  · exact .here ((UInt8.ofNat_lt_iff_lt ha hb).2 hlt) u v
  · exact .later _ hlater

/-! ## Characters -/

section Continuation

variable {m n : Nat}

/-- The last byte of a code, after bytes that are equal. -/
theorem precedes_one (h : m % 64 < n % 64) :
    Precedes [UInt8.ofNat (m % 64 + 128)] [UInt8.ofNat (n % 64 + 128)] :=
  .ofNat (by omega) (by omega) (.inl (by omega))

/-- The last two bytes of a code, after bytes that are equal. -/
theorem precedes_two (h : m % 4096 < n % 4096) :
    Precedes [UInt8.ofNat (m / 64 % 64 + 128), UInt8.ofNat (m % 64 + 128)]
      [UInt8.ofNat (n / 64 % 64 + 128), UInt8.ofNat (n % 64 + 128)] := by
  refine .ofNat (by omega) (by omega) ?_
  rcases Nat.lt_or_ge (m / 64 % 64) (n / 64 % 64) with hfirst | hfirst
  · exact .inl (by omega)
  · exact .inr ⟨by omega, precedes_one (by omega)⟩

/-- The last three bytes of a code, after a byte that is equal. -/
theorem precedes_three (h : m % 262144 < n % 262144) :
    Precedes
      [UInt8.ofNat (m / 4096 % 64 + 128), UInt8.ofNat (m / 64 % 64 + 128), UInt8.ofNat (m % 64 + 128)]
      [UInt8.ofNat (n / 4096 % 64 + 128), UInt8.ofNat (n / 64 % 64 + 128), UInt8.ofNat (n % 64 + 128)] := by
  refine .ofNat (by omega) (by omega) ?_
  rcases Nat.lt_or_ge (m / 4096 % 64) (n / 4096 % 64) with hfirst | hfirst
  · exact .inl (by omega)
  · exact .inr ⟨by omega, precedes_two (by omega)⟩

end Continuation

/-- The codes of characters end below 2097152, so that four bytes are enough. -/
theorem toNat_val_lt (c : Char) : c.val.toNat < 2097152 := by
  rcases c.valid with h | ⟨-, h⟩ <;> omega

/-- The bytes of a character come before those of a greater one. -/
theorem precedes_utf8EncodeChar {c d : Char} (h : c < d) :
    Precedes (String.utf8EncodeChar c) (String.utf8EncodeChar d) := by
  have hlt : c.val.toNat < d.val.toNat := h
  have hd := toNat_val_lt d
  unfold String.utf8EncodeChar
  generalize c.val.toNat = m at hlt
  generalize d.val.toNat = n at hlt hd
  dsimp only
  -- The fewer bytes a code has, the smaller is the first of them; as many bytes are compared in order.
  split_ifs with hm₁ hn₁ hn₂ hn₃ hm₂ hn₁ hn₂ hn₃ hm₃ hn₁ hn₂ hn₃ hn₁ hn₂ hn₃
  all_goals first | omega | refine .ofNat (by omega) (by omega) ?_
  · exact .inl hlt
  · exact .inl (by omega)
  · exact .inl (by omega)
  · exact .inl (by omega)
  · rcases Nat.lt_or_ge (m / 64) (n / 64) with hfirst | hfirst
    · exact .inl (by omega)
    · exact .inr ⟨by omega, precedes_one (by omega)⟩
  · exact .inl (by omega)
  · exact .inl (by omega)
  · rcases Nat.lt_or_ge (m / 4096) (n / 4096) with hfirst | hfirst
    · exact .inl (by omega)
    · exact .inr ⟨by omega, precedes_two (by omega)⟩
  · exact .inl (by omega)
  · rcases Nat.lt_or_ge (m / 262144) (n / 262144) with hfirst | hfirst
    · exact .inl (by omega)
    · exact .inr ⟨by omega, precedes_three (by omega)⟩

/-! ## Texts -/

/-- A text that is not empty has bytes. -/
theorem exists_utf8_cons (c : Char) (t : Text) : ∃ a u, utf8 (c :: t) = a :: u := by
  have hlength : (utf8 (c :: t)).length ≠ 0 := by
    have hsize := Char.utf8Size_pos c
    simp only [utf8, List.flatMap_cons, List.length_append, String.length_utf8EncodeChar]
    omega
  exact List.exists_cons_of_length_pos (Nat.pos_of_ne_zero hlength)

/-- The bytes of a text come before those of another one that has a greater character at the beginning. -/
theorem compare_utf8_of_lt {c d : Char} (h : c < d) (s t : Text) :
    compare (utf8 (c :: s)) (utf8 (d :: t)) = .lt :=
  ((precedes_utf8EncodeChar h).append (utf8 s) (utf8 t)).compare_eq

/-- Texts compare as their bytes do. -/
theorem compare_utf8 (s t : Text) : compare (utf8 s) (utf8 t) = compare s t := by
  induction s generalizing t with
  | nil =>
    cases t with
    | nil => rfl
    | cons d t =>
      obtain ⟨a, u, heq⟩ := exists_utf8_cons d t
      rw [heq]
      rfl
  | cons c s ih =>
    cases t with
    | nil =>
      obtain ⟨a, u, heq⟩ := exists_utf8_cons c s
      rw [heq]
      rfl
    | cons d t =>
      rw [List.compare_cons_cons]
      rcases lt_trichotomy c d with hlt | rfl | hgt
      · have hchar : compare c d = .lt := compareOfLessAndEq_eq_lt.2 hlt
        rw [compare_utf8_of_lt hlt, hchar]
        rfl
      · rw [Std.compare_self, ← ih]
        exact compare_append_left _ _ _
      · have hchar : compare d c = .lt := compareOfLessAndEq_eq_lt.2 hgt
        rw [Std.OrientedCmp.gt_of_lt (compare_utf8_of_lt hgt t s), Std.OrientedCmp.gt_of_lt hchar]
        rfl

end InterfaceGen.Text
