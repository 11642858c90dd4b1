import InterfaceGen.Text.Ranges

/-!
# Blank characters

The Unicode property `White_Space`, and what is done to a text by it: trimming and cutting into words.

Main definitions:

- `trim`, `trimEnd`: a text without the blanks around it, or after it.
- `words`: the non-empty runs of characters that are not blank.

Main results:

- Theorem `ne_nil_of_mem_words` and `not_blank_of_mem_words`: a word is not empty and holds no blank.
- Theorem `words_append_cons`: the words of a text are those before and after any of its blanks.
- Theorem `trim_eq_self`: a text that neither begins nor ends with a blank is trimmed already.
- Theorem `trim_isInfix` and `trim_trim`: a trimmed text is a part of the text, and is trimmed only once.
-/

namespace InterfaceGen.Text

/-- Code points with the property `White_Space`. -/
def blankRanges : List (Nat × Nat) :=
  [(0x9, 0xD), (0x20, 0x20), (0x85, 0x85), (0xA0, 0xA0), (0x1680, 0x1680), (0x2000, 0x200A),
   (0x2028, 0x2029), (0x202F, 0x202F), (0x205F, 0x205F), (0x3000, 0x3000)]

/-- Whether a character is blank. -/
def isBlank (c : Char) : Bool :=
  inRanges blankRanges c.toNat

/-! ## Trimming -/

/-- A text without the blanks it begins with. -/
def trimStart (t : Text) : Text :=
  t.dropWhile isBlank

/-- A text without the blanks it ends with. -/
def trimEnd (t : Text) : Text :=
  (t.reverse.dropWhile isBlank).reverse

/-- A text without the blanks around it. -/
def trim (t : Text) : Text :=
  trimEnd (trimStart t)

/-- Whether a text holds nothing but blanks. -/
def allBlank (t : Text) : Bool :=
  (trim t).isEmpty

/-- A blank at the end of a text is trimmed. -/
theorem trimEnd_concat_of_blank {c : Char} (h : isBlank c = true) (t : Text) :
    trimEnd (t ++ [c]) = trimEnd t := by
  rw [trimEnd, List.reverse_concat, List.dropWhile_cons_of_pos h, trimEnd]

/-- Nothing is trimmed behind a character that is not blank. -/
theorem trimEnd_concat {c : Char} (h : isBlank c = false) (t : Text) :
    trimEnd (t ++ [c]) = t ++ [c] := by
  rw [trimEnd, List.reverse_concat, List.dropWhile_cons_of_neg (by simp [h]), List.reverse_cons,
    List.reverse_reverse]

/-- A text that begins and ends with characters that are not blank is trimmed already. -/
theorem trim_eq_self {t : Text} (hhead : ∀ c, t.head? = some c → isBlank c = false)
    (hlast : ∀ c, t.getLast? = some c → isBlank c = false) : trim t = t := by
  have hstart : trimStart t = t := by
    cases t with
    | nil => rfl
    | cons c rest =>
      have hc : isBlank c = false := hhead c rfl
      exact List.dropWhile_cons_of_neg (by simp [hc])
  rw [trim, hstart]
  rcases List.eq_nil_or_concat t with rfl | ⟨init, c, rfl⟩
  · rfl
  · rw [List.concat_eq_append] at hlast ⊢
    exact trimEnd_concat (hlast c List.getLast?_concat) init

/-- A text without blanks is trimmed already. -/
theorem trim_of_not_blank {t : Text} (h : ∀ c ∈ t, isBlank c = false) : trim t = t :=
  trim_eq_self (fun c hc => h c (List.mem_of_mem_head? hc)) fun c hc => h c (List.mem_of_mem_getLast? hc)

/-- What is trimmed at the end of a text leaves a beginning of it. -/
theorem trimEnd_isPrefix (t : Text) : trimEnd t <+: t := by
  have hsuffix : (t.reverse.dropWhile isBlank).reverse.reverse <:+ t.reverse := by
    rw [List.reverse_reverse]
    exact List.dropWhile_suffix isBlank
  exact List.reverse_suffix.1 hsuffix

/-- A trimmed text is a part of the text. -/
theorem trim_isInfix (t : Text) : trim t <:+: t :=
  (trimEnd_isPrefix (trimStart t)).isInfix.trans (List.dropWhile_suffix isBlank).isInfix

/-- No trimmed text begins with a blank. -/
theorem not_blank_head_trim {t : Text} {c : Char} (h : (trim t).head? = some c) : isBlank c = false := by
  obtain ⟨rest, htrim⟩ := List.head?_eq_some_iff.1 h
  obtain ⟨after, hstart⟩ := trimEnd_isPrefix (trimStart t)
  have hhead : (t.dropWhile isBlank).head? = some c := by
    change (trimStart t).head? = some c
    rw [← hstart, ← trim, htrim]
    rfl
  have hnot := List.head?_dropWhile_not isBlank t
  rw [hhead] at hnot
  exact hnot

/-- No trimmed text ends with a blank. -/
theorem not_blank_last_trim {t : Text} {c : Char} (h : (trim t).getLast? = some c) : isBlank c = false := by
  rw [trim, trimEnd, List.getLast?_reverse] at h
  have hnot := List.head?_dropWhile_not isBlank (trimStart t).reverse
  rw [h] at hnot
  exact hnot

/-- Nothing more is trimmed from a trimmed text. -/
theorem trim_trim (t : Text) : trim (trim t) = trim t :=
  trim_eq_self (fun _ => not_blank_head_trim) fun _ => not_blank_last_trim

/-- A character that fails the test stays when the characters that pass it are dropped from the start. -/
theorem mem_dropWhile {p : Char → Bool} {t : Text} {c : Char} (hc : c ∈ t) (h : p c = false) :
    c ∈ t.dropWhile p := by
  induction t with
  | nil => cases hc
  | cons d rest ih =>
    by_cases hd : p d = true
    · rw [List.dropWhile_cons_of_pos hd]
      rcases List.mem_cons.1 hc with rfl | hc
      · rw [h] at hd
        cases hd
      · exact ih hc
    · rwa [List.dropWhile_cons_of_neg hd]

/-- A text with a character that is not blank does not hold blanks only. -/
theorem not_allBlank {t : Text} (h : ∃ c ∈ t, isBlank c = false) : allBlank t = false := by
  obtain ⟨c, hc, hblank⟩ := h
  have hstart : c ∈ trimStart t := mem_dropWhile hc hblank
  have hend : c ∈ (trimStart t).reverse.dropWhile isBlank :=
    mem_dropWhile (List.mem_reverse.2 hstart) hblank
  have hne : trim t ≠ [] := List.ne_nil_of_mem (List.mem_reverse.2 hend)
  simpa [allBlank] using hne

/-! ## Words -/

/-- The words of a text: its parts between blanks, without the empty ones. -/
def words (t : Text) : List Text :=
  (pieces isBlank t).filter (!·.isEmpty)

/-- A word is not empty. -/
theorem ne_nil_of_mem_words {t word : Text} (h : word ∈ words t) : word ≠ [] := by
  simpa using (List.mem_filter.1 h).2

/-- A word holds no blank. -/
theorem not_blank_of_mem_words {t word : Text} (h : word ∈ words t) :
    ∀ c ∈ word, isBlank c = false :=
  not_of_mem_pieces (List.mem_filter.1 h).1

/-- The words of a text are those before and those after one of its blanks. -/
theorem words_append_cons {c : Char} (hc : isBlank c = true) (before after : Text) :
    words (before ++ c :: after) = words before ++ words after := by
  rw [words, pieces_append_cons hc, List.filter_append]
  rfl

/-- A text of blanks has no words. -/
theorem words_of_blank {t : Text} (h : ∀ c ∈ t, isBlank c = true) : words t = [] := by
  induction t with
  | nil => rfl
  | cons c rest ih =>
    have hstep := words_append_cons (h c List.mem_cons_self) [] rest
    rw [List.nil_append] at hstep
    rw [hstep, ih fun d hd => h d (List.mem_cons_of_mem c hd)]
    rfl

/-- A text without blanks that is not empty is one word. -/
theorem words_of_not_blank {t : Text} (hne : t ≠ []) (h : ∀ c ∈ t, isBlank c = false) :
    words t = [t] := by
  rw [words, pieces_of_uncut h]
  simp [hne]

end InterfaceGen.Text
