/-!
# Text

Text is handled as the list of its characters, so that every function on it recurses on the data.
Positions in a text count UTF-8 bytes.

Main definitions:

- `Text.pieces`: a text cut at every character that satisfies a test.
- `Text.slice?`: the part of a text between two byte positions.
- `Text.ofNat`, `Text.toNat?`: decimal numbers.

Main results:

- Theorem `pieces_ne_nil` and `not_of_mem_pieces`: there is always a piece, and none holds a character at
  which the text is cut.
- Theorem `pieces_append_cons`: the pieces around a character at which a text is cut.
- Theorem `takeWhile_dropWhile_run`: a run of characters is taken up to where it ends.
- Theorem `slice?_append`: a part of a text is found at its byte positions.
- Theorem `toNat?_ofNat`: a number is read back from its digits.
-/

namespace InterfaceGen

/-- A text is the list of its characters. -/
abbrev Text := List Char

namespace Text

/-! ## Pieces -/

/-- The parts of a text between the characters that satisfy `cut`; there is always at least one. -/
def pieces (cut : Char → Bool) : Text → List Text
  | [] => [[]]
  | c :: rest => if cut c then [] :: pieces cut rest else (pieces cut rest).modifyHead (c :: ·)

/-- A text always has a piece. -/
theorem pieces_ne_nil (cut : Char → Bool) (t : Text) : pieces cut t ≠ [] := by
  induction t with
  | nil => simp [pieces]
  | cons c rest ih =>
    by_cases hc : cut c
    · simp [pieces, hc]
    · obtain ⟨piece, more, hpieces⟩ := List.exists_cons_of_ne_nil ih
      simp [pieces, hc, hpieces]

/-- The characters of a piece are characters of the text, and it is cut at none of them. -/
theorem of_mem_pieces {cut : Char → Bool} {t piece : Text} (h : piece ∈ pieces cut t) :
    ∀ c ∈ piece, c ∈ t ∧ cut c = false := by
  induction t generalizing piece with
  | nil =>
    have : piece = [] := by simpa [pieces] using h
    simp [this]
  | cons c rest ih =>
    have hrest : ∀ p ∈ pieces cut rest, ∀ d ∈ p, d ∈ c :: rest ∧ cut d = false := fun p hp d hd =>
      (ih hp d hd).imp_left (List.mem_cons_of_mem c)
    obtain ⟨first, more, hpieces⟩ := List.exists_cons_of_ne_nil (pieces_ne_nil cut rest)
    by_cases hc : cut c
    · simp only [pieces, hc, if_true] at h
      rcases List.mem_cons.1 h with rfl | h
      · simp
      · exact hrest piece h
    · simp only [pieces, hc, hpieces, List.modifyHead_cons] at h
      rcases List.mem_cons.1 h with rfl | h
      · intro d hd
        rcases List.mem_cons.1 hd with rfl | hd
        · exact ⟨List.mem_cons_self, by simpa using hc⟩
        · exact hrest first (by simp [hpieces]) d hd
      · exact hrest piece (by simp [hpieces, h])

/-- No piece holds a character at which the text is cut. -/
theorem not_of_mem_pieces {cut : Char → Bool} {t piece : Text} (h : piece ∈ pieces cut t) :
    ∀ c ∈ piece, cut c = false :=
  fun c hc => (of_mem_pieces h c hc).2

/-- A text without a character at which it is cut is one piece. -/
theorem pieces_of_uncut {cut : Char → Bool} {t : Text} (h : ∀ c ∈ t, cut c = false) :
    pieces cut t = [t] := by
  induction t with
  | nil => rfl
  | cons c rest ih =>
    have hrest : pieces cut rest = [rest] := ih fun d hd => h d (List.mem_cons_of_mem c hd)
    simp [pieces, h c List.mem_cons_self, hrest]

/-- A text falls into the pieces before and those after a character at which it is cut. -/
theorem pieces_append_cons {cut : Char → Bool} {c : Char} (hc : cut c = true) (before after : Text) :
    pieces cut (before ++ c :: after) = pieces cut before ++ pieces cut after := by
  induction before with
  | nil => simp [pieces, hc]
  | cons d rest ih =>
    obtain ⟨first, more, hpieces⟩ := List.exists_cons_of_ne_nil (pieces_ne_nil cut rest)
    by_cases hd : cut d
    · simp [pieces, hd, ih]
    · simp [pieces, hd, ih, hpieces]

/-! ## Runs -/

/-- A run of characters is taken from a text up to what does not continue it. -/
theorem takeWhile_dropWhile_run {p : Char → Bool} {run after : Text} (hrun : ∀ c ∈ run, p c = true)
    (hafter : ∀ c, after.head? = some c → p c = false) :
    (run ++ after).takeWhile p = run ∧ (run ++ after).dropWhile p = after := by
  rw [List.takeWhile_append_of_pos hrun, List.dropWhile_append_of_pos hrun]
  cases after with
  | nil => simp
  | cons c rest => simp [hafter c rfl]

/-! ## Byte positions -/

/-- The number of bytes a text takes in UTF-8. -/
def byteSize : Text → Nat
  | [] => 0
  | c :: rest => c.utf8Size + byteSize rest

/-- The text after its first `n` bytes; none when that place is inside a character or past the end. -/
def dropBytes? : Nat → Text → Option Text
  | 0, t => some t
  | _ + 1, [] => none
  | n + 1, c :: rest => if c.utf8Size ≤ n + 1 then dropBytes? (n + 1 - c.utf8Size) rest else none

/-- The first `n` bytes of a text; none when they end inside a character or past the end. -/
def takeBytes? : Nat → Text → Option Text
  | 0, _ => some []
  | _ + 1, [] => none
  | n + 1, c :: rest =>
    if c.utf8Size ≤ n + 1 then (takeBytes? (n + 1 - c.utf8Size) rest).map (c :: ·) else none

/-- The part of a text from byte `start` up to byte `stop`; none when either is no character boundary
of the text or they are in the wrong order. -/
def slice? (t : Text) (start stop : Nat) : Option Text :=
  if start ≤ stop then (dropBytes? start t).bind (takeBytes? (stop - start)) else none

/-- Bytes add up along a text. -/
theorem byteSize_append (t u : Text) : byteSize (t ++ u) = byteSize t + byteSize u := by
  induction t with
  | nil => simp [byteSize]
  | cons c rest ih => simp [byteSize, ih, Nat.add_assoc]

/-- The bytes of a character are dropped with the character. -/
theorem dropBytes?_cons (c : Char) (rest : Text) (n : Nat) :
    dropBytes? (c.utf8Size + n) (c :: rest) = dropBytes? n rest := by
  obtain ⟨size, hsize⟩ := Nat.exists_eq_add_one.2 c.utf8Size_pos
  have hsum : c.utf8Size + n = size + n + 1 := by omega
  have hsub : size + n + 1 - c.utf8Size = n := by omega
  rw [hsum, dropBytes?, if_pos (by omega), hsub]

/-- The bytes of a character are taken with the character. -/
theorem takeBytes?_cons (c : Char) (rest : Text) (n : Nat) :
    takeBytes? (c.utf8Size + n) (c :: rest) = (takeBytes? n rest).map (c :: ·) := by
  obtain ⟨size, hsize⟩ := Nat.exists_eq_add_one.2 c.utf8Size_pos
  have hsum : c.utf8Size + n = size + n + 1 := by omega
  have hsub : size + n + 1 - c.utf8Size = n := by omega
  rw [hsum, takeBytes?, if_pos (by omega), hsub]

/-- The bytes of a text are dropped with the text. -/
theorem dropBytes?_append (t u : Text) : dropBytes? (byteSize t) (t ++ u) = some u := by
  induction t with
  | nil => simp [byteSize, dropBytes?]
  | cons c rest ih => rw [byteSize, List.cons_append, dropBytes?_cons, ih]

/-- The bytes of a text are taken with the text. -/
theorem takeBytes?_append (t u : Text) : takeBytes? (byteSize t) (t ++ u) = some t := by
  induction t with
  | nil => simp [byteSize, takeBytes?]
  | cons c rest ih => rw [byteSize, List.cons_append, takeBytes?_cons, ih, Option.map_some]

/-- The part of a text between two others is cut out at its bytes. -/
theorem slice?_append (before t after : Text) :
    slice? (before ++ (t ++ after)) (byteSize before) (byteSize before + byteSize t) = some t := by
  rw [slice?, if_pos (Nat.le_add_right _ _), dropBytes?_append, Option.bind_some,
    Nat.add_sub_cancel_left, takeBytes?_append]

/-- The part of a text between two others is cut out at the bytes where it begins and where it ends. -/
theorem slice?_of_eq {whole before t after : Text} {start stop : Nat} (hwhole : whole = before ++ (t ++ after))
    (hstart : byteSize before = start) (hstop : byteSize (before ++ t) = stop) :
    slice? whole start stop = some t := by
  rw [hwhole, ← hstart, ← hstop, byteSize_append]
  exact slice?_append before t after

/-! ## Decimal numbers -/

/-- The decimal digits of a number. -/
def ofNat (n : Nat) : Text :=
  Nat.toDigits 10 n

/-- The number that a non-empty text of decimal digits stands for. -/
def toNat? (t : Text) : Option Nat :=
  if !t.isEmpty && t.all Char.isDigit then some (Nat.ofDigitChars 10 t 0) else none

/-- A number is read back from its digits. -/
theorem toNat?_ofNat (n : Nat) : toNat? (ofNat n) = some n := by
  have hdigits : (ofNat n).all Char.isDigit = true := by
    rw [List.all_eq_true]
    intro c hc
    exact Nat.isDigit_of_mem_toDigits (by decide) (by decide) hc
  have hne : ofNat n ≠ [] := Nat.toDigits_ne_nil
  have hread : Nat.ofDigitChars 10 (ofNat n) 0 = n := Nat.ofDigitChars_toDigits (by decide) (by decide)
  simp [toNat?, hdigits, hne, hread]

end Text

end InterfaceGen
