import InterfaceGen.Proofs.Source.Classification

/-!
# Scanning a type by index

A property can be read from the lexemes of a line by index as well: the type is scanned from the second
lexeme on, the name is the lexeme where the scan ends, and the type is cut out of the line at bytes.  Here
every index and every byte position is checked, and reading fails if one of them is out of range.  On the
lexemes of a line it never fails, and reads what is read by splitting them; the lexemes are on boundaries of
characters, however many bytes these take.

Main definitions:

- `scanType?`: the index at which the scan of a type ends.
- `readByIndex?`: the property that a line declares, read by index.
- `ScannedType`: a type with the index at which its scan ends.

Main results:

- Theorem `scanType?_append`: from any index behind the first lexeme of a type, the scan ends behind the run of
  type parts that stands there.
- Theorem `start_ne_of_typeRun`: a run is as long as it can be.
- Theorem `readByIndex?_eq`: reading by index never fails, and gives the property of the line.
- Theorem `type_scan_stays_in_range`: where the scan of a type ends, and what it has found.
-/

namespace InterfaceGen.Source

open Text

/-! ## Reading by index -/

/-- The lexeme before an index; none if there is none. -/
def lexemeBefore? (lexemes : List Lexeme) : Nat → Option Lexeme
  | 0 => none
  | index + 1 => lexemes[index]?

/-- Whether a lexeme at an index goes on with a type: a type part at index 1, or behind that one without a gap.
None if the lexeme before it is looked at and is not there. -/
def goesOn? (lexemes : List Lexeme) (index : Nat) (lexeme : Lexeme) : Option Bool :=
  if index = 1 then some lexeme.token.fitsType
  else (lexemeBefore? lexemes index).map fun before =>
    lexeme.token.fitsType && before.stop == lexeme.start

/-- The index at which a type ends that is scanned from an index on; none if an index is out of range. -/
def scanType? (lexemes : List Lexeme) (index : Nat) : Option Nat :=
  match _there : lexemes[index]? with
  | none => some index
  | some lexeme => (goesOn? lexemes index lexeme).bind fun goesOn =>
      if goesOn then scanType? lexemes (index + 1) else some index
termination_by lexemes.length - index
decreasing_by
  have hindex := (List.getElem?_eq_some_iff.1 _there).1
  omega

/-- The lexemes from an index on; none if the index is behind the end. -/
def lexemesFrom? (lexemes : List Lexeme) (index : Nat) : Option (List Lexeme) :=
  if index ≤ lexemes.length then some (lexemes.drop index) else none

/-- What is read from a line by index: nothing, or a property.  None if an index or a byte is out of range, or
a byte is inside a character. -/
def readByIndex? (line : Text) (lexemes : List Lexeme) : Option (Option LineKind) :=
  match lexemes with
  | ⟨.keyword .publicWord, _, _⟩ :: ⟨.ident _, _, _⟩ :: _ => do
    let stop ← scanType? lexemes 1
    let first ← lexemes[1]?
    let last ← lexemeBefore? lexemes stop
    match lexemes[stop]?.bind (·.token.word?) with
    | none => some none
    | some name =>
      let body ← lexemesFrom? lexemes (stop + 1)
      if accessors.isPrefixOf (body.map (·.token)) then
        let sourceType ← slice? line first.start last.stop
        some (some (.property name sourceType))
      else some none
  | _ => some none

/-! ## The scan -/

/-- The scan ends where no lexeme is left. -/
theorem scanType?_of_none {lexemes : List Lexeme} {index : Nat} (h : lexemes[index]? = none) :
    scanType? lexemes index = some index := by
  rw [scanType?]
  split
  · rfl
  · next hsome => simp [h] at hsome

/-- The scan looks at one lexeme, and goes on with the next one or ends. -/
theorem scanType?_of_some {lexemes : List Lexeme} {index : Nat} {lexeme : Lexeme} {goesOn : Bool}
    (h : lexemes[index]? = some lexeme) (hgoesOn : goesOn? lexemes index lexeme = some goesOn) :
    scanType? lexemes index = if goesOn then scanType? lexemes (index + 1) else some index := by
  rw [scanType?]
  split
  · next hnone => simp [h] at hnone
  · next found hfound =>
    obtain rfl : lexeme = found := by simpa [h] using hfound
    rw [hgoesOn, Option.bind_some]

/-- Behind the first lexeme of a type, the scan ends behind the run of type parts that stands there. -/
theorem scanType?_append {front : List Lexeme} (hfront : front ≠ []) (before : Lexeme)
    (tail : List Lexeme) :
    scanType? (front ++ before :: tail) (front.length + 1) =
      some (front.length + 1 + (typeRun before.stop tail).1.length) := by
  -- A lexeme that goes on with the type joins the front, so that the next one is looked at behind it.
  induction tail generalizing front before with
  | nil => exact scanType?_of_none (by simp)
  | cons lexeme rest ih =>
    have hthere : (front ++ before :: lexeme :: rest)[front.length + 1]? = some lexeme := by simp
    have hgoesOn : goesOn? (front ++ before :: lexeme :: rest) (front.length + 1) lexeme =
        some (lexeme.token.fitsType && lexeme.start == before.stop) := by
      have hne : front.length + 1 ≠ 1 := by simpa using hfront
      rw [goesOn?, if_neg hne, lexemeBefore?, BEq.comm]
      simp
    rw [scanType?_of_some hthere hgoesOn, typeRun]
    split
    · have hfront' : front ++ [before] ≠ [] := by simp
      have hnext := ih hfront' lexeme
      rw [List.append_assoc, List.singleton_append, List.length_append, List.length_singleton] at hnext
      rw [hnext, List.length_cons]
      congr 1
      omega
    · rfl

/-- The scan of a type from its first lexeme on ends behind the run of type parts behind that one. -/
theorem scanType?_cons (lead : Lexeme) {first : Lexeme} (hfits : first.token.fitsType = true)
    (tail : List Lexeme) :
    scanType? (lead :: first :: tail) 1 = some (2 + (typeRun first.stop tail).1.length) := by
  have hthere : (lead :: first :: tail)[1]? = some first := rfl
  have hgoesOn : goesOn? (lead :: first :: tail) 1 first = some true := by rw [goesOn?, if_pos rfl, hfits]
  rw [scanType?_of_some hthere hgoesOn, if_pos rfl]
  exact scanType?_append (List.cons_ne_nil lead []) first tail

/-! ## Runs of type parts -/

/-- A run and the lexemes behind it are the lexemes that were split. -/
theorem typeRun_split {stop : Nat} {lexemes run after : List Lexeme}
    (h : typeRun stop lexemes = (run, after)) : lexemes = run ++ after := by
  induction lexemes generalizing stop run with
  | nil =>
    obtain ⟨rfl, rfl⟩ := Prod.mk.inj h
    rfl
  | cons lexeme rest ih =>
    rw [typeRun] at h
    split at h
    · obtain ⟨rfl, rfl⟩ := Prod.mk.inj h
      rw [List.cons_append, ← ih rfl]
    · obtain ⟨rfl, rfl⟩ := Prod.mk.inj h
      rfl

/-- No type part follows a run without a gap. -/
theorem start_ne_of_typeRun {first next : Lexeme} {lexemes run after : List Lexeme}
    (h : typeRun first.stop lexemes = (run, next :: after)) (hfits : next.token.fitsType = true) :
    next.start ≠ (run.getLast?.getD first).stop := by
  induction lexemes generalizing first run with
  | nil => cases h
  | cons lexeme rest ih =>
    rw [typeRun] at h
    split at h
    · obtain ⟨rfl, hafter⟩ := Prod.mk.inj h
      rw [List.getLast?_cons, Option.getD_some]
      exact ih (Prod.ext rfl hafter)
    · next hstops =>
      obtain ⟨rfl, hnext⟩ := Prod.mk.inj h
      obtain ⟨rfl, -⟩ := List.cons.inj hnext
      intro hstart
      exact hstops (by simp [hfits, hstart])

section Places

variable (lead first : Lexeme) (run after : List Lexeme)

/-- The last lexeme of a type stands before the index behind the type. -/
theorem lexemeBefore?_append :
    lexemeBefore? (lead :: first :: (run ++ after)) (2 + run.length) = some (run.getLast?.getD first) := by
  have hbefore : lexemeBefore? (lead :: first :: (run ++ after)) (2 + run.length) =
      (first :: run ++ after)[run.length]? := by
    rw [Nat.add_comm]
    rfl
  have hlast : (first :: run)[run.length]? = (first :: run).getLast? := by
    simp [List.getLast?_eq_getElem?]
  rw [hbefore, List.getElem?_append_left (by simp), hlast, List.getLast?_cons]

/-- The lexeme behind a type stands at the index behind it. -/
theorem getElem?_behind_type :
    (lead :: first :: (run ++ after))[2 + run.length]? = after.head? := by
  rw [Nat.add_comm, List.getElem?_cons_succ, List.getElem?_cons_succ,
    List.getElem?_append_right (Nat.le_refl _), Nat.sub_self, List.head?_eq_getElem?]

/-- The lexemes of a type stand from index 1 up to the index behind it. -/
theorem drop_take_type :
    ((lead :: first :: (run ++ after)).take (2 + run.length)).drop 1 = first :: run := by
  have htype : lead :: first :: (run ++ after) = (lead :: first :: run) ++ after := rfl
  rw [htype, List.take_left' (by simp; omega), List.drop_one, List.tail_cons]

/-- The lexemes behind the name of a property are all but the first of those behind its type. -/
theorem drop_behind_name :
    (lead :: first :: (run ++ after)).drop (2 + run.length + 1) = after.tail := by
  have htype : lead :: first :: (run ++ after) = (lead :: first :: run) ++ after := rfl
  have hlength : (lead :: first :: run).length = 2 + run.length := by
    simp
    omega
  rw [htype, ← List.drop_drop, List.drop_left' hlength, List.drop_one]

end Places

/-! ## Reading never fails -/

/-- Reading by index gives what is read by splitting the lexemes, if the type can be cut out of the line. -/
theorem readByIndex?_of_slice {line word covered : Text} {a b start stop : Nat} {rest run after : List Lexeme}
    (hrun : typeRun stop rest = (run, after))
    (hslice : slice? line start (run.getLast?.getD ⟨.ident word, start, stop⟩).stop = some covered) :
    readByIndex? line (⟨.keyword .publicWord, a, b⟩ :: ⟨.ident word, start, stop⟩ :: rest) =
      some (property? line (⟨.keyword .publicWord, a, b⟩ :: ⟨.ident word, start, stop⟩ :: rest)) := by
  have hfits : (Lexeme.mk (.ident word) start stop).token.fitsType = true := rfl
  have hscan := scanType?_cons ⟨.keyword .publicWord, a, b⟩ hfits rest
  obtain rfl := typeRun_split hrun
  rw [hrun] at hscan
  simp only [readByIndex?, property?, hscan, hrun, hslice, lexemeBefore?_append, getElem?_behind_type,
    List.getElem?_cons_succ, List.getElem?_cons_zero, Option.bind_eq_bind, Option.bind_some]
  cases after with
  | nil => rfl
  | cons name body =>
    have hbody : lexemesFrom? (⟨.keyword .publicWord, a, b⟩ :: ⟨.ident word, start, stop⟩ ::
        (run ++ name :: body)) (2 + run.length + 1) = some body := by
      rw [lexemesFrom?, if_pos (by simp; omega), drop_behind_name, List.tail_cons]
    simp only [List.head?_cons, Option.bind_some, hbody]
    cases hname : name.token.word? with
    | none => rfl
    | some text =>
      simp only [Option.bind_some]
      split <;> rfl

/-- Reading a line by index never fails, and gives the property that the line declares, if it declares one. -/
theorem readByIndex?_eq (line : Text) :
    readByIndex? line (lex line).lexemes = some (property? line (lex line).lexemes) := by
  generalize hlexemes : (lex line).lexemes = lexemes
  unfold readByIndex?
  split
  · next a b word start stop rest =>
    obtain ⟨run, after, found, hplace, -⟩ := exists_typePlace_of_lexemes hlexemes
    exact readByIndex?_of_slice hplace.typeRun_eq hplace.slice?_eq
  · next hother =>
    unfold property?
    split
    · next a b word start stop rest => exact absurd rfl (hother a b word start stop rest)
    · rfl

/-! ## Where a type is found -/

/-- A type that is scanned in a line, with the index at which the scan ends. -/
structure ScannedType (line : Text) (lexemes : List Lexeme) (stop : Nat) (type : Text) : Prop where
  one_lt : 1 < stop
  le_length : stop ≤ lexemes.length
  /-- The type is the part of the line from where its first lexeme begins up to where its last one ends, both
  of which are boundaries of characters, and no type part follows it without a gap. -/
  place : ∃ first last, lexemes[1]? = some first ∧ lexemeBefore? lexemes stop = some last ∧
    (∃ before after, line = before ++ (type ++ after) ∧ byteSize before = first.start ∧
      byteSize (before ++ type) = last.stop) ∧
    slice? line first.start last.stop = some type ∧
    ∀ next, lexemes[stop]? = some next → next.token.fitsType = true → next.start ≠ last.stop
  /-- The type is spelled by its lexemes with nothing between them. -/
  spelled : type = ((lexemes.take stop).drop 1).flatMap (·.token.text)
  ne_nil : type ≠ []
  beginsWord : ∃ word more, IsWord word ∧ type = word ++ more
  ofTypeChars : ∀ c ∈ type, isWordPart c = true ∨ c = '<' ∨ c = '>' ∨ c = '?'

/-- The type of a line whose lexemes begin with `public` and an ordinary word is scanned up to the end of the
run of type parts behind the word. -/
theorem exists_scannedType {line word : Text} {a b start stop : Nat} {rest : List Lexeme}
    (h : (lex line).lexemes = ⟨.keyword .publicWord, a, b⟩ :: ⟨.ident word, start, stop⟩ :: rest) :
    ∃ run after type, typeRun stop rest = (run, after) ∧
      slice? line start (run.getLast?.getD ⟨.ident word, start, stop⟩).stop = some type ∧
      ScannedType line (lex line).lexemes (2 + run.length) type := by
  obtain ⟨tail, behind, run, hplace, hword, hparts⟩ := exists_typePlace_of_lexemes h
  obtain ⟨lead, hline, hstart, hstop⟩ := hplace.exists_lead
  have hrun := hplace.typeRun_eq
  refine ⟨run, _, word ++ tail, hrun, hplace.slice?_eq, ?_⟩
  rw [h, typeRun_split hrun]
  exact {
    one_lt := by omega
    le_length := by simp; omega
    place := by
      refine ⟨_, _, rfl, lexemeBefore?_append _ _ _ _, ⟨lead, behind, hline, hstart, hstop⟩,
        hplace.slice?_eq, ?_⟩
      intro next hnext hfits
      rw [getElem?_behind_type] at hnext
      obtain ⟨more, hmore⟩ := List.head?_eq_some_iff.1 hnext
      rw [hmore] at hrun
      exact start_ne_of_typeRun hrun hfits
    spelled := by
      rw [drop_take_type, List.flatMap_cons, ← hplace.spelling_eq, spelling, List.flatMap_map]
      rfl
    ne_nil := List.append_ne_nil_of_left_ne_nil hword.1.ne_nil tail
    beginsWord := ⟨word, tail, hword.1, rfl⟩
    ofTypeChars := by
      intro c hc
      have hchar := isTypeChar_of_isTypeRun (.name hword hparts) c hc
      simpa [isTypeChar, or_assoc] using hchar }

/-- The scan of a type stays in range.  Reading a line by index never fails, and gives the property that the
line declares.  If the lexemes of the line begin with `public` and an ordinary word, then the scan comes to its
end, at an index between the one behind that word and the one behind the last lexeme, and it has found a type:
the part of the line that the lexemes before the index spell.  The line declares a property exactly if a word
stands at the index and accessors behind it, and then this word is the name and the type is the one found. -/
theorem type_scan_stays_in_range (line : Text) :
    readByIndex? line (lex line).lexemes = some (property? line (lex line).lexemes) ∧
    ∀ (lead first : Lexeme) (rest : List Lexeme) (word : Text), (lex line).lexemes = lead :: first :: rest →
      lead.token = .keyword .publicWord → first.token = .ident word →
      ∃ stop type, scanType? (lex line).lexemes 1 = some stop ∧
        ScannedType line (lex line).lexemes stop type ∧
        ∀ name sourceType, property? line (lex line).lexemes = some (.property name sourceType) ↔
          sourceType = type ∧ ∃ named, (lex line).lexemes[stop]? = some named ∧
            named.token.word? = some name ∧
            accessors.isPrefixOf (((lex line).lexemes.drop (stop + 1)).map (·.token)) = true := by
  refine ⟨readByIndex?_eq line, ?_⟩
  rintro ⟨_, a, b⟩ ⟨_, start, stop⟩ rest word hlexemes rfl rfl
  obtain ⟨run, after, type, hrun, hslice, hscanned⟩ := exists_scannedType hlexemes
  have hfits : (Lexeme.mk (.ident word) start stop).token.fitsType = true := rfl
  have hscan := scanType?_cons ⟨.keyword .publicWord, a, b⟩ hfits rest
  rw [hrun, ← hlexemes] at hscan
  refine ⟨_, type, hscan, hscanned, fun name sourceType => ?_⟩
  rw [hlexemes, property?_eq_some_iff hrun hslice, typeRun_split hrun, getElem?_behind_type, drop_behind_name]
  refine and_congr_right fun _ => ?_
  constructor
  · rintro ⟨named, body, rfl, hname, hbody⟩
    exact ⟨named, rfl, hname, hbody⟩
  · rintro ⟨named, hnamed, hname, hbody⟩
    obtain ⟨body, rfl⟩ := List.head?_eq_some_iff.1 hnamed
    exact ⟨named, body, rfl, hname, hbody⟩

/-- A property with characters of two bytes in its type. -/
def wideLine : Text :=
  "public Größe<int>? Wert \x7b get; set; \x7d".toList

/-- A type with characters of two bytes is scanned as a whole: the indices of its lexemes are those of bytes. -/
theorem wideLine_is_scanned :
    (lex wideLine).lexemes = ⟨.keyword .publicWord, 0, 6⟩ :: ⟨.ident "Größe".toList, 7, 14⟩ ::
        (lex wideLine).lexemes.drop 2 ∧
      property? wideLine (lex wideLine).lexemes = some (.property "Wert".toList "Größe<int>?".toList) ∧
      ∃ stop, scanType? (lex wideLine).lexemes 1 = some stop ∧
        ScannedType wideLine (lex wideLine).lexemes stop "Größe<int>?".toList := by
  have hlexemes : (lex wideLine).lexemes = ⟨.keyword .publicWord, 0, 6⟩ ::
      ⟨.ident "Größe".toList, 7, 14⟩ :: (lex wideLine).lexemes.drop 2 := by decide +kernel
  have hdeclares : property? wideLine (lex wideLine).lexemes =
      some (.property "Wert".toList "Größe<int>?".toList) := by decide +kernel
  obtain ⟨stop, type, hscan, hscanned, hproperty⟩ :=
    (type_scan_stays_in_range wideLine).2 _ _ _ _ hlexemes rfl rfl
  obtain ⟨rfl, -⟩ := (hproperty _ _).1 hdeclares
  exact ⟨hlexemes, hdeclares, stop, hscan, hscanned⟩

end InterfaceGen.Source
