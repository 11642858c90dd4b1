import InterfaceGen.Proofs.Source.TokenReading

/-!
# Lexemes tile their line

Nothing of a line is lost between its lexemes: the first begins behind spacing, each of the others behind
spacing after the one before it, and every lexeme covers its own spelling.  Behind the last one stands
spacing up to the end of the line, or up to a character that begins no token.

Main definitions:

- `stopFrom`: the byte at which the text behind some lexemes begins.
- `BeginsToken`: the characters with which a token may begin.
- `FollowsWord`: what the token of a word is, by the text behind it.

Main results:

- Theorem `readToken_eq_none_iff`: no token is read exactly where none may begin.
- Theorem `exists_parts_of_lexemes`: what stands before, at and behind any lexeme of a text.
- Theorems `exists_parts_of_end` and `exists_parts_of_no_lexemes`: what stands behind the last one.
- Theorem `lexemes_tile_line`: how the lexemes of a line cover it.
-/

namespace InterfaceGen.Source

open Text

/-! ## Places in a line -/

/-- The byte at which the text behind some lexemes begins: where the last of them stops, or the given
position if there are none. -/
def stopFrom (position : Nat) (lexemes : List Lexeme) : Nat :=
  (lexemes.getLast?.map (·.stop)).getD position

@[simp] theorem stopFrom_nil (position : Nat) : stopFrom position [] = position := rfl

@[simp] theorem stopFrom_cons (position : Nat) (lexeme : Lexeme) (more : List Lexeme) :
    stopFrom position (lexeme :: more) = stopFrom lexeme.stop more := by
  cases hlast : more.getLast? <;> simp [stopFrom, List.getLast?_cons, hlast]

/-! ## The characters that begin tokens -/

/-- A token may begin with a letter, with the underscore and with any of thirteen symbols. -/
def BeginsToken (c : Char) : Prop :=
  isLetter c = true ∨ c = '_' ∨ c ∈ "\x7b\x7d<>?;,:=()[]".toList

/-- The symbols are thirteen characters. -/
theorem ofChar?_eq_none_iff {c : Char} :
    Symbol.ofChar? c = none ↔ c ∉ "\x7b\x7d<>?;,:=()[]".toList := by
  have hchars : Symbol.all.map Symbol.char = "\x7b\x7d<>?;,:=()[]".toList := by decide
  rw [← hchars, Symbol.ofChar?, List.find?_eq_none]
  simp

/-- No token is read from a text exactly if none may begin with its first character. -/
theorem readToken_eq_none_iff {c : Char} {rest : Text} :
    readToken (c :: rest) = none ↔ ¬ BeginsToken c := by
  have hstart : isWordStart c = true ↔ isLetter c = true ∨ c = '_' := by simp [isWordStart]
  rw [BeginsToken, ← or_assoc, ← hstart, not_or, ← ofChar?_eq_none_iff]
  cases hsymbol : Symbol.ofChar? c <;> simp [readToken, hsymbol]

/-! ## Words -/

/-- The token of a word, given the text behind it: no character there could continue the word, and the word
is a keyword if it is one of four and stays one there, and an ordinary word otherwise. -/
structure FollowsWord (token : Token) (word after : Text) : Prop where
  text_eq : token.text = word
  endsWord : EndsWord after
  keyword_iff : (∃ keyword, token = .keyword keyword) ↔
    word ∈ ["public".toList, "class".toList, "get".toList, "set".toList] ∧ KeepsKeyword after
  ident_iff : token = .ident word ↔
    ¬ (word ∈ ["public".toList, "class".toList, "get".toList, "set".toList] ∧ KeepsKeyword after)

/-- A word is one of the four keywords if and only if it is spelled like one. -/
theorem exists_text_eq_iff {word : Text} :
    (∃ keyword : Keyword, word = keyword.text) ↔
      word ∈ ["public".toList, "class".toList, "get".toList, "set".toList] := by
  constructor
  · rintro ⟨keyword, rfl⟩
    cases keyword <;> decide
  · intro h
    simp only [List.mem_cons, List.not_mem_nil, or_false] at h
    rcases h with h | h | h | h
    · exact ⟨.publicWord, h⟩
    · exact ⟨.classWord, h⟩
    · exact ⟨.getWord, h⟩
    · exact ⟨.setWord, h⟩

/-- What is read as a word is followed as a word. -/
theorem followsWord_of_readToken {token : Token} {word after : Text}
    (hread : readToken (token.text ++ after) = some (token, after)) (hword : token.word? = some word) :
    FollowsWord token word after := by
  rcases readToken_cases hread with ⟨sign, rfl, -⟩ | ⟨word', -, hend, rfl, -⟩
  · cases hword
  · obtain rfl : word' = word := by simpa only [word?_wordToken, Option.some.injEq] using hword
    have hkeeps : KeepsKeyword after ↔ after.head?.any spoilsKeyword = false := by
      rw [keepsKeyword_iff, and_iff_right hend]
    refine ⟨text_wordToken word' after, hend, ?_, ?_⟩
    · rw [← exists_text_eq_iff, hkeeps, ← exists_and_right]
      exact exists_congr fun keyword => wordToken_eq_keyword_iff
    · rw [wordToken_eq_ident_iff, ← exists_text_eq_iff, hkeeps, ← exists_and_right, not_exists]
      exact forall_congr' fun keyword => by rw [not_and, Bool.not_eq_false]

/-! ## Before, at and behind a lexeme -/

/-- A text that is not empty has bytes. -/
theorem byteSize_pos {t : Text} (h : t ≠ []) : 0 < byteSize t := by
  obtain ⟨c, rest, rfl⟩ := List.exists_cons_of_ne_nil h
  exact Nat.add_pos_left c.utf8Size_pos _

/-- The spelling of what is read is not empty. -/
theorem text_ne_nil_of_readToken {t after : Text} {token : Token}
    (h : readToken t = some (token, after)) : token.text ≠ [] := by
  rcases readToken_cases h with ⟨sign, rfl, -⟩ | ⟨word, hword, -, rfl, -⟩
  · exact List.cons_ne_nil _ _
  · rw [text_wordToken]
    exact hword.ne_nil

/-- Before a lexeme of a text stand the lexemes before it and spacing, and behind it the text that the others
are lexed from. -/
theorem exists_parts_of_lexemes {t : Text} {position : Nat} {before after : List Lexeme} {lexeme : Lexeme}
    (h : (lexFrom position t).lexemes = before ++ lexeme :: after) :
    ∃ (head : Text) (spacing : Spacing) (rest : Text),
      t = head ++ (spacing.text ++ (lexeme.token.text ++ rest)) ∧
      stopFrom position before = position + byteSize head ∧
      lexeme.start = position + byteSize head + byteSize spacing.text ∧
      lexeme.stop = lexeme.start + byteSize lexeme.token.text ∧
      readToken (lexeme.token.text ++ rest) = some (lexeme.token, rest) := by
  -- By induction on the lexemes before it, from any position: each of them moves the position to its stop.
  induction before generalizing position t with
  | nil =>
    obtain ⟨spacing, rest, ht, hread, hstart, hstop, -⟩ := exists_spacing_of_lexemes h
    exact ⟨[], spacing, rest, ht, rfl, hstart, hstop, hread⟩
  | cons first before ih =>
    obtain ⟨spacing, rest, rfl, -, hstart, hstop, hmore⟩ := exists_spacing_of_lexemes h
    obtain ⟨head, spacing', rest', rfl, hbefore, hstart', hstop', hread'⟩ := ih hmore.symm
    have hhead : position + byteSize (spacing.text ++ (first.token.text ++ head)) =
        first.stop + byteSize head := by
      rw [hstop, hstart, byteSize_append, byteSize_append]
      omega
    refine ⟨spacing.text ++ (first.token.text ++ head), spacing', rest', by simp, ?_, ?_, hstop', hread'⟩
    · rw [stopFrom_cons, hbefore, hhead]
    · rw [hstart', hhead]

/-- A text without lexemes is spacing, up to its end if it is lexed completely, and otherwise up to a
character that separates no tokens and begins none. -/
theorem exists_parts_of_no_lexemes {t : Text} {position : Nat} (h : (lexFrom position t).lexemes = []) :
    ∃ (spacing : Spacing) (rest : Text), t = spacing.text ++ rest ∧
      ((lexFrom position t).complete = true → rest = []) ∧
      ((lexFrom position t).complete = false →
        ∃ c more, rest = c :: more ∧ isGap c = false ∧ ¬ BeginsToken c) := by
  fun_induction lexFrom position t with
  | case1 position => exact ⟨⟨[], by simp⟩, [], rfl, by simp, by simp⟩
  | case2 position c rest hgap ih =>
    obtain ⟨spacing, rest', rfl, hend⟩ := ih h
    exact ⟨⟨c :: spacing.text, List.forall_mem_cons.2 ⟨hgap, spacing.isGap⟩⟩, rest', rfl, hend⟩
  | case3 position c rest hgap hread =>
    refine ⟨⟨[], by simp⟩, c :: rest, rfl, by simp, fun _ => ⟨c, rest, rfl, ?_⟩⟩
    exact ⟨by simpa using hgap, readToken_eq_none_iff.1 hread⟩
  | case4 position c rest hgap token after hread stop ih => cases h

/-- Behind the last lexeme of a text stands a text without lexemes, which is lexed completely if the whole
one is. -/
theorem exists_parts_of_end (position : Nat) (t : Text) :
    ∃ head rest : Text, t = head ++ rest ∧
      stopFrom position (lexFrom position t).lexemes = position + byteSize head ∧
      lexFrom (position + byteSize head) rest = ⟨[], (lexFrom position t).complete⟩ := by
  induction hlexemes : (lexFrom position t).lexemes generalizing position t with
  | nil => exact ⟨[], t, rfl, rfl, by rw [← hlexemes]; rfl⟩
  | cons lexeme more ih =>
    obtain ⟨spacing, after, rfl, hread, hstart, hstop, rfl⟩ := exists_spacing_of_lexemes hlexemes
    obtain ⟨head, rest, rfl, hhead, hrest⟩ := ih lexeme.stop after rfl
    have hplace : position + byteSize (spacing.text ++ (lexeme.token.text ++ head)) =
        lexeme.stop + byteSize head := by
      rw [hstop, hstart, byteSize_append, byteSize_append]
      omega
    refine ⟨spacing.text ++ (lexeme.token.text ++ head), rest, by simp, ?_, ?_⟩
    · rw [stopFrom_cons, hhead, hplace]
    · rw [hplace, hrest, lexFrom_read hread, hstop, hstart]
      rfl

/-! ## Whole lines -/

/-- The lexemes of a line cover it.  Each stands on its own bytes, which are boundaries of characters, where
the line holds exactly its spelling; between it and the lexeme before it, or the beginning of the line, is
spacing; and the token of a word is what its text and the text behind it say.  Behind the last lexeme, or
from the beginning of the line if there is none, is spacing up to the end of the line if lexing reached it,
and up to a character that separates no tokens and begins none if it did not. -/
theorem lexemes_tile_line (line : Text) :
    (∀ (before after : List Lexeme) (lexeme : Lexeme), (lex line).lexemes = before ++ lexeme :: after →
      stopFrom 0 before ≤ lexeme.start ∧ lexeme.start < lexeme.stop ∧ lexeme.stop ≤ byteSize line ∧
      slice? line lexeme.start lexeme.stop = some lexeme.token.text ∧
      ∃ (head : Text) (spacing : Spacing) (rest : Text),
        line = head ++ (spacing.text ++ (lexeme.token.text ++ rest)) ∧
        byteSize head = stopFrom 0 before ∧ byteSize (head ++ spacing.text) = lexeme.start ∧
        ∀ word, lexeme.token.word? = some word → FollowsWord lexeme.token word rest) ∧
    ∃ (head : Text) (spacing : Spacing) (rest : Text), line = head ++ (spacing.text ++ rest) ∧
      byteSize head = stopFrom 0 (lex line).lexemes ∧
      ((lex line).complete = true → rest = []) ∧
      ((lex line).complete = false → ∃ c more, rest = c :: more ∧ isGap c = false ∧ ¬ BeginsToken c) := by
  constructor
  · intro before after lexeme h
    obtain ⟨head, spacing, rest, hline, hhead, hstart, hstop, hread⟩ := exists_parts_of_lexemes h
    have hbefore : byteSize head = stopFrom 0 before := by rw [hhead, Nat.zero_add]
    have hlead : byteSize (head ++ spacing.text) = lexeme.start := by
      rw [hstart, Nat.zero_add, byteSize_append]
    have hpos : 0 < byteSize lexeme.token.text := byteSize_pos (text_ne_nil_of_readToken hread)
    have hsize : byteSize line = lexeme.stop + byteSize rest := by
      rw [hline, byteSize_append, byteSize_append, byteSize_append, hstop, hstart]
      omega
    refine ⟨by omega, by omega, by omega, ?_, head, spacing, rest, hline, hbefore, hlead, ?_⟩
    · rw [hline, ← List.append_assoc, hstop, ← hlead]
      exact slice?_append _ _ _
    · exact fun word hword => followsWord_of_readToken hread hword
  · obtain ⟨head, tail, hline, hhead, htail⟩ := exists_parts_of_end 0 line
    obtain ⟨spacing, rest, rfl, hend⟩ := exists_parts_of_no_lexemes (congrArg LexedLine.lexemes htail)
    rw [htail] at hend
    exact ⟨head, spacing, rest, hline, by rw [lex, hhead, Nat.zero_add], hend⟩

end InterfaceGen.Source
