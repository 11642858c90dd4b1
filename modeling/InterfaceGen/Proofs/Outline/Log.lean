import InterfaceGen.Proofs.Outline.Reading
import InterfaceGen.Proofs.Source.Forest

/-!
# The log of a reading

Reading reports one event for each line.  The events alone, without the lines, tell what was read: replayed
on an empty outline they leave the outline of the reading, and the positions of the events in the log say
which class each of them is about.

Main definitions:

- `Outline.replay`: the outline that some events leave.
- `Outline.Effect`: what a line can do to an outline, with the event of it.
- `openIn`, `additionsTo`, `recordAt`: which classes are open after some events of a log, and what was added
  to them, by positions in the log.
- `TellsReading`: how the log of a source tells what is read from it.

Main results:

- Theorem `effect_addLine`: every line has one of these effects.
- Theorem `replay_take_lineLog`: the events of lines leave the outline of the lines.
- Theorem `opened_replay`: the classes that are open after some events are those of the log by positions.
- Theorem `read_log_replays`: every source has a log that tells how it is read.
-/

namespace InterfaceGen

open Text

/-! ## What events say -/

namespace Event

/-- The name of the class that an event opens. -/
def openedName? : Event → Option Text
  | opening name _ => some name
  | _ => none

/-- The property that an event adds to a class. -/
def added? : Event → Option Property
  | adding _ name sourceType => some ⟨name, sourceType⟩
  | _ => none

/-- Whether an event opens a class. -/
def isOpening : Event → Bool
  | opening .. => true
  | _ => false

/-- Whether an event closes a class. -/
def isClosing : Event → Bool
  | closing .. => true
  | _ => false

/-- Whether an event is the warning that a class was left open. -/
def isUnclosed : Event → Bool
  | unclosed _ => true
  | _ => false

/-- Whether an event says that a line is dropped or skipped. -/
def isIdle : Event → Bool
  | strayClosing | strayProperty _ | skipping _ => true
  | _ => false

end Event

namespace Source

/-! ## Replaying events -/

namespace Outline

/-- The outline after an event, by what the event says alone: a class opens without properties, a property is
added to the innermost class, or the innermost class closes.  All other events change nothing. -/
def replayEvent (outline : Outline) : Event → Outline
  | .opening name _ => { outline with opened := ⟨name, []⟩ :: outline.opened }
  | .adding _ name sourceType =>
    { outline with opened := addProperties [⟨name, sourceType⟩] outline.opened }
  | .closing _ _ =>
    match outline.opened with
    | [] => outline
    | inner :: outer => ⟨outer, inner :: outline.closed⟩
  | _ => outline

/-- The outline that some events leave. -/
def replay (log : List Event) : Outline :=
  log.foldl replayEvent empty

/-- The outline that one more event leaves. -/
theorem replay_concat (log : List Event) (event : Event) :
    replay (log ++ [event]) = (replay log).replayEvent event := by
  rw [replay, List.foldl_append, ← replay]
  rfl

/-- What a line can do to an outline, and what is reported of it: it opens a class, closes the innermost one or
adds a property to it, or changes nothing. -/
inductive Effect : Outline → Event → Outline → Prop
  | opens (opened closed : List DataClass) (name : Text) :
      Effect ⟨opened, closed⟩ (.opening name opened.length) ⟨⟨name, []⟩ :: opened, closed⟩
  | closes (inner : DataClass) (outer closed : List DataClass) :
      Effect ⟨inner :: outer, closed⟩ (.closing inner.name inner.properties.length) ⟨outer, inner :: closed⟩
  | adds (inner : DataClass) (outer closed : List DataClass) (name sourceType : Text) :
      Effect ⟨inner :: outer, closed⟩ (.adding inner.name name sourceType)
        ⟨addProperties [⟨name, sourceType⟩] (inner :: outer), closed⟩
  | idle (outline : Outline) {event : Event} (h : event.isIdle = true) : Effect outline event outline

/-- Every line has one of these effects. -/
theorem effect_addLine (outline : Outline) (line : Text) :
    outline.Effect (outline.addLine line).1 (outline.addLine line).2 := by
  obtain ⟨opened, closed⟩ := outline
  unfold addLine
  cases LineKind.ofLine line with
  | opening name => exact .opens opened closed name
  | closing =>
    cases opened with
    | nil => exact .idle _ rfl
    | cons inner outer => exact .closes inner outer closed
  | property name sourceType =>
    cases opened with
    | nil => exact .idle _ rfl
    | cons inner outer => exact .adds inner outer closed name sourceType
  | malformedHeader => exact .idle _ rfl
  | other => exact .idle _ rfl

namespace Effect

variable {outline next : Outline} {event : Event}

/-- The event of an effect leaves the outline after it. -/
theorem replayEvent_eq (h : outline.Effect event next) : outline.replayEvent event = next := by
  cases h with
  | opens opened closed name => rfl
  | closes inner outer closed => rfl
  | adds inner outer closed name sourceType => rfl
  | idle _ h => cases event <;> first | rfl | cases h

/-- An event says that a line is dropped or skipped if and only if its effect changes nothing. -/
theorem isIdle_iff (h : outline.Effect event next) : event.isIdle = true ↔ next = outline := by
  cases h with
  | opens opened closed name => simp [Event.isIdle]
  | closes inner outer closed => simp [Event.isIdle]
  | adds inner outer closed name sourceType =>
    have hgrown : { inner with properties := inner.properties ++ [⟨name, sourceType⟩] } ≠ inner := by
      intro heq
      have hproperties := congrArg DataClass.properties heq
      simp at hproperties
    simp [Event.isIdle, addProperties, hgrown]
  | idle _ h => exact iff_of_true h rfl

/-- A class more is open after an event that opens one, and a class less after one that closes one. -/
theorem length_opened (h : outline.Effect event next) :
    outline.opened.length + [event].countP Event.isOpening =
      next.opened.length + [event].countP Event.isClosing := by
  cases h with
  | opens opened closed name => rfl
  | closes inner outer closed => rfl
  | adds inner outer closed name sourceType => rfl
  | idle _ h => cases event <;> first | rfl | cases h

/-- No effect is a reason for a warning. -/
theorem not_unclosed (h : outline.Effect event next) : event.isUnclosed = false := by
  cases h with
  | opens opened closed name => rfl
  | closes inner outer closed => rfl
  | adds inner outer closed name sourceType => rfl
  | idle _ h => cases event <;> first | rfl | cases h

/-- A class opens inside as many others as are open. -/
theorem depth_eq {name : Text} {depth : Nat} (h : outline.Effect (.opening name depth) next) :
    depth = outline.opened.length := by
  cases h with
  | opens opened closed name => rfl
  | idle _ h => cases h

/-- What closes is the innermost class, and all of its properties are counted. -/
theorem exists_closed {name : Text} {properties : Nat} (h : outline.Effect (.closing name properties) next) :
    ∃ inner outer, outline.opened = inner :: outer ∧ inner.name = name ∧
      inner.properties.length = properties := by
  cases h with
  | closes inner outer closed => exact ⟨inner, outer, rfl, rfl, rfl⟩
  | idle _ h => cases h

/-- A property is added to the innermost class. -/
theorem exists_innermost {className name sourceType : Text}
    (h : outline.Effect (.adding className name sourceType) next) :
    ∃ inner outer, outline.opened = inner :: outer ∧ inner.name = className := by
  cases h with
  | adds inner outer closed name sourceType => exact ⟨inner, outer, rfl, rfl⟩
  | idle _ h => cases h

end Effect

end Outline

/-! ## The events of lines -/

/-- The events of lines, read from the beginning. -/
def lineLog (lines : List Text) : List Event :=
  (Outline.empty.addLines lines).events

/-- Every line has one event. -/
theorem length_events_addLines (outline : Outline) (lines : List Text) :
    (outline.addLines lines).events.length = lines.length := by
  induction lines generalizing outline with
  | nil => rfl
  | cons line rest ih => exact congrArg (· + 1) (ih (outline.addLine line).2)

/-- The event of a line is that of the line after those before it. -/
theorem getElem?_events_addLines (outline : Outline) (lines : List Text) (n : Nat) :
    (outline.addLines lines).events[n]? =
      lines[n]?.map fun line => ((outline.addLines (lines.take n)).value.addLine line).1 := by
  induction lines generalizing outline n with
  | nil => rfl
  | cons line rest ih =>
    cases n with
    | zero => rfl
    | succ n => exact ih (outline.addLine line).2 n

/-- The event of a line, in the outline that the lines before it leave. -/
theorem getElem?_lineLog (lines : List Text) (n : Nat) :
    (lineLog lines)[n]? = lines[n]?.map fun line => ((outlineAfter lines n).addLine line).1 :=
  getElem?_events_addLines Outline.empty lines n

/-- An event of the log tells the effect of a line on the outline that the lines before it leave. -/
theorem exists_effect {lines : List Text} {n : Nat} {event : Event} (h : (lineLog lines)[n]? = some event) :
    ∃ next, (outlineAfter lines n).Effect event next := by
  rw [getElem?_lineLog] at h
  obtain ⟨line, -, rfl⟩ := Option.map_eq_some_iff.1 h
  exact ⟨_, Outline.effect_addLine _ line⟩

/-- Replayed up to any line, the log leaves the outline of the lines up to it. -/
theorem replay_take_lineLog (lines : List Text) (n : Nat) :
    Outline.replay ((lineLog lines).take n) = outlineAfter lines n := by
  induction n with
  | zero => rfl
  | succ n ih =>
    rw [List.take_add_one, getElem?_lineLog]
    cases hline : lines[n]? with
    | none =>
      have hsame : outlineAfter lines (n + 1) = outlineAfter lines n := by
        simp [outlineAfter, List.take_add_one, hline]
      rw [hsame, ← ih]
      simp
    | some line =>
      rw [outlineAfter_succ hline, ← (Outline.effect_addLine _ line).replayEvent_eq, ← ih]
      exact Outline.replay_concat _ _

/-- Replayed to its end, the log leaves the outline of all lines. -/
theorem replay_lineLog (lines : List Text) :
    Outline.replay (lineLog lines) = (Outline.empty.addLines lines).value := by
  have hreplay := replay_take_lineLog lines lines.length
  have hlength : (lineLog lines).length = lines.length := length_events_addLines _ lines
  rw [List.take_of_length_le hlength.le, outlineAfter, List.take_length] at hreplay
  exact hreplay

/-- As many classes are opened as are closed or left open. -/
theorem countP_isOpening_addLines (outline : Outline) (lines : List Text) :
    outline.opened.length + (outline.addLines lines).events.countP Event.isOpening =
      (outline.addLines lines).value.opened.length +
        (outline.addLines lines).events.countP Event.isClosing := by
  induction lines generalizing outline with
  | nil => rfl
  | cons line rest ih =>
    have hline := (outline.effect_addLine line).length_opened
    have hrest := ih (outline.addLine line).2
    simp only [Outline.addLines]
    rw [← List.singleton_append, List.countP_append, List.countP_append]
    omega

/-- No line is a reason for a warning. -/
theorem countP_isUnclosed_addLines (outline : Outline) (lines : List Text) :
    (outline.addLines lines).events.countP Event.isUnclosed = 0 := by
  induction lines generalizing outline with
  | nil => rfl
  | cons line rest ih =>
    have hline : ¬ (outline.addLine line).1.isUnclosed = true := by
      simp [(outline.effect_addLine line).not_unclosed]
    rw [Outline.addLines, List.countP_cons_of_neg hline]
    exact ih (outline.addLine line).2

/-- Of the warnings on classes, there are as many as of the classes, and they open and close nothing. -/
theorem countP_unclosed (classes : List DataClass) :
    (classes.map fun c => Event.unclosed c.name).countP Event.isUnclosed = classes.length ∧
      (classes.map fun c => Event.unclosed c.name).countP Event.isOpening = 0 ∧
      (classes.map fun c => Event.unclosed c.name).countP Event.isClosing = 0 := by
  simp [List.countP_map, Function.comp_def, Event.isUnclosed, Event.isOpening, Event.isClosing]

/-! ## Classes by positions -/

/-- The positions of the events that opened the classes which are open after the first `n` events of a log,
innermost class first. -/
def openIn (log : List Event) : Nat → List Nat
  | 0 => []
  | n + 1 =>
    match log[n]? with
    | some (.opening _ _) => n :: openIn log n
    | some (.closing _ _) => (openIn log n).tail
    | _ => openIn log n

/-- The properties that are added before position `n` to the class that the event at position `i` opened:
those of the additions reported while this class was the innermost one. -/
def additionsTo (log : List Event) (i n : Nat) : List Property :=
  (List.range n).filterMap fun m =>
    if (openIn log m).head? = some i then log[m]?.bind Event.added? else none

/-- The class that the event at position `i` opened, with the properties added to it before position `n`. -/
def recordAt (log : List Event) (i n : Nat) : DataClass :=
  ⟨(log[i]?.bind Event.openedName?).getD [], additionsTo log i n⟩

section Positions

variable {log : List Event} {n : Nat}

/-- Classes that are open after some events were opened by them, each by another one. -/
theorem pairwise_openIn (log : List Event) (n : Nat) :
    (∀ i ∈ openIn log n, i < n) ∧ (openIn log n).Nodup := by
  induction n with
  | zero => simp [openIn]
  | succ n ih =>
    obtain ⟨hlt, hnodup⟩ := ih
    have hkept : ∀ i ∈ openIn log n, i < n + 1 := fun i hi => Nat.lt_succ_of_lt (hlt i hi)
    unfold openIn
    split
    · refine ⟨fun i hi => ?_, List.nodup_cons.2 ⟨fun hn => Nat.lt_irrefl n (hlt n hn), hnodup⟩⟩
      rcases List.mem_cons.1 hi with rfl | hi
      · exact Nat.lt_succ_self i
      · exact hkept i hi
    · exact ⟨fun i hi => hkept i (List.mem_of_mem_tail hi), hnodup.tail⟩
    · exact ⟨hkept, hnodup⟩

/-- One more event adds its property to the innermost class. -/
theorem additionsTo_succ (log : List Event) (i n : Nat) :
    additionsTo log i (n + 1) = additionsTo log i n ++
      (if (openIn log n).head? = some i then log[n]?.bind Event.added? else none).toList := by
  rw [additionsTo, List.range_succ, List.filterMap_append]
  rfl

/-- An event that adds no property leaves every class as it is. -/
theorem recordAt_succ_of_nothing (h : log[n]?.bind Event.added? = none) (i : Nat) :
    recordAt log i (n + 1) = recordAt log i n := by
  simp [recordAt, additionsTo_succ, h]

/-- A class that is not the innermost one is left as it is. -/
theorem recordAt_succ_of_ne {i : Nat} (h : (openIn log n).head? ≠ some i) :
    recordAt log i (n + 1) = recordAt log i n := by
  simp [recordAt, additionsTo_succ, h]

/-- Nothing is added to a class before it is opened. -/
theorem additionsTo_self (log : List Event) (n : Nat) : additionsTo log n (n + 1) = [] := by
  apply List.filterMap_eq_nil_iff.2
  intro m hm
  have hne : (openIn log m).head? ≠ some n := by
    intro hhead
    have hlt := (pairwise_openIn log m).1 n (List.mem_of_head? hhead)
    have hle := List.mem_range.1 hm
    omega
  rw [if_neg hne]

/-- An event that adds no property leaves all open classes as they are. -/
theorem map_recordAt_of_nothing (h : log[n]?.bind Event.added? = none) :
    (openIn log n).map (fun i => recordAt log i (n + 1)) = (openIn log n).map fun i => recordAt log i n :=
  List.map_congr_left fun i _ => recordAt_succ_of_nothing h i

/-- An addition adds its property to the innermost open class, and leaves the others as they are. -/
theorem map_recordAt_of_adding {className name sourceType : Text}
    (hevent : log[n]? = some (.adding className name sourceType)) :
    (openIn log n).map (fun i => recordAt log i (n + 1)) =
      Outline.addProperties [⟨name, sourceType⟩] ((openIn log n).map fun i => recordAt log i n) := by
  have hnodup := (pairwise_openIn log n).2
  cases hopen : openIn log n with
  | nil => rfl
  | cons top rest =>
    rw [hopen] at hnodup
    have hrest : ∀ i ∈ rest, recordAt log i (n + 1) = recordAt log i n := by
      intro i hi
      refine recordAt_succ_of_ne fun hhead => (List.nodup_cons.1 hnodup).1 ?_
      rw [hopen, List.head?_cons, Option.some.injEq] at hhead
      rwa [hhead]
    have htop : recordAt log top (n + 1) =
        { recordAt log top n with
          properties := (recordAt log top n).properties ++ [⟨name, sourceType⟩] } := by
      simp [recordAt, additionsTo_succ, hopen, hevent, Event.added?]
    rw [List.map_cons, List.map_cons, htop, List.map_congr_left hrest]
    rfl

/-- After any number of events of a log, the classes that are open are those that the positions tell, each
with the properties added while it was the innermost one. -/
theorem opened_replay (log : List Event) (n : Nat) :
    (Outline.replay (log.take n)).opened = (openIn log n).map fun i => recordAt log i n := by
  -- By induction on the number of events: all positions in the stack are different, so that an addition has no
  -- bearing on any class but the innermost one.
  induction n with
  | zero => rfl
  | succ n ih =>
    rw [List.take_add_one]
    cases hevent : log[n]? with
    | none =>
      have hnone : log[n]?.bind Event.added? = none := by rw [hevent]; rfl
      simp only [openIn, hevent, Option.toList_none, List.append_nil]
      rw [ih, map_recordAt_of_nothing hnone]
    | some event =>
      rw [Option.toList_some, Outline.replay_concat]
      cases event with
      | opening name depth =>
        have hnone : log[n]?.bind Event.added? = none := by rw [hevent]; rfl
        have hnew : recordAt log n (n + 1) = ⟨name, []⟩ := by
          rw [recordAt, additionsTo_self, hevent]
          rfl
        simp only [openIn, hevent, Outline.replayEvent, List.map_cons]
        rw [ih, hnew, map_recordAt_of_nothing hnone]
      | closing name properties =>
        have hnone : log[n]?.bind Event.added? = none := by rw [hevent]; rfl
        simp only [openIn, hevent, List.map_tail]
        rw [map_recordAt_of_nothing hnone, ← ih]
        cases hopened : (Outline.replay (log.take n)).opened <;> simp [Outline.replayEvent, hopened]
      | adding className name sourceType =>
        simp only [openIn, hevent, Outline.replayEvent]
        rw [ih, map_recordAt_of_adding hevent]
      | _ =>
        have hnone : log[n]?.bind Event.added? = none := by rw [hevent]; rfl
        simp only [openIn, hevent, Outline.replayEvent]
        rw [ih, map_recordAt_of_nothing hnone]

end Positions

/-! ## The log of a source -/

/-- A log has one event for each line of a source, between the start of the reading and the warnings on the
classes that are left open, outermost first, and tells how the source is read. -/
structure TellsReading (source : Text) (log : List Event) : Prop where
  events_eq : (read source).events =
    .readingStarts (byteSize source) :: log ++ (Outline.replay log).opened.reverse.map (.unclosed ·.name)
  length_eq : log.length = (normalLines source).length
  /-- The events leave the model that is read. -/
  classes_eq : (read source).value.classes = (Outline.replay log).closed
  /-- At any time, the classes that are open have the properties reported for them. -/
  opened_eq : ∀ n, (Outline.replay (log.take n)).opened = (openIn log n).map fun i => recordAt log i n
  /-- A class is opened inside as many others as are open. -/
  depth_eq : ∀ n name depth, log[n]? = some (.opening name depth) → depth = (openIn log n).length
  /-- What is closed is the innermost class, with as many properties as were added to it. -/
  closes_top : ∀ n name properties, log[n]? = some (.closing name properties) →
    ∃ top outer, openIn log n = top :: outer ∧ (recordAt log top n).name = name ∧
      properties = (additionsTo log top n).length
  /-- Properties are added to the innermost class. -/
  adds_to_top : ∀ n className name sourceType, log[n]? = some (.adding className name sourceType) →
    ∃ top outer, openIn log n = top :: outer ∧ (recordAt log top n).name = className
  /-- Every class that is opened is closed, or a warning says that it is not. -/
  balance : (read source).events.countP Event.isOpening =
    (read source).events.countP Event.isClosing + (read source).events.countP Event.isUnclosed
  /-- Lines that are dropped or skipped are those that change nothing. -/
  idle_iff : ∀ n line, (normalLines source)[n]? = some line →
    ((log[n]?.any Event.isIdle) = true ↔ outlineAfter (normalLines source) (n + 1) =
      outlineAfter (normalLines source) n)

section Lines

variable {lines : List Text} {n : Nat}

/-- The classes that are open before a line are those that the positions in the log tell. -/
theorem opened_outlineAfter (lines : List Text) (n : Nat) :
    (outlineAfter lines n).opened = (openIn (lineLog lines) n).map fun i => recordAt (lineLog lines) i n := by
  rw [← replay_take_lineLog]
  exact opened_replay (lineLog lines) n

/-- The innermost class that is open before a line has a position in the log. -/
theorem exists_top {inner : DataClass} {outer : List DataClass}
    (h : (outlineAfter lines n).opened = inner :: outer) :
    ∃ top rest, openIn (lineLog lines) n = top :: rest ∧ recordAt (lineLog lines) top n = inner := by
  rw [opened_outlineAfter] at h
  obtain ⟨top, rest, hopen, htop, -⟩ := List.map_eq_cons_iff.1 h
  exact ⟨top, rest, hopen, htop⟩

/-- The log tells how deep a class is nested. -/
theorem depth_lineLog {name : Text} {depth : Nat} (h : (lineLog lines)[n]? = some (.opening name depth)) :
    depth = (openIn (lineLog lines) n).length := by
  obtain ⟨next, heffect⟩ := exists_effect h
  rw [heffect.depth_eq, opened_outlineAfter, List.length_map]

/-- The log closes the innermost class, with as many properties as it has added to it. -/
theorem closing_lineLog {name : Text} {properties : Nat}
    (h : (lineLog lines)[n]? = some (.closing name properties)) :
    ∃ top outer, openIn (lineLog lines) n = top :: outer ∧ (recordAt (lineLog lines) top n).name = name ∧
      properties = (additionsTo (lineLog lines) top n).length := by
  obtain ⟨next, heffect⟩ := exists_effect h
  obtain ⟨inner, _, hopened, hname, hproperties⟩ := heffect.exists_closed
  obtain ⟨top, outer, hopen, rfl⟩ := exists_top hopened
  exact ⟨top, outer, hopen, hname, hproperties.symm⟩

/-- The log adds properties to the innermost class. -/
theorem adding_lineLog {className name sourceType : Text}
    (h : (lineLog lines)[n]? = some (.adding className name sourceType)) :
    ∃ top outer, openIn (lineLog lines) n = top :: outer ∧
      (recordAt (lineLog lines) top n).name = className := by
  obtain ⟨next, heffect⟩ := exists_effect h
  obtain ⟨inner, _, hopened, hname⟩ := heffect.exists_innermost
  obtain ⟨top, outer, hopen, rfl⟩ := exists_top hopened
  exact ⟨top, outer, hopen, hname⟩

/-- The log drops or skips a line if and only if the line changes nothing. -/
theorem isIdle_lineLog_iff {line : Text} (hline : lines[n]? = some line) :
    (lineLog lines)[n]?.any Event.isIdle = true ↔ outlineAfter lines (n + 1) = outlineAfter lines n := by
  rw [getElem?_lineLog, hline, outlineAfter_succ hline]
  exact (Outline.effect_addLine _ line).isIdle_iff

end Lines

/-- Every source has a log of one event for each line that tells how it is read: replayed, it leaves the model
of the source and the classes left open; at any time it tells which classes are open and what was added to
them; and it drops or skips exactly the lines that change nothing. -/
theorem read_log_replays (source : Text) : ∃ log, TellsReading source log := by
  have hreplay := replay_lineLog (normalLines source)
  have hevents : (read source).events = .readingStarts (byteSize source) :: lineLog (normalLines source) ++
      (Outline.replay (lineLog (normalLines source))).opened.reverse.map (.unclosed ·.name) := by
    rw [hreplay]
    rfl
  refine ⟨lineLog (normalLines source), hevents, length_events_addLines _ _, ?_, opened_replay _,
    fun n name depth => depth_lineLog, fun n name properties => closing_lineLog,
    fun n className name sourceType => adding_lineLog, ?_, fun n line => isIdle_lineLog_iff⟩
  · rw [hreplay]
    rfl
  · obtain ⟨hwarnings, hopenings, hclosings⟩ := countP_unclosed
      (Outline.replay (lineLog (normalLines source))).opened.reverse
    have hbalance := countP_isOpening_addLines Outline.empty (normalLines source)
    have hlines := countP_isUnclosed_addLines Outline.empty (normalLines source)
    simp only [hevents, List.cons_append, List.countP_cons, List.countP_append, hwarnings, hopenings, hclosings]
    rw [hreplay, List.length_reverse]
    simp only [lineLog, hlines, Event.isOpening, Event.isClosing, Event.isUnclosed]
    simpa [Outline.empty, Nat.add_comm] using hbalance

end Source

end InterfaceGen
