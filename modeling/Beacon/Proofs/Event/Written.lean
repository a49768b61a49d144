import Beacon.Proofs.Datum.Spacing
import Beacon.Proofs.Event.Delivery

/-!
# Events That Were Written

Events that are written on a stream of lines are read back, all of them and in order.

A writer has much freedom. The data of an event may stand on several lines, and the blank
after the colon of a field may be there or not. Lines may end in carriage returns. A line
that says nothing, a comment or a field of a name that is not known, may stand anywhere
between other lines, and so it may make a run of lines of its own. Frames are kept apart by
one or more blank lines, and the last of them may go without.

None of it makes a difference. A line that says nothing can be taken out of the stream
wherever it stands at the beginning of a run, and so can a blank line that ends nothing.
What is left of a frame then is a run of lines of its own, with one topic, and with data
that have lost no more than blanks at the ends of their lines, which are blanks of JSON.

## Main definitions

* `Draft`: An event as it is written.
* `Frame.Spells`: A line that gives a field a value.
* `Frame.Idle`: A line that says nothing.
* `Frame.Fills`: The lines of a frame.
* `Frame.Writes`: The lines of a stream that events are written on.

## Theorems

* `Frame.items_quiet`, `Frame.items_blank`: Lines that make no difference.
* `Frame.items_of_fills`: A frame delivers the event it was written for.
* `Frame.read_of_writes`: Events are read as they were written.
-/

namespace Beacon

/-- An event as it is written: the text of its data is given line by line. -/
structure Draft where
  /-- What it is about. -/
  topic : Text
  /-- The lines of its data. -/
  rows : List Text
  /-- What the data say. -/
  data : Datum

namespace Draft

/-- The event. -/
def event (e : Draft) : Event := ⟨e.topic, e.data⟩

/-- An event that can be written: its topic stands on one line and does not start with a
    blank, and its lines are JSON for what it says. -/
structure Sound (e : Draft) : Prop where
  /-- No line ends in the topic. -/
  line : ∀ p ∈ e.topic, p ≠ .char '\r' ∧ p ≠ .char '\n'
  /-- The topic does not start with a blank. -/
  start : e.topic.head? ≠ some (.char ' ')
  /-- The lines are JSON. -/
  reads : Datum.parse (Text.join "\n" e.rows) = .ok e.data

end Draft

namespace Frame

/-- Carriage returns, as many as there may be at the end of a line. -/
def returns (n : Nat) : Text := List.replicate n (.char '\r')

/-- A line gives a field a value, with or without a blank after the colon. -/
def Spells (name : String) (value line : Text) : Prop :=
  ∃ space n, (space = [] ∨ space = [.char ' ']) ∧
    line = name ++ (colon :: (space ++ (value ++ returns n)))

/-- The names of the fields that say something. -/
def known : List Text := ["event", "data"]

/-- A line that says nothing: a comment, or a field of a name that is not known, with a
    value or without. -/
inductive Idle : Text → Prop
  | comment (t : Text) : Idle (colon :: t)
  | unknown (name value : Text) (hcolon : colon ∉ name) (hname : name ∉ known) :
      Idle (name ++ colon :: value)
  | bare (name : Text) (n : Nat) (hcolon : colon ∉ name) (hname : name ∉ known)
      (hlines : name ≠ []) (hreturn : name.getLast? ≠ some (.char '\r')) :
      Idle (name ++ returns n)

/-- The lines of a frame, for the topic and for the rows of data that are still to come. -/
inductive Fills : Option Text → List Text → List Text → Prop
  | done : Fills none [] []
  | topic {name line : Text} {rows lines : List Text} (hline : Spells "event" name line)
      (h : Fills none rows lines) : Fills (some name) rows (line :: lines)
  | row {name : Option Text} {row line : Text} {rows lines : List Text}
      (hline : Spells "data" row line) (h : Fills name rows lines) :
      Fills name (row :: rows) (line :: lines)
  | idle {name : Option Text} {line : Text} {rows lines : List Text} (hline : Idle line)
      (h : Fills name rows lines) : Fills name rows (line :: lines)

/-- Lines between frames: they are blank or say nothing. -/
def Pause (lines : List Text) : Prop := ∀ line ∈ lines, Idle line ∨ ∃ n, line = returns n

/-- The lines of a stream that events are written on. A blank line closes a frame, and it
    need not be there for the last one. -/
inductive Writes : List Draft → List Text → Prop
  | stop {pause : List Text} (hpause : Pause pause) : Writes [] pause
  | unclosed {e : Draft} {pause lines : List Text} (hpause : Pause pause)
      (hlines : Fills (some e.topic) e.rows lines) : Writes [e] (pause ++ lines)
  | closed {e : Draft} {es : List Draft} {pause lines rest : List Text} (n : Nat)
      (hpause : Pause pause) (hlines : Fills (some e.topic) e.rows lines)
      (h : Writes es rest) : Writes (e :: es) (pause ++ (lines ++ returns n :: rest))

/-- What rows of lines deliver between empty ones. -/
def items (lines : List Text) : Feed := (lines.splitOnP List.isEmpty).filterMap item?

/-- A text without the blank it starts with. -/
def unspaced : Text → Text
  | .char ' ' :: t => t
  | t => t

/-! ### Carriage returns -/

/-- What stands behind a code point that is no carriage return loses its own only. -/
theorem trimmed_append_cons (u v : Text) (p : CodePoint) (hp : p ≠ .char '\r') :
    trimmed (u ++ p :: v) = u ++ p :: trimmed v := by
  have hkeep : ¬decide (p = .char '\r') = true := by rwa [decide_eq_true_eq]
  rw [trimmed, List.reverse_append, List.reverse_cons, List.append_assoc, List.dropWhile_append]
  split
  · rename_i hnil
    rw [List.singleton_append, List.dropWhile_cons, if_neg hkeep, trimmed,
      List.isEmpty_iff.mp hnil, List.reverse_cons, List.reverse_reverse]
    rfl
  · rw [List.reverse_append, List.reverse_append, List.reverse_reverse, List.append_assoc]
    rfl

theorem trimmed_returns (v : Text) (n : Nat) : trimmed (v ++ returns n) = trimmed v := by
  have hall : ∀ p ∈ (returns n).reverse, decide (p = CodePoint.char '\r') = true := by
    intro p hp
    rw [List.eq_of_mem_replicate (List.mem_reverse.mp hp), decide_eq_true_eq]
  rw [trimmed, List.reverse_append, List.dropWhile_append_of_pos hall]
  rfl

/-- A line that does not end in a carriage return is left as it is. -/
theorem trimmed_eq_self {v : Text} (h : v.getLast? ≠ some (.char '\r')) : trimmed v = v := by
  obtain rfl | ⟨u, p, rfl⟩ := List.eq_nil_or_concat v
  · rfl
  · rw [List.concat_eq_append] at h ⊢
    refine trimmed_concat u p fun hp => h ?_
    rw [List.getLast?_concat, hp]

/-- A line is what is left of it, and blanks. -/
theorem exists_trimmed (v : Text) : ∃ behind, v = trimmed v ++ behind ∧ Datum.Blank behind := by
  refine ⟨(v.reverse.takeWhile (· = .char '\r')).reverse, ?_, ?_⟩
  · rw [trimmed, ← List.reverse_append, List.takeWhile_append_dropWhile, List.reverse_reverse]
  · intro p hp
    rw [List.mem_reverse] at hp
    have hreturn := List.mem_takeWhile_imp hp
    rw [decide_eq_true_eq] at hreturn
    rw [hreturn]
    rfl

/-! ### Lines -/

/-- The field of a line with a colon. -/
theorem field_append_colon {name : Text} (hcolon : colon ∉ name) (w : Text) :
    field (name ++ colon :: w) = (name, unspaced w) := by
  have hname : ∀ p ∈ name, decide (p ≠ colon) = true := by
    intro p hp
    rw [decide_eq_true_eq]
    rintro rfl
    exact hcolon hp
  have hstop : ¬decide (colon ≠ colon) = true := by decide
  rw [field, List.dropWhile_append_of_pos hname, List.dropWhile_cons, if_neg hstop,
    List.takeWhile_append_of_pos hname, List.takeWhile_cons, if_neg hstop, List.append_nil,
    List.drop_one, List.tail_cons]
  split
  · rfl
  · rename_i hspace
    rw [unspaced]
    exact hspace

/-- The field of a line without a colon has no value. -/
theorem field_bare {name : Text} (hcolon : colon ∉ name) : field name = (name, []) := by
  have hname : ∀ p ∈ name, decide (p ≠ colon) = true := by
    intro p hp
    rw [decide_eq_true_eq]
    rintro rfl
    exact hcolon hp
  rw [field, List.dropWhile_eq_nil_iff.mpr hname, List.takeWhile_eq_self_iff.mpr hname]
  rfl

/-- What is left of a line that gives a field a value. -/
theorem trimmed_of_spells {name : String} {value line : Text} (h : Spells name value line) :
    ∃ w, trimmed line = name ++ colon :: w ∧
      (w = trimmed value ∨ w = .char ' ' :: trimmed value) := by
  obtain ⟨space, n, hspace, rfl⟩ := h
  have hne : colon ≠ .char '\r' := by decide
  rw [trimmed_append_cons _ _ _ hne, ← List.append_assoc, trimmed_returns]
  refine ⟨_, rfl, ?_⟩
  rcases hspace with rfl | rfl
  · exact .inl rfl
  · exact .inr (trimmed_append_cons [] value (.char ' ') (by decide))

/-- A value loses no more than blanks that it starts and ends with. -/
theorem padded_of_spelled {value w : Text}
    (h : w = trimmed value ∨ w = .char ' ' :: trimmed value) : Datum.Padded value (unspaced w) := by
  obtain ⟨behind, hsplit, hbehind⟩ := exists_trimmed value
  obtain ⟨before, hfront, hbefore⟩ :
      ∃ before, trimmed value = before ++ unspaced w ∧ Datum.Blank before := by
    rcases h with rfl | rfl
    · by_cases hspace : ∃ t, trimmed value = .char ' ' :: t
      · obtain ⟨t, ht⟩ := hspace
        rw [ht]
        exact ⟨[.char ' '], rfl, List.forall_mem_singleton.mpr rfl⟩
      · refine ⟨[], ?_, List.forall_mem_nil _⟩
        rw [unspaced]
        · rfl
        · exact fun t ht => hspace ⟨t, ht⟩
    · exact ⟨[], rfl, List.forall_mem_nil _⟩
  refine ⟨before, behind, ?_, hbefore, hbehind⟩
  rw [← List.append_assoc, ← hfront]
  exact hsplit

/-- A topic is spelled as it is. -/
theorem unspaced_of_sound {e : Draft} (he : e.Sound) {w : Text}
    (h : w = trimmed e.topic ∨ w = .char ' ' :: trimmed e.topic) : unspaced w = e.topic := by
  have htrimmed : trimmed e.topic = e.topic :=
    trimmed_eq_self fun hlast => (he.line _ (List.mem_of_getLast? hlast)).1 rfl
  rw [htrimmed] at h
  rcases h with rfl | rfl
  · -- Without a blank after the colon, the topic must not bring one of its own.
    rw [unspaced]
    exact fun t ht => he.start (by rw [ht]; rfl)
  · rfl

/-! ### Lines that say nothing -/

theorem fields_cons (line : Text) (lines : List Text) :
    fields (line :: lines) = fields [line] ++ fields lines := by
  rw [fields, fields, fields, ← List.map_append, ← List.filter_append]
  rfl

theorem values_append (name : String) (a b : List (Text × Text)) :
    values name (a ++ b) = values name a ++ values name b := by
  rw [values, List.filter_append, List.map_append]
  rfl

/-- A field has the values that a line gives it, and those of the lines behind it. -/
theorem values_cons (name : String) (line : Text) (lines : List Text) :
    values name (fields (line :: lines))
      = values name (fields [line]) ++ values name (fields lines) := by
  rw [fields_cons, values_append]

/-- A line with something on it that is neither topic nor data. -/
structure Quiet (line : Text) : Prop where
  /-- There is something on it. -/
  filled : line ≠ []
  /-- It is no topic. -/
  event : values "event" (fields [line]) = []
  /-- It is no data. -/
  data : values "data" (fields [line]) = []

/-- A line that is neither empty nor a comment has one field. -/
theorem fields_singleton {line : Text} (h : isIdle line = false) :
    fields [line] = [field line] := by
  rw [fields, List.filter_cons_of_pos (by rw [h]; rfl), List.filter_nil, List.map_singleton]

theorem values_singleton_of_ne {name : String} {field : Text × Text} (h : field.1 ≠ name) :
    values name [field] = [] := by
  rw [values, List.filter_cons_of_neg (by rwa [decide_eq_true_eq])]
  rfl

theorem values_singleton (name : String) (value : Text) :
    values name [(Text.ofString name, value)] = [value] := by
  rw [values, List.filter_cons_of_pos (by rw [decide_eq_true_eq])]
  rfl

/-- A line whose field has a name that is not known says nothing. -/
theorem quiet_of_field {line : Text} (hline : line ≠ []) (hname : (field line).1 ∉ known) :
    Quiet line := by
  simp only [known, List.mem_cons, List.not_mem_nil, or_false, not_or] at hname
  by_cases hidle : isIdle line = true
  · -- The name of the field is empty, so that the line is a comment.
    have hnone : fields [line] = [] := by
      rw [fields, List.filter_cons_of_neg (by rw [hidle]; exact Bool.false_ne_true)]
      rfl
    exact ⟨hline, by rw [hnone]; rfl, by rw [hnone]; rfl⟩
  · have hone := fields_singleton (Bool.eq_false_iff.mpr hidle)
    refine ⟨hline, ?_, ?_⟩
    · rw [hone]
      exact values_singleton_of_ne hname.1
    · rw [hone]
      exact values_singleton_of_ne hname.2

/-- What is left of a line that says nothing says nothing. -/
theorem quiet_of_idle {line : Text} (h : Idle line) : Quiet (trimmed line) := by
  have hreturn : colon ≠ .char '\r' := by decide
  cases h with
  | comment t =>
      have htrimmed : trimmed (colon :: t) = colon :: trimmed t :=
        trimmed_append_cons [] t colon hreturn
      rw [htrimmed]
      exact ⟨List.cons_ne_nil _ _, rfl, rfl⟩
  | unknown name value hcolon hname =>
      rw [trimmed_append_cons _ _ _ hreturn]
      refine quiet_of_field (List.append_ne_nil_of_right_ne_nil _ (List.cons_ne_nil _ _)) ?_
      rw [field_append_colon hcolon]
      exact hname
  | bare name n hcolon hname hlines hend =>
      rw [trimmed_returns, trimmed_eq_self hend]
      refine quiet_of_field hlines ?_
      rw [field_bare hcolon]
      exact hname

/-- What lines deliver is up to the values of two fields. -/
theorem item?_congr {lines lines' : List Text}
    (hevent : values "event" (fields lines) = values "event" (fields lines'))
    (hdata : values "data" (fields lines) = values "data" (fields lines')) :
    item? lines = item? lines' := by
  simp only [item?, hevent, hdata]

/-! ### Runs of lines -/

/-- A blank line that ends nothing makes no difference. -/
theorem items_blank (lines : List Text) : items ([] :: lines) = items lines := by
  have hempty : ([] : Text).isEmpty = true := rfl
  rw [items, List.splitOnP_cons_eq_if_modifyHead, if_pos hempty]
  rfl

/-- A line that says nothing makes no difference. -/
theorem items_quiet {line : Text} (h : Quiet line) (lines : List Text) :
    items (line :: lines) = items lines := by
  obtain ⟨run, runs, hruns⟩ := List.exists_cons_of_ne_nil (List.splitOnP_ne_nil List.isEmpty lines)
  have hline : ¬line.isEmpty = true := fun hempty => h.filled (List.isEmpty_iff.mp hempty)
  have hitem : item? (line :: run) = item? run := by
    refine item?_congr ?_ ?_
    · rw [values_cons, h.event, List.nil_append]
    · rw [values_cons, h.data, List.nil_append]
  rw [items, items, List.splitOnP_cons_eq_if_modifyHead, if_neg hline, hruns,
    List.modifyHead_cons, List.filterMap_cons, List.filterMap_cons, hitem]

/-- Nothing that stands between frames makes a difference. -/
theorem items_pause {pause : List Text} (h : Pause pause) (lines : List Text) :
    items (pause.map trimmed ++ lines) = items lines := by
  induction pause with
  | nil => rfl
  | cons line pause ih =>
      rw [Pause, List.forall_mem_cons] at h
      rw [List.map_cons, List.cons_append]
      obtain ⟨hidle | ⟨n, rfl⟩, hpause⟩ := h
      · rw [items_quiet (quiet_of_idle hidle)]
        exact ih hpause
      · rw [← List.nil_append (returns n), trimmed_returns]
        exact (items_blank _).trans (ih hpause)

/-- A blank line keeps frames apart. -/
theorem items_append (lines rest : List Text) :
    items (lines ++ [] :: rest) = items lines ++ items rest := by
  rw [items, List.splitOnP_append_cons lines rest rfl, List.filterMap_append]
  rfl

/-- Lines without a blank one are a run. -/
theorem items_run {lines : List Text} (h : ∀ line ∈ lines, line ≠ []) :
    items lines = (item? lines).toList := by
  have hlines : ∀ line ∈ lines, line.isEmpty = false := fun line hline =>
    Bool.eq_false_iff.mpr fun hempty => h line hline (List.isEmpty_iff.mp hempty)
  rw [items, List.splitOnP_eq_singleton hlines]
  cases hitem : item? lines with
  | none => rw [List.filterMap_cons_none hitem]; rfl
  | some item => rw [List.filterMap_cons_some hitem]; rfl

/-! ### Frames -/

section Fill

variable {e : Draft} (he : e.Sound)
include he

/-- The lines of a frame give the topic to one field and the data to another, and none of
    them is blank. -/
theorem values_of_fills {name : Option Text} {rows lines : List Text} (h : Fills name rows lines)
    (hname : ∀ t ∈ name, t = e.topic) :
    values "event" (fields (lines.map trimmed)) = name.toList ∧
      List.Forall₂ Datum.Padded rows (values "data" (fields (lines.map trimmed))) ∧
      ∀ line ∈ lines.map trimmed, line ≠ [] := by
  have hnames : Text.ofString "event" ≠ Text.ofString "data" := by decide
  induction h with
  | done => exact ⟨rfl, .nil, List.forall_mem_nil _⟩
  | @topic name line rows lines hline _ ih =>
      obtain ⟨hevent, hdata, hlines⟩ := ih fun t ht => absurd ht (Option.not_mem_none t)
      obtain ⟨w, htrimmed, hw⟩ := trimmed_of_spells hline
      rw [hname name rfl] at hw ⊢
      have hfields : fields [trimmed line] = [(Text.ofString "event", unspaced w)] := by
        rw [htrimmed, fields_singleton (by rfl), field_append_colon (by decide)]
      refine ⟨?_, ?_, List.forall_mem_cons.mpr ⟨?_, hlines⟩⟩
      · rw [List.map_cons, values_cons, hfields, values_singleton, hevent, unspaced_of_sound he hw]
        rfl
      · rw [List.map_cons, values_cons, hfields, values_singleton_of_ne hnames]
        exact hdata
      · rw [htrimmed]
        exact List.append_ne_nil_of_right_ne_nil _ (List.cons_ne_nil _ _)
  | @row name row line rows lines hline _ ih =>
      obtain ⟨hevent, hdata, hlines⟩ := ih hname
      obtain ⟨w, htrimmed, hw⟩ := trimmed_of_spells hline
      have hfields : fields [trimmed line] = [(Text.ofString "data", unspaced w)] := by
        rw [htrimmed, fields_singleton (by rfl), field_append_colon (by decide)]
      refine ⟨?_, ?_, List.forall_mem_cons.mpr ⟨?_, hlines⟩⟩
      · rw [List.map_cons, values_cons, hfields, values_singleton_of_ne hnames.symm]
        exact hevent
      · rw [List.map_cons, values_cons, hfields, values_singleton]
        exact .cons (padded_of_spelled hw) hdata
      · rw [htrimmed]
        exact List.append_ne_nil_of_right_ne_nil _ (List.cons_ne_nil _ _)
  | @idle name line rows lines hline _ ih =>
      -- The line is in the run all the same, so that it must not be blank.
      obtain ⟨hevent, hdata, hlines⟩ := ih hname
      have hquiet := quiet_of_idle hline
      refine ⟨?_, ?_, List.forall_mem_cons.mpr ⟨hquiet.filled, hlines⟩⟩
      · rw [List.map_cons, values_cons, hquiet.event]
        exact hevent
      · rw [List.map_cons, values_cons, hquiet.data]
        exact hdata

/-- A frame delivers the event it was written for. -/
theorem items_of_fills {lines : List Text} (h : Fills (some e.topic) e.rows lines) :
    items (lines.map trimmed) = [.event e.event] := by
  obtain ⟨hevent, hrows, hlines⟩ := values_of_fills he h fun t ht => (Option.some.inj ht).symm
  have htopic : topic (lines.map trimmed) = e.topic := by
    rw [topic, hevent]
    rfl
  have hparse := Datum.parse_join hrows he.reads
  have hdata : data? (lines.map trimmed)
      = some (Text.join "\n" (values "data" (fields (lines.map trimmed)))) := by
    unfold data?
    split
    · -- There is nothing to read in no data at all.
      rename_i hnone
      have hnothing : Datum.parse (Text.join "\n" []) = .error .malformed := by rfl
      rw [hnone, hnothing] at hparse
      exact absurd hparse (by simp only [reduceCtorEq, not_false_eq_true])
    · rfl
  rw [items_run hlines, item?_of_some _ _ hdata, hparse, htopic]
  rfl

end Fill

/-- A stream delivers the events that are written on it, and nothing else. -/
theorem items_of_writes {es : List Draft} {lines : List Text} (hes : ∀ e ∈ es, e.Sound)
    (h : Writes es lines) : items (lines.map trimmed) = es.map fun e => .event e.event := by
  induction h with
  | stop hpause =>
      rw [← List.append_nil (List.map _ _), items_pause hpause]
      rfl
  | unclosed hpause hlines =>
      rw [List.map_append, items_pause hpause, items_of_fills (hes _ List.mem_cons_self) hlines]
      rfl
  | closed n hpause hlines _ ih =>
      -- The closing line is blank once it is trimmed, and there the stream is cut.
      rw [List.forall_mem_cons] at hes
      have hblank : trimmed (returns n) = [] := trimmed_returns [] n
      rw [List.map_append, items_pause hpause, List.map_append, List.map_cons, hblank, items_append,
        items_of_fills hes.1 hlines, ih hes.2]
      rfl

/-- Events that are written on a stream are read in their order, each of them once, with
    their topics and with what their data say. Nothing breaks, and there is no warning. -/
theorem read_of_writes (es : List Draft) (lines : List Text) (hes : ∀ e ∈ es, e.Sound)
    (h : Writes es lines) : Feed.read (feed lines none) = ⟨es.map Draft.event, none, []⟩ := by
  have hitems := items_of_writes hes h
  rw [items] at hitems
  have hread := read_events (es.map Draft.event) []
  rw [List.append_nil, List.map_map] at hread
  rw [feed_eq, frames, filterMap_hasLines, hitems]
  refine hread.trans ?_
  rw [Feed.read, List.append_nil]

/-- Two events on a stream with a comment, fields that are not known, carriage returns, blank
    lines and data on several lines, of which the second is not closed. -/
theorem read_head_and_block :
    let head : Draft := ⟨"head", ["\x7b\"slot\":", " \"7\"\x7d\r"], .record [("slot", .text "7")]⟩
    let block : Draft := ⟨"block", [" [1,", "true]"], .list [.int 1, .bool true]⟩
    let lines : List Text := ["\r", ": ping", "id: 3", "retry", "event:head\r",
      "data:\x7b\"slot\":", ":", "data: \"7\"\x7d\r\r", "\r", "", ":", "", "data: [1,",
      "event: block", "data: true]"]
    (∀ e ∈ [head, block], e.Sound) ∧ Writes [head, block] lines ∧
      Feed.read (feed lines none) = ⟨[head.event, block.event], none, []⟩ := by
  intro head block lines
  have hhead : head.Sound := ⟨by decide, by decide, by rfl⟩
  have hblock : block.Sound := ⟨by decide, by decide, by rfl⟩
  have hes : ∀ e ∈ [head, block], e.Sound :=
    List.forall_mem_cons.mpr ⟨hhead, List.forall_mem_singleton.mpr hblock⟩
  have hpause : Pause ["\r", ": ping", "id: 3", "retry"] := by
    simp only [Pause, List.forall_mem_cons, List.not_mem_nil, false_implies, implies_true, and_true]
    exact ⟨.inr ⟨1, rfl⟩, .inl (.comment " ping"),
      .inl (.unknown "id" " 3" (by decide) (by decide)),
      .inl (.bare "retry" 0 (by decide) (by decide) (by decide) (by decide))⟩
  have hlines : Fills (some head.topic) head.rows
      ["event:head\r", "data:\x7b\"slot\":", ":", "data: \"7\"\x7d\r\r"] :=
    .topic ⟨[], 1, .inl rfl, rfl⟩ (.row ⟨[], 0, .inl rfl, rfl⟩ (.idle (.comment [])
      (.row ⟨[], 1, .inl rfl, rfl⟩ .done)))
  have hnext : Pause ["", ":", ""] := by
    simp only [Pause, List.forall_mem_cons, List.not_mem_nil, false_implies, implies_true, and_true]
    exact ⟨.inr ⟨0, rfl⟩, .inl (.comment []), .inr ⟨0, rfl⟩⟩
  have hrest : Fills (some block.topic) block.rows ["data: [1,", "event: block", "data: true]"] :=
    .row ⟨[], 0, .inl rfl, rfl⟩ (.topic ⟨[.char ' '], 0, .inr rfl, rfl⟩
      (.row ⟨[.char ' '], 0, .inr rfl, rfl⟩ .done))
  have hwrites := Writes.closed 1 hpause hlines (.unclosed hnext hrest)
  exact ⟨hes, hwrites, read_of_writes _ _ hes hwrites⟩

end Frame

end Beacon
