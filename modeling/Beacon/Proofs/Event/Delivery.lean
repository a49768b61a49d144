import Beacon.Event.Frame
import Beacon.Proofs.Datum.Place

/-!
# What Frames Deliver

What a stream of lines delivers, told frame by frame.

The frames of a stream are its rows of lines without an empty one, and one frame
says nothing about another. A frame without data delivers nothing. Data that is
JSON is an event, and data that is not is passed over with a warning, so neither
keeps later frames from their turn.

There is one kind of data for which this is not so. A whole number of more digits
than are read is a fault of its own kind, and instead of a warning it makes the
stream break. The events before it are delivered, and the ones after it are lost.
Such data has a row of so many digits outside of strings, so a stream in which no
frame has one is read to its end.

## Main definitions

* `Frame.data?`, `Frame.topic`: The data and the topic of a frame.
* `Frame.event?`, `Frame.warning?`: The event and the warning of a frame.
* `Frame.Breaks`: A number in the data of a frame has too many digits.
* `Frame.Within`: No brackets of the data are too deep.
* `Frame.frames`: The frames of a stream.
* `Frame.closed`: The frames of a stream that a blank line closes.

## Theorems

* `Frame.feed_eq`: A stream delivers what its frames deliver.
* `Frame.runs_fst`: The frames that are closed have their turn as soon as they are.
* `Frame.item?_cases`: What a frame delivers that does not break.
* `Frame.read_append`: Frames that do not break have their turn, and then others.
* `Frame.read_frames`: What a stream delivers, and what breaks it.
-/

namespace Beacon

namespace Frame

/-- The data of a frame, if it has any. -/
def data? (run : List Text) : Option Text :=
  match values "data" (fields run) with
  | [] => none
  | data => some (Text.join "\n" data)

/-- The topic of a frame. -/
def topic (run : List Text) : Text := ((values "event" (fields run)).getLast?).getD ↑"message"

/-- The event of a frame, if its data is JSON. -/
def event? (run : List Text) : Option Event :=
  (data? run).bind fun data => match Datum.parse data with
    | .ok d => some ⟨topic run, d⟩
    | .error _ => none

/-- The warning that a frame has data which is no JSON. -/
def warning? (run : List Text) : Option Log.Record :=
  (data? run).bind fun data => match Datum.parse data with
    | .error .malformed => some (Log.warning .events ("Failed to parse SSE data: " ++ data))
    | _ => none

/-- A number in the data of a frame has so many digits, and these are too many. -/
def Breaks (run : List Text) (count : Nat) : Prop :=
  ∃ data ∈ data? run, Datum.parse data = .error (.tooManyDigits count)

/-- A frame in whose data no number has too many digits. -/
def Whole (run : List Text) : Prop := ∀ count, ¬Breaks run count

/-- No more brackets are open in the data of a frame than there is room for. -/
def Within (run : List Text) : Prop :=
  ∀ data ∈ data? run, Datum.Nested Datum.maxDepth data

/-- A row has lines. -/
def hasLines (run : List Text) : Bool := !run.isEmpty

/-- The rows of lines without an empty one, the carriage returns at the ends of lines
    not counted. -/
def frames (lines : List Text) : List (List Text) :=
  ((lines.map trimmed).splitOnP List.isEmpty).filter hasLines

/-- The rows of lines that an empty one closes: there is none behind the last row. -/
def closed (lines : List Text) : List (List Text) :=
  (((lines.map trimmed).splitOnP List.isEmpty).dropLast).filter hasLines

/-! ### Frames -/

/-- A line that does not end in a carriage return is left as it is. -/
theorem trimmed_concat (line : Text) (p : CodePoint) (h : p ≠ .char '\r') :
    trimmed (line ++ [p]) = line ++ [p] := by
  rw [trimmed, List.reverse_append, List.reverse_singleton, List.singleton_append,
    List.dropWhile_cons_of_neg (by rwa [decide_eq_true_eq]), List.reverse_cons,
    List.reverse_reverse]

theorem modifyHead_nil_append (rows : List (List Text)) :
    rows.modifyHead (([] : List Text).reverse ++ ·) = rows := congrFun List.modifyHead_id rows

/-- The runs that close and the one that is open at the end are the rows between empty
    lines, as far as they have lines. -/
theorem filter_runsFrom (run lines : List Text) :
    ((runsFrom run lines).1 ++ [(runsFrom run lines).2]).filter hasLines
      = ((lines.splitOnP List.isEmpty).modifyHead (run.reverse ++ ·)).filter hasLines := by
  induction lines generalizing run with
  | nil => rw [List.splitOnP_nil, List.modifyHead_cons, List.append_nil]; rfl
  | cons line rest ih =>
      rw [runsFrom, List.splitOnP_cons_eq_if_modifyHead]
      by_cases hline : line.isEmpty = true
      · -- An empty line closes the run that is open, and the next one starts with nothing.
        have hrest := ih []
        rw [modifyHead_nil_append] at hrest
        rw [if_pos hline, if_pos hline, List.modifyHead_cons, List.append_nil]
        cases run with
        | nil => exact hrest
        | cons last run =>
            have hrun : hasLines (last :: run).reverse = true := by
              simp only [hasLines, List.isEmpty_reverse, List.isEmpty_cons, Bool.not_false]
            rw [List.filter_cons_of_pos hrun, ← hrest]
            exact List.filter_cons_of_pos hrun
      · rw [if_neg hline, if_neg hline, ih, List.modifyHead_modifyHead, List.reverse_cons]
        congr 2
        funext row
        rw [Function.comp_apply, List.append_assoc]
        rfl

/-- The runs that close are the rows between empty lines but the last, as far as they have
    lines. -/
theorem runsFrom_fst (run lines : List Text) :
    (runsFrom run lines).1 = (((lines.splitOnP List.isEmpty).modifyHead
      (run.reverse ++ ·)).dropLast).filter hasLines := by
  induction lines generalizing run with
  | nil => rw [List.splitOnP_nil]; rfl
  | cons line rest ih =>
      rw [runsFrom, List.splitOnP_cons_eq_if_modifyHead]
      by_cases hline : line.isEmpty = true
      · have hrest := ih []
        rw [modifyHead_nil_append] at hrest
        rw [if_pos hline, if_pos hline, List.modifyHead_cons, List.append_nil,
          List.dropLast_cons_of_ne_nil (List.splitOnP_ne_nil _ _)]
        cases run with
        | nil => exact hrest
        | cons last run =>
            have hrun : hasLines (last :: run).reverse = true := by
              simp only [hasLines, List.isEmpty_reverse, List.isEmpty_cons, Bool.not_false]
            rw [List.filter_cons_of_pos hrun, ← hrest]
            rfl
      · rw [if_neg hline, if_neg hline, ih, List.modifyHead_modifyHead, List.reverse_cons]
        congr 3
        funext row
        rw [Function.comp_apply, List.append_assoc]
        rfl

/-- The frames of a stream that are closed are those that a blank line closes. -/
theorem runs_fst (lines : List Text) : (runs lines).1 = closed lines := by
  rw [runs, runsFrom_fst, modifyHead_nil_append, closed]

/-- A row without lines delivers nothing, so it makes no difference whether it counts. -/
theorem filterMap_hasLines (rows : List (List Text)) :
    (rows.filter hasLines).filterMap item? = rows.filterMap item? := by
  rw [List.filterMap_filter]
  refine List.filterMap_congr fun run _ => ?_
  cases run with
  | nil => rfl
  | cons line rest => rfl

/-- A stream that ends delivers what its frames deliver. -/
theorem feed_eq (lines : List Text) : feed lines none = (frames lines).filterMap item? := by
  have hrows := filter_runsFrom [] (lines.map trimmed)
  rw [modifyHead_nil_append] at hrows
  rw [frames, ← hrows, filterMap_hasLines, List.filterMap_append]
  refine congrArg ((runs lines).1.filterMap item? ++ ·) ?_
  change (item? (runs lines).2).toList = [(runs lines).2].filterMap item?
  cases h : item? (runs lines).2 with
  | none => rw [List.filterMap_cons_none h]; rfl
  | some item => rw [List.filterMap_cons_some h]; rfl

/-- A stream that breaks off delivers what its closed frames deliver, and the trouble. -/
theorem feed_broken (lines : List Text) (t : Trouble) :
    feed lines (some t) = (closed lines).filterMap item? ++ [.trouble t] := by
  rw [← runs_fst]
  rfl

/-- A reader has the events that come first, and then what comes after them. -/
theorem read_events (es : List Event) (rest : Feed) :
    Feed.read (es.map .event ++ rest)
      = ⟨es ++ (Feed.read rest).events, (Feed.read rest).broken, (Feed.read rest).logs⟩ := by
  induction es with
  | nil => rfl
  | cons e es ih => rw [List.map_cons, List.cons_append, Feed.read, ih]; rfl

/-! ### What a frame delivers -/

theorem within_of_data {run : List Text} {data : Text} (hdata : data? run = some data)
    (hnested : Datum.Nested Datum.maxDepth data) : Within run := by
  intro other hother
  rw [hdata, Option.mem_some_iff] at hother
  exact hother ▸ hnested

theorem item?_of_none (run : List Text) (h : data? run = none) : item? run = none := by
  unfold data? at h
  unfold item?
  cases hvalues : values "data" (fields run) with
  | nil => simp only [hvalues]
  | cons value rest =>
      rw [hvalues] at h
      exact absurd h (by simp only [reduceCtorEq, not_false_eq_true])

/-- A frame with data delivers what becomes of it. -/
theorem item?_of_some (run : List Text) (data : Text) (h : data? run = some data) :
    item? run = some (match Datum.parse data with
      | .ok d => .event ⟨topic run, d⟩
      | .error .malformed => .log (Log.warning .events ("Failed to parse SSE data: " ++ data))
      | .error (.tooManyDigits count) => .trouble (.breakdown (.digits count))
      | .error (.tooDeep opened) => .trouble (.breakdown (.nesting opened))) := by
  unfold data? at h
  unfold item? topic
  cases hvalues : values "data" (fields run) with
  | nil =>
      rw [hvalues] at h
      exact absurd h (by simp only [reduceCtorEq, not_false_eq_true])
  | cons value rest =>
      simp only [hvalues, Option.some.injEq] at h
      simp only [hvalues, h]
      cases Datum.parse data with
      | ok d => rfl
      | error fault => cases fault <;> rfl

/-- A frame that does not break delivers nothing, its event or its warning. -/
theorem item?_cases (run : List Text) (hwithin : Within run) (hwhole : Whole run) :
    (item? run = none ∧ event? run = none ∧ warning? run = none) ∨
      (∃ e, item? run = some (.event e) ∧ event? run = some e ∧ warning? run = none) ∨
      ∃ r, item? run = some (.log r) ∧ event? run = none ∧ warning? run = some r := by
  unfold event? warning?
  cases hdata : data? run with
  | none => exact .inl ⟨item?_of_none run hdata, rfl, rfl⟩
  | some data =>
      rw [item?_of_some run data hdata, Option.bind_some, Option.bind_some]
      cases hparse : Datum.parse data with
      | ok d => exact .inr (.inl ⟨_, rfl, rfl, rfl⟩)
      | error fault =>
          cases fault with
          | malformed => exact .inr (.inr ⟨_, rfl, rfl, rfl⟩)
          | tooManyDigits count =>
              exact absurd ⟨data, hdata, hparse⟩ (hwhole count)
          | tooDeep nesting =>
              exact absurd hparse (Datum.not_tooDeep data (hwithin data hdata) nesting)

/-- A frame that breaks says how many digits there are. -/
theorem item?_of_breaks (run : List Text) (count : Nat) (h : Breaks run count) :
    item? run = some (.trouble (.breakdown (.digits count))) := by
  obtain ⟨data, hdata, hparse⟩ := h
  rw [item?_of_some run data hdata, hparse]

/-- Frames that do not break have their turn, and then what comes after them. -/
theorem read_append (before : List (List Text)) (rest : Feed)
    (hbefore : ∀ run ∈ before, Within run ∧ Whole run) :
    Feed.read (before.filterMap item? ++ rest) =
      ⟨before.filterMap event? ++ (Feed.read rest).events, (Feed.read rest).broken,
        before.filterMap warning? ++ (Feed.read rest).logs⟩ := by
  induction before with
  | nil => rfl
  | cons run before ih =>
      rw [List.forall_mem_cons] at hbefore
      have hrest := ih hbefore.2
      obtain ⟨hitem, hevent, hwarning⟩ | ⟨e, hitem, hevent, hwarning⟩ |
        ⟨r, hitem, hevent, hwarning⟩ := item?_cases run hbefore.1.1 hbefore.1.2
      · rw [List.filterMap_cons_none hitem, List.filterMap_cons_none hevent,
          List.filterMap_cons_none hwarning, hrest]
      · rw [List.filterMap_cons_some hitem, List.filterMap_cons_some hevent,
          List.filterMap_cons_none hwarning, List.cons_append, Feed.read, hrest]
        rfl
      · rw [List.filterMap_cons_some hitem, List.filterMap_cons_none hevent,
          List.filterMap_cons_some hwarning, List.cons_append, Feed.read, hrest]
        rfl

/-- A frame that breaks says how many digits there are, and nothing after it is read. -/
theorem read_of_breaks (run : List Text) (count : Nat) (h : Breaks run count)
    (after : List (List Text)) :
    Feed.read ((run :: after).filterMap item?) = ⟨[], some (.breakdown (.digits count)), []⟩ := by
  rw [List.filterMap_cons_some (item?_of_breaks run count h)]
  rfl

/-- A stream breaks exactly if one of its frames does. -/
theorem broken_read_eq_none_iff (rows : List (List Text)) (hwithin : ∀ run ∈ rows, Within run) :
    (Feed.read (rows.filterMap item?)).broken = none ↔ ∀ run ∈ rows, Whole run := by
  -- The first frame that breaks decides, so the frames before it are taken off one by one.
  induction rows with
  | nil => exact iff_of_true rfl (List.forall_mem_nil _)
  | cons run rows ih =>
      rw [List.forall_mem_cons] at hwithin ⊢
      by_cases hwhole : Whole run
      · have hrun : ∀ first ∈ [run], Within first ∧ Whole first :=
          List.forall_mem_singleton.mpr ⟨hwithin.1, hwhole⟩
        have hread := read_append [run] (rows.filterMap item?) hrun
        rw [← List.filterMap_append, List.singleton_append] at hread
        rw [hread, ih hwithin.2, and_iff_right hwhole]
      · obtain ⟨count, hbreaks⟩ := not_forall_not.mp hwhole
        rw [read_of_breaks run count hbreaks rows]
        exact iff_of_false (by simp only [reduceCtorEq, not_false_eq_true])
          fun hall => hwhole hall.1

/-- A frame without a number of too many digits delivers its event, a warning or nothing.
    A stream of such frames is read to its end, with an event for every frame whose data is
    JSON and a warning for every other one with data. A stream breaks exactly if there is
    a frame with such a number, and then at the first of them: what comes before has its
    turn, and what comes after is lost. The number then stands in the data outside of
    strings. -/
theorem read_frames (run lines : List Text) (hrun : Within run)
    (hlines : ∀ frame ∈ frames lines, Within frame) :
    (Whole run →
      (item? run = none ∧ event? run = none ∧ warning? run = none) ∨
      (∃ e, item? run = some (.event e) ∧ event? run = some e ∧ warning? run = none) ∨
      ∃ r, item? run = some (.log r) ∧ event? run = none ∧ warning? run = some r) ∧
    (∀ count, Breaks run count →
      item? run = some (.trouble (.breakdown (.digits count))) ∧ Decimal.maxDigits < count ∧
      ∃ data ∈ data? run, Datum.HasDigits count data) ∧
    ((∀ frame ∈ frames lines, Whole frame) →
      Feed.read (feed lines none)
        = ⟨(frames lines).filterMap event?, none, (frames lines).filterMap warning?⟩) ∧
    ((Feed.read (feed lines none)).broken = none ↔ ∀ frame ∈ frames lines, Whole frame) ∧
    ∀ before broken after count, frames lines = before ++ broken :: after →
      (∀ frame ∈ before, Whole frame) → Breaks broken count →
      Feed.read (feed lines none)
        = ⟨before.filterMap event?, some (.breakdown (.digits count)),
          before.filterMap warning?⟩ := by
  rw [feed_eq]
  refine ⟨item?_cases run hrun, fun count hbreaks => ?_, fun hwhole => ?_,
    broken_read_eq_none_iff (frames lines) hlines, ?_⟩
  · obtain ⟨data, hdata, hparse⟩ := hbreaks
    obtain ⟨hdigits, hmany⟩ := Datum.hasDigits_of_tooManyDigits data count hparse
    exact ⟨item?_of_breaks run count ⟨data, hdata, hparse⟩, hmany, data, hdata, hdigits⟩
  · have hread := read_append (frames lines) [] fun frame hframe =>
      ⟨hlines frame hframe, hwhole frame hframe⟩
    simpa only [List.append_nil, Feed.read] using hread
  · intro before broken after count hsplit hbefore hbreaks
    rw [hsplit, List.forall_mem_append] at hlines
    -- A reader has everything of the frames before, and nothing from the broken one on.
    have hread := read_append before ((broken :: after).filterMap item?) fun frame hframe =>
      ⟨hlines.1 frame hframe, hbefore frame hframe⟩
    rw [read_of_breaks broken count hbreaks after] at hread
    rw [hsplit, List.filterMap_append]
    simpa only [List.append_nil] using hread

/-- A frame whose data is no JSON does not keep the one after it from its turn. -/
theorem read_frames_skipping :
    let run : List Text := ["event: head", "data: [\"slot\",\"7\"]"]
    let torn : List Text := [":", "data: no", "data: data"]
    let empty : List Text := ["\r", ""]
    let lines : List Text := torn ++ empty ++ run
    let e : Event := ⟨"head", .list [.text "slot", .text "7"]⟩
    Within run ∧ (∀ frame ∈ frames lines, Within frame) ∧
      item? run = some (.event e) ∧
      Feed.read (feed lines none)
        = ⟨[e], none, [Log.warning .events "Failed to parse SSE data: no\ndata"]⟩ := by
  intro run torn empty lines e
  have hframes : frames lines = [torn, run] := by decide +kernel
  have hdata : data? run = some (Text.ofString e.data.compact) := by decide +kernel
  have hparse : Datum.parse (Text.ofString e.data.compact) = .ok e.data := by
    refine Datum.parseWithin_compact (.list fun d hd => ?_)
    rcases List.mem_pair.mp hd with rfl | rfl
    · exact .text "slot"
    · exact .text "7"
  have htorn : data? torn = some (Text.ofString "no\ndata") := by decide +kernel
  have hfault : Datum.parse (Text.ofString "no\ndata") = .error .malformed := by rfl
  have hwithin : Within torn ∧ Within run :=
    ⟨within_of_data htorn (by decide +kernel), within_of_data hdata (by decide +kernel)⟩
  have hwhole : Whole torn ∧ Whole run := by
    unfold Whole Breaks
    simp only [htorn, hdata, Option.mem_some_iff, exists_eq_left', hfault, hparse, reduceCtorEq,
      Except.error.injEq, not_false_eq_true, implies_true, and_self]
  have hlines : ∀ frame ∈ frames lines, Within frame ∧ Whole frame := by
    rw [hframes, List.forall_mem_cons, List.forall_mem_singleton]
    exact ⟨⟨hwithin.1, hwhole.1⟩, hwithin.2, hwhole.2⟩
  have hevents : event? torn = none ∧ event? run = some e := by
    simp only [event?, htorn, hdata, Option.bind_some, hfault, hparse]
    exact ⟨trivial, rfl⟩
  have hwarnings : warning? run = none ∧ warning? torn = some (Log.warning .events
      "Failed to parse SSE data: no\ndata") := by
    simp only [warning?, htorn, hdata, Option.bind_some, hfault, hparse]
    exact ⟨trivial, rfl⟩
  obtain ⟨hitem, -, hread, -⟩ := read_frames run lines hwithin.2 fun frame hframe =>
    (hlines frame hframe).1
  refine ⟨hwithin.2, fun frame hframe => (hlines frame hframe).1, ?_, ?_⟩
  · obtain ⟨-, hnone, -⟩ | ⟨e', hitem, hevent, -⟩ | ⟨r, -, hnone, -⟩ := hitem hwhole.2
    · exact absurd (hnone.symm.trans hevents.2) (by simp only [reduceCtorEq, not_false_eq_true])
    · rw [hitem, Option.some.inj (hevent.symm.trans hevents.2)]
    · exact absurd (hnone.symm.trans hevents.2) (by simp only [reduceCtorEq, not_false_eq_true])
  · rw [hread fun frame hframe => (hlines frame hframe).2, hframes,
      List.filterMap_cons_none hevents.1, List.filterMap_cons_some hevents.2,
      List.filterMap_cons_some hwarnings.2, List.filterMap_cons_none hwarnings.1]
    rfl

/-- Two frames, of which the first has a number of 4301 ones and the second has data that
    is JSON: the stream breaks at the first, and the event of the second is lost. -/
theorem read_broken_by_digits :
    let torn : List Text := ["data: " ++ Text.ofChars (List.replicate 4301 '1')]
    let late : List Text := ["data: true"]
    let lines : List Text := torn ++ [] :: late
    frames lines = [torn, late] ∧ (∀ frame ∈ frames lines, Within frame) ∧
      item? torn = some (.trouble (.breakdown (.digits 4301))) ∧
      event? late = some ⟨"message", .bool true⟩ ∧
      Feed.read (feed lines none) = ⟨[], some (.breakdown (.digits 4301)), []⟩ := by
  intro torn late lines
  have hdigits : ∀ c ∈ List.replicate 4301 '1', c.isDigit = true := by
    intro c hc
    rw [List.eq_of_mem_replicate hc]
    rfl
  have hframes : frames lines = [torn, late] := by
    have hline : trimmed ("data: " ++ Text.ofChars (List.replicate 4301 '1'))
        = "data: " ++ Text.ofChars (List.replicate 4301 '1') := by
      rw [List.replicate_succ', Text.ofChars_append, ← List.append_assoc]
      exact trimmed_concat _ _ (by decide)
    have hlines : lines.map trimmed = torn ++ [] :: late := by
      rw [List.map_append, List.map_cons, List.map_nil, hline]
      rfl
    rw [frames, hlines, List.splitOnP_append_cons torn late rfl,
      List.splitOnP_eq_singleton (List.forall_mem_singleton.mpr rfl),
      List.splitOnP_eq_singleton (List.forall_mem_singleton.mpr rfl)]
    rfl
  have hdata : data? torn = some (Text.ofChars (List.replicate 4301 '1')) := by rfl
  have hplain := Datum.plain_ofChars hdigits Datum.any_isDigit_marks
  have hwithin : Within torn :=
    within_of_data hdata (Datum.nested_of_plain Datum.maxDepth _ hplain)
  have hbreaks : Breaks torn 4301 := by
    have hones : List.replicate 4301 '1' = '1' :: List.replicate 4300 '1' := List.replicate_succ
    have hlength : ('1' :: List.replicate 4300 '1').length = 4301 := by
      rw [List.length_cons, List.length_replicate]
    rw [hones] at hdigits hdata
    refine ⟨_, hdata, ?_⟩
    rw [Datum.parse_overlong hdigits (by decide) (by rw [hlength]; decide), hlength]
  have htrue : data? late = some (Text.ofString "true") := by rfl
  have hlate : Within late := within_of_data htrue (by decide)
  rw [feed_eq, hframes]
  refine ⟨rfl, ?_, item?_of_breaks torn 4301 hbreaks, rfl, read_of_breaks torn 4301 hbreaks [late]⟩
  rw [List.forall_mem_cons, List.forall_mem_singleton]
  exact ⟨hwithin, hlate⟩

end Frame

end Beacon
