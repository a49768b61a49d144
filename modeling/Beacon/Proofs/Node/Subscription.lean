import Beacon.Proofs.Event.Delivery
import Beacon.Proofs.Node.Client
import Beacon.Proofs.Text.Lines

/-!
# What Comes of a Subscription

What a subscription to events delivers, for every response to it.

A response comes in pieces, and it may break off behind any of them. The pieces make no
difference: the lines are those of the text that came (`Client.arrived`), where a text that
broke off has no line that is not ended. A frame is delivered when a blank line closes it,
or when the response ends behind it. So a response that breaks off delivers the frames that
were closed before, and then the trouble; a response that ends delivers all of its frames.

A response whose status is an error delivers nothing but the trouble. Not every status that
is no success is an error, though. One that is neither, such as a redirection that is not
followed, is read as if it were a success: its body delivers events, and if it ends, no
trouble is reported.

## Main definitions

* `Frame.Readable`: The data of a frame is JSON, if there is any.
* `Frame.complete`: The frames that a stream delivers.
* `Client.received`, `Client.linesOf`: The lines of a response that comes in pieces.
* `Client.arrived`: The lines of the text of a response.
* `Client.Subscribes`: A subscription can be asked for.

## Theorems

* `Frame.read_feed`: What frames with readable data deliver.
* `Client.linesOf_eq_lines`, `Client.lines_eq_arrived`: The lines of a response.
* `Client.read_events_of_response`: What a subscription delivers.
* `Client.read_events_redirected`: A redirection passes for a success.
-/

namespace Beacon

namespace Frame

/-- The data of a frame is JSON, if there is any. -/
def Readable (run : List Text) : Prop := ∀ data ∈ data? run, ∃ d, Datum.parse data = .ok d

/-- The frames that a stream delivers: if it came to its end, the last of them need not be
    closed. -/
def complete (lines : List Text) (isWhole : Bool) : List (List Text) :=
  if isWhole then frames lines else closed lines

/-- A frame with readable data delivers its event and nothing else. -/
theorem item?_of_readable {run : List Text} (h : Readable run) :
    item? run = (event? run).map .event := by
  unfold event?
  cases hdata : data? run with
  | none => exact item?_of_none run hdata
  | some data =>
      obtain ⟨d, hparse⟩ := h data hdata
      rw [item?_of_some run data hdata, Option.bind_some, hparse]
      rfl

theorem filterMap_item?_of_readable {rows : List (List Text)} (h : ∀ run ∈ rows, Readable run) :
    rows.filterMap item? = (rows.filterMap event?).map .event := by
  rw [List.map_filterMap]
  exact List.filterMap_congr fun run hrun => item?_of_readable (h run hrun)

/-- Frames with readable data deliver their events, up to where the stream breaks off. -/
theorem read_feed (lines : List Text) (broken : Option Trouble)
    (h : ∀ run ∈ complete lines broken.isNone, Readable run) :
    Feed.read (feed lines broken)
      = ⟨(complete lines broken.isNone).filterMap event?, broken, []⟩ := by
  have hread := fun rest => read_events ((complete lines broken.isNone).filterMap event?) rest
  simp only [← filterMap_item?_of_readable h] at hread
  cases broken with
  | none =>
      -- All frames count, the last one with its lines or without.
      refine Eq.trans ?_ ((hread []).trans ?_)
      · rw [List.append_nil, feed_eq]
        rfl
      · rw [Feed.read, List.append_nil]
  | some t =>
      refine Eq.trans ?_ ((hread [.trouble t]).trans ?_)
      · rw [feed_broken]
        rfl
      · rw [Feed.read, List.append_nil]

end Frame

namespace Client

variable {client : Client} {before : List Call} {topics : List Text} {request : Http.Request}

/-- The lines that pieces of a response complete, and what is pending and open behind them. -/
def received (pending : Option Utf8.Pending) (s : Lines.State) :
    List Bytes → List String × Option Utf8.Pending × Lines.State
  | [] => ([], pending, s)
  | piece :: pieces =>
    let (cs, pending) := Utf8.decodeFrom pending piece
    let (lines, s) := Lines.feed s cs
    let (more, last) := received pending s pieces
    (lines ++ more, last)

/-- The lines of a response that comes in pieces, with the line that its end completes if it
    came to its end. -/
def linesOf (pieces : List Bytes) (isWhole : Bool) : List Text :=
  let (lines, pending, s) := received none .start pieces
  let last :=
    if isWhole then
      let (lines, s) := Lines.feed s (Utf8.flush pending)
      lines ++ Lines.flush s
    else []
  (lines ++ last).map Text.ofString

/-- The lines of the text of a response. If it broke off, what is behind the last end of a
    line is none, and a carriage return that came last has ended none. -/
def arrived (body : Bytes) (isWhole : Bool) : List Text :=
  if isWhole then (Lines.split (Utf8.decode body)).map Text.ofChars
  else (Lines.cut (Lines.settled (Utf8.decodeFrom none body).1)).1.map Text.ofChars

/-- A subscription can be asked for, and its response can be filed. -/
structure Subscribes (client : Client) (topics : List Text) (request : Http.Request) : Prop where
  sent : client.subscription topics = .ok request
  typed : request.url.isTyped = true

/-- What is said about a subscription. -/
def subscribing (client : Client) (topics : List Text) : Log.Record :=
  Log.debug .client ("Subscribing to " ++ joined topics ++ " events at " ++ client.address)

/-! ### Lines -/

/-- Pieces complete the lines that they complete as a whole. -/
theorem received_eq (pending : Option Utf8.Pending) (s : Lines.State) (pieces : List Bytes) :
    received pending s pieces
      = ((Lines.feed s (Utf8.decodeFrom pending pieces.flatten).1).1,
        (Utf8.decodeFrom pending pieces.flatten).2,
        (Lines.feed s (Utf8.decodeFrom pending pieces.flatten).1).2) := by
  induction pieces generalizing pending s with
  | nil => rfl
  | cons piece pieces ih =>
      rw [received, List.flatten_cons, Utf8.decodeFrom_append, Lines.feed_append]
      simp only [ih]

/-- The lines of a response do not depend on the pieces it comes in. -/
theorem linesOf_eq_lines (pieces : List Bytes) (isWhole : Bool) :
    linesOf pieces isWhole = lines pieces.flatten isWhole := by
  unfold linesOf lines
  rw [received_eq]
  cases isWhole with
  | false => simp only [Bool.false_eq_true, if_false, List.append_nil]
  | true => simp only [if_true, Lines.feed_append, List.append_assoc]

theorem map_ofString_ofList (lines : List (List Char)) :
    (lines.map String.ofList).map Text.ofString = lines.map Text.ofChars := by
  rw [List.map_map]
  refine List.map_congr_left fun line _ => ?_
  rw [Function.comp_apply, Text.ofString, String.toList_ofList]

/-- The lines of a response are those of its text. -/
theorem lines_eq_arrived (body : Bytes) (isWhole : Bool) :
    lines body isWhole = arrived body isWhole := by
  unfold lines arrived
  cases isWhole with
  | false =>
      simp only [Bool.false_eq_true, if_false, Lines.feed_start]
      exact map_ofString_ofList _
  | true =>
      simp only [if_true, Lines.feed_flush]
      exact map_ofString_ofList _

/-! ### Responses -/

/-- A subscription is logged, and then it delivers what its response does. -/
theorem read_events_of_came (h : client.Subscribes topics request) {response : Http.Response}
    (hcame : client.transport (client.requests before) request = .ok response) :
    Feed.read (client.events before topics)
      = ⟨(Feed.read (delivered topics request response)).events,
        (Feed.read (delivered topics request response)).broken,
        client.subscribing topics :: (Feed.read (delivered topics request response)).logs⟩ := by
  unfold Client.events
  rw [h.sent, Feed.read]
  simp only [hcame]
  rfl

/-- A response that is an error delivers nothing. -/
theorem read_delivered_of_isError (h : client.Subscribes topics request)
    {response : Http.Response} (herror : response.isError = true) :
    Feed.read (delivered topics request response)
      = ⟨[], some (.failure (.fetch (.subscription response.status (joined topics)))), []⟩ := by
  simp only [delivered, h.typed, herror, Bool.not_true, Bool.false_eq_true, if_false, if_true,
    Feed.read]

/-- A response that is no error delivers its frames, up to where it breaks off. -/
theorem read_delivered (h : client.Subscribes topics request) {response : Http.Response}
    (herror : response.isError = false)
    (hframes : ∀ frame ∈ Frame.complete (lines response.body response.broken.isNone)
      response.broken.isNone, Frame.Readable frame) :
    Feed.read (delivered topics request response)
      = ⟨(Frame.complete (lines response.body response.broken.isNone)
          response.broken.isNone).filterMap Frame.event?,
        response.broken.map (trouble .broken), []⟩ := by
  have hwhole : (response.broken.map (trouble .broken)).isNone = response.broken.isNone :=
    Option.isNone_map
  simp only [delivered, h.typed, herror, Bool.not_true, Bool.false_eq_true, if_false]
  rw [← hwhole] at hframes ⊢
  exact Frame.read_feed _ _ hframes

/-- What a subscription delivers. If there is no response, or if its status is an error, there
    are no events, and the failure to fetch is reported; a success is no error. If its status
    is no error, and the data of its frames is JSON, there are the events of its frames, in
    order: of all of them if it comes to its end, and then nothing is reported; of those that
    a blank line has closed if it breaks off, and then the failure to fetch is. The lines are
    those of the text that came, whatever pieces it came in. -/
theorem read_events_of_response (client : Client) (before : List Call) (topics : List Text)
    (request : Http.Request) (h : client.Subscribes topics request) :
    (∀ message, client.transport (client.requests before) request = .error (.network message) →
      Feed.read (client.events before topics)
        = ⟨[], some (.failure (.fetch (.broken message))), [client.subscribing topics]⟩) ∧
    ∀ response, client.transport (client.requests before) request = .ok response →
      (response.isSuccess = true → response.isError = false) ∧
      (response.isError = true → Feed.read (client.events before topics)
        = ⟨[], some (.failure (.fetch (.subscription response.status (joined topics)))),
          [client.subscribing topics]⟩) ∧
      ∀ pieces : List Bytes, response.body = pieces.flatten → response.isError = false →
        let lines := linesOf pieces response.broken.isNone
        lines = arrived response.body response.broken.isNone ∧
        ((∀ frame ∈ Frame.complete lines response.broken.isNone, Frame.Readable frame) →
          (response.broken = none → Feed.read (client.events before topics)
            = ⟨(Frame.frames lines).filterMap Frame.event?, none, [client.subscribing topics]⟩) ∧
          ∀ message, response.broken = some (.network message) →
            Feed.read (client.events before topics)
              = ⟨(Frame.closed lines).filterMap Frame.event?,
                some (.failure (.fetch (.broken message))), [client.subscribing topics]⟩) := by
  refine ⟨fun message hcame => ?_, fun response hcame => ⟨fun hsuccess => ?_, fun herror => ?_,
    fun pieces hbody herror => ?_⟩⟩
  -- No response, a success, an error, and a body.
  · unfold Client.events
    rw [h.sent, Feed.read]
    simp only [hcame]
    rfl
  · simp only [Http.Response.isSuccess, Bool.and_eq_true, decide_eq_true_eq] at hsuccess
    have hlow : ¬400 ≤ response.status := by omega
    rw [Http.Response.isError, decide_eq_false hlow, Bool.false_and]
  · rw [read_events_of_came h hcame, read_delivered_of_isError h herror]
  · intro lines
    have hlines : lines = Client.lines response.body response.broken.isNone := by
      rw [hbody]
      exact linesOf_eq_lines pieces _
    refine ⟨hlines.trans (lines_eq_arrived _ _), fun hframes => ?_⟩
    rw [hlines] at hframes ⊢
    have hread := read_delivered h herror hframes
    refine ⟨fun hbroken => ?_, fun message hbroken => ?_⟩
    · rw [read_events_of_came h hcame, hread, hbroken]
      rfl
    · rw [read_events_of_came h hcame, hread, hbroken]
      rfl

/-- A response of two pieces that breaks off. The first piece ends in the middle of a line,
    and the second frame is not closed. -/
theorem read_events_broken_off :
    let base : Url := ⟨"http".toList, [], "localhost", some 5052, [], none, none⟩
    let pieces : List Bytes := ["event: head\r\ndat", "a: true\r\n\r\ndata: 1\n"].map
      fun piece => piece.toList.map fun c => UInt8.ofNat c.toNat
    let response : Http.Response := ⟨200, pieces.flatten, some (.network "reset")⟩
    let client : Client := ⟨"http://localhost:5052", base, fun _ _ => .ok response⟩
    ∃ request, client.Subscribes ["head"] request ∧ response.isError = false ∧
      response.body = pieces.flatten ∧
      (∀ frame ∈ Frame.complete (linesOf pieces false) false, Frame.Readable frame) ∧
      Feed.read (client.events [] ["head"])
        = ⟨[⟨"head", .bool true⟩], some (.failure (.fetch (.broken "reset"))),
          [client.subscribing ["head"]]⟩ := by
  intro base pieces response client
  obtain ⟨request, hsent, htyped⟩ : ∃ request, client.subscription ["head"] = .ok request ∧
      request.url.isTyped = true := Http.exists_typed (by decide +kernel)
  have h : client.Subscribes ["head"] request := ⟨hsent, htyped⟩
  have hclosed : Frame.closed (linesOf pieces false) = [(
      ["event: head", "data: true"] : List Text)] := by
    decide +kernel
  have hreadable : ∀ frame ∈ Frame.complete (linesOf pieces false) false, Frame.Readable frame := by
    change ∀ frame ∈ Frame.closed (linesOf pieces false), _
    rw [hclosed, List.forall_mem_singleton]
    intro data hdata
    obtain rfl := Option.some.inj hdata
    exact ⟨.bool true, by rfl⟩
  obtain ⟨-, hresponse⟩ := read_events_of_response client [] ["head"] request h
  obtain ⟨-, -, hpieces⟩ := hresponse response rfl
  obtain ⟨-, hframes⟩ := hpieces pieces rfl (by decide)
  have hread := (hframes hreadable).2 "reset" rfl
  have hevents : (Frame.closed (linesOf pieces false)).filterMap Frame.event?
      = [⟨"head", .bool true⟩] := by
    rw [hclosed]
    rfl
  refine ⟨request, h, by decide, rfl, hreadable, hread.trans ?_⟩
  exact congrArg (fun events : List Event => Feed.Result.mk events
    (some (.failure (.fetch (.broken "reset")))) [client.subscribing ["head"]]) hevents

/-- A redirection that is not followed. Its status is no success, but its body delivers an
    event, and nothing is reported. -/
theorem read_events_redirected :
    let base : Url := ⟨"http".toList, [], "localhost", some 5052, [], none, none⟩
    let body : Bytes := "data: 1\n\n".toList.map fun c => UInt8.ofNat c.toNat
    let response : Http.Response := ⟨302, body, none⟩
    let client : Client := ⟨"http://localhost:5052", base, fun _ _ => .ok response⟩
    (∃ request, client.Subscribes ["head"] request) ∧ response.isSuccess = false ∧
      Feed.read (client.events [] ["head"])
        = ⟨[⟨"message", .int 1⟩], none, [client.subscribing ["head"]]⟩ := by
  intro base body response client
  obtain ⟨request, hsent, htyped⟩ : ∃ request, client.subscription ["head"] = .ok request ∧
      request.url.isTyped = true := Http.exists_typed (by decide +kernel)
  have h : client.Subscribes ["head"] request := ⟨hsent, htyped⟩
  refine ⟨⟨request, h⟩, by decide, ?_⟩
  have hframes : Frame.complete (lines body true) true = [(["data: 1"] : List Text)] := by
    decide +kernel
  have hreadable : ∀ frame ∈ Frame.complete (lines body true) true, Frame.Readable frame := by
    rw [hframes, List.forall_mem_singleton]
    intro data hdata
    obtain rfl := Option.some.inj hdata
    exact ⟨.int 1, by rfl⟩
  have hevents : (Frame.complete (lines body true) true).filterMap Frame.event?
      = [⟨"message", .int 1⟩] := by
    rw [hframes]
    rfl
  have hread : Feed.read (delivered ["head"] request response)
      = ⟨(Frame.complete (lines body true) true).filterMap Frame.event?, none, []⟩ :=
    read_delivered h (by decide) hreadable
  rw [hevents] at hread
  have hcame : Feed.read (client.events [] ["head"]) = _ := read_events_of_came h rfl
  rw [hcame, hread]

end Client

end Beacon
