import Beacon.Proofs.Service.Stopping

/-!
# Where a Stopped Stream is Cut

What a stream comes to that is stopped on the way. The signal may be given at any
moment after the subscription is open: while the reply to a question about an event is
awaited, or between two items of the feed. It always cuts the stream at the same kind
of place, just before the next event. What comes of the stream is what would have come
of a feed that ends there, had nobody given a signal.

So two loops are compared. The one runs over the whole feed and is told to stop. The
other runs over what the feed delivers before the event, with every signal taken out of
the feed and out of the replies. As long as no signal has been given the two are in the
same state. In the middle of an event they may come to differ, but only in the flag,
which nobody looks at before the next event: the event is finished alike by both, be it
written out, given up or fatal. From then on the feed delivers no event to the second
loop, and the first one leaves at the event that is delivered to it.

That the flag is down makes a difference to nobody but those who look at the service
meanwhile. They see that it has been stopped, and what they see is not a request.

## Main definitions

* `Feed.upTo`: What a feed delivers before one of its events.
* `Feed.unstopped`, `Service.unstopped`: A feed without signals, and a service that
  nobody stops.
* `Service.Told`: The service is told to stop in a loop.
* `Service.SameWork`, `Service.Agree`: The same was done, and it ended the same way.
* `Service.Meets`: How the two loops can go at an event.

## Theorems

* `paired_unstopped`: Signals in replies make a difference to the flag only.
* `meets`: At an event the two loops go in one of the ways that are listed.
* `follow_at_rest`: A loop whose service is stopped runs on to the next event.
* `follow_cut`: A loop that is stopped comes to what the other one comes to.
* `stream_cut`: A stream that is stopped is cut just before the next event.
-/

namespace Beacon

namespace Feed

/-- What a feed delivers before an event, the events being numbered from zero. -/
def upTo : Feed → Nat → Feed
  | [], _ => []
  | .event _ :: _, 0 => []
  | .event event :: rest, i + 1 => .event event :: upTo rest i
  | .log record :: rest, i => .log record :: upTo rest i
  | .stop :: rest, i => .stop :: upTo rest i
  | .look :: rest, i => .look :: upTo rest i
  | .trouble t :: rest, i => .trouble t :: upTo rest i

/-- A feed with the signals to stop taken out. -/
def unstopped : Feed → Feed
  | [] => []
  | .stop :: rest => unstopped rest
  | item :: rest => item :: unstopped rest

end Feed

/-- A node whose replies do not stop the service, and which delivers a given feed. -/
def Node.unstopped (node : Node) (feed : Feed) : Node where
  spec asked := (node.spec asked).unheard
  genesis asked := (node.genesis asked).unheard
  block asked blockId := (node.block asked blockId).unheard
  sidecars asked blockId := (node.sidecars asked blockId).unheard
  events _ _ := feed

namespace Service

/-- A service that nobody stops, to which a given feed is delivered. -/
def unstopped (service : Service) (feed : Feed) : Service :=
  { service with node := service.node.unstopped feed.unstopped }

/-- The service is told to stop in the loop over a feed: by the feed, or by the reply to
    something that is asked there. -/
def Told (service : Service) (session : Session) (s : State) (feed : Feed) : Prop :=
  .stop ∈ feed ∨ ∃ asked,
    (carry (service.follow session feed) s).2.calls = s.calls ++ asked ∧
      service.node.stopsAmong s.calls asked = true

end Service

/-- Whether a call asks for something, and does not just look at the service. -/
def Call.isRequest : Call → Bool
  | .look _ _ => false
  | _ => true

namespace Service

/-- What a service has asked of its node, in order. -/
def State.requests (s : State) : List Call := s.calls.filter Call.isRequest

/-- The same was asked, written, counted and said on the way to two states. -/
structure SameWork (s s' : State) : Prop where
  requests : s'.requests = s.requests
  output : s'.output = s.output
  rendered : s'.rendered = s.rendered
  logs : s'.logs = s.logs

/-- Two pieces of work end the same way, and the same was done. -/
structure Agree (done done' : Except Trouble Unit × State) : Prop where
  result : done'.1 = done.1
  work : SameWork done.2 done'.2

variable {α : Type} {service : Service} {session : Session}

theorem SameWork.refl (s : State) : SameWork s s := ⟨rfl, rfl, rfl, rfl⟩

/-- The flag has nothing to do with what was done. -/
theorem SameWork.flagged {s s' : State} (h : SameWork s s') (running running' : Bool) :
    SameWork { s with running := running } { s' with running := running' } where
  requests := h.requests
  output := h.output
  rendered := h.rendered
  logs := h.logs

/-- Whoever looks at the service requests nothing, whatever they see. -/
theorem SameWork.looked {s s' : State} (h : SameWork s s') {look look' : Call}
    (hlook : look.isRequest = false) (hlook' : look'.isRequest = false) :
    SameWork { s with calls := s.calls ++ [look] } { s' with calls := s'.calls ++ [look'] } where
  requests := by
    have hsame : s'.calls.filter Call.isRequest = s.calls.filter Call.isRequest := h.requests
    rw [State.requests, State.requests, List.filter_append, List.filter_append, hsame,
      List.filter_cons_of_neg (Bool.eq_false_iff.mp hlook),
      List.filter_cons_of_neg (Bool.eq_false_iff.mp hlook')]
  output := h.output
  rendered := h.rendered
  logs := h.logs

/-! ### One event -/

/-- The one state is the other with the flag put up. -/
def Raised (s s' : State) : Prop := s' = { s with running := true }

theorem even_raised : Even Raised where
  say _ h := by rw [h]; rfl
  emit _ h := by rw [h]; rfl
  count h := by rw [h]; rfl

/-- A signal in a reply does nothing but take the flag down. -/
theorem raised_ask (call : Call) (answer : List Call → Reply α) :
    Mirrors Raised (ask call answer) (ask call fun asked => (answer asked).unheard) := by
  rintro s _ rfl
  rw [carry_ask, carry_ask]
  exact ⟨rfl, rfl⟩

/-- Signals in replies make a difference to the flag only. -/
theorem paired_unstopped (node : Node) (feed : Feed) :
    Paired Raised node (node.unstopped feed) where
  block _ := raised_ask _ _
  sidecars _ := raised_ask _ _

/-- An event that has begun is finished as if nobody had stopped the service, and then
    the flag tells whether somebody has. -/
theorem carry_attempt_unstopped (service : Service) (session : Session) (data : Datum)
    (feed : Feed) {s : State} (hrunning : s.running = true) :
    ∃ result s₁ asked, carry (service.attempt session data) s = (result, s₁) ∧
      carry ((service.unstopped feed).attempt session data) s
        = (result, { s₁ with running := true }) ∧
      s₁.calls = s.calls ++ asked ∧ s₁.running = !service.node.stopsAmong s.calls asked := by
  have hself : Raised s s := by rw [Raised, ← hrunning]
  obtain ⟨hresult, hraised⟩ := mirrors_attempt even_raised
    (paired_unstopped service.node feed.unstopped) session data s s hself
  obtain ⟨-, asked, hasked, hflag⟩ :=
    alike_attempt (heeds_deals service.node s) session data s (heeds_self service.node s)
  rw [hrunning, Bool.true_and] at hflag
  exact ⟨_, _, asked, rfl, Prod.ext hresult hraised, hasked, hflag⟩

/-! ### The loop -/

/-- What was told to a loop after its first item was told to it, provided that the item
    takes the loop to where the rest begins. -/
theorem Told.cons {item : Feed.Item} {rest : Feed} {s s₁ : State} {asked : List Call}
    (hitem : ∀ feed, carry (service.follow session (item :: feed)) s
      = carry (service.follow session feed) s₁)
    (hcalls : s₁.calls = s.calls ++ asked) (h : Told service session s₁ rest) :
    Told service session s (item :: rest) := by
  rcases h with hmem | ⟨more, hmore, hstops⟩
  · exact Or.inl (List.mem_cons_of_mem _ hmem)
  · refine Or.inr ⟨asked ++ more, ?_, ?_⟩
    · rw [hitem, hmore, hcalls, List.append_assoc]
    · rw [Node.stopsAmong_append, ← hcalls, hstops, Bool.or_true]

/-- If a loop comes to a good end in which the service is told to stop, the flag is down
    at the end. -/
theorem Told.down {feed : Feed} {s s₁ : State} (h : Told service session s feed)
    (hs₁ : carry (service.follow session feed) s = (.ok (), s₁)) : s₁.running = false := by
  have hends : Ends service session feed s s₁ := (ends_iff _ _ _ _ _).mpr hs₁
  obtain ⟨added, hcalls, hflag⟩ := hends.running
  refine Bool.eq_false_iff.mpr fun hup => ?_
  obtain ⟨-, hnostop, hnone⟩ := hflag hup
  rcases h with hmem | ⟨asked, hasked, hstops⟩
  · exact hnostop hmem
  · rw [hs₁] at hasked
    obtain rfl : added = asked := List.append_cancel_left (hcalls.symm.trans hasked)
    exact Bool.false_ne_true (hnone.symm.trans hstops)

/-- A loop whose service is stopped runs on to the next event, and then it has done what
    a loop does that nobody stops and whose feed ends there. -/
theorem follow_at_rest (service service' : Service) (session : Session) (feed : Feed)
    {s s' : State} (hrest : s.running = false) (hsame : SameWork s s') :
    Agree (carry (service.follow session feed) s)
      (carry (service'.follow session (feed.upTo 0).unstopped) s') := by
  induction feed generalizing s s' with
  | nil => exact ⟨rfl, hsame⟩
  | cons item rest ih =>
      cases item with
      | trouble t => exact ⟨rfl, hsame⟩
      | stop => exact ih rfl (hsame.flagged false s'.running)
      | look => exact ih hrest (hsame.looked rfl rfl)
      | log record =>
          refine ih hrest ⟨hsame.requests, hsame.output, hsame.rendered, ?_⟩
          exact congrArg (· ++ [record]) hsame.logs
      | event event =>
          rw [follow, carry_get, if_neg (Bool.eq_false_iff.mp hrest)]
          exact ⟨rfl, hsame⟩

/-- A service that is running passes over an event of another topic. -/
theorem carry_follow_passed {event : Event} {s : State} (hrunning : s.running = true)
    (htopic : event.topic ≠ ↑HeadEvent.topic) (rest : Feed) :
    carry (service.follow session (.event event :: rest)) s
      = carry (service.follow session rest) s := by
  rw [follow, carry_get, if_pos hrunning, if_neg htopic]

/-- A service that is running goes on after a head event that it is done with. -/
theorem carry_follow_attempted {event : Event} {s s₁ : State} (hrunning : s.running = true)
    (htopic : event.topic = ↑HeadEvent.topic)
    (h : carry (service.attempt session event.data) s = (.ok (), s₁)) (rest : Feed) :
    carry (service.follow session (.event event :: rest)) s
      = carry (service.follow session rest) s₁ := by
  rw [follow, carry_get, if_pos hrunning, if_pos htopic, carry_bind, h]

/-- A head event that is fatal ends the loop. -/
theorem carry_follow_fatal {event : Event} {s s₁ : State} {t : Trouble}
    (hrunning : s.running = true) (htopic : event.topic = ↑HeadEvent.topic)
    (h : carry (service.attempt session event.data) s = (.error t, s₁)) (rest : Feed) :
    carry (service.follow session (.event event :: rest)) s = (.error t, s₁) := by
  rw [follow, carry_get, if_pos hrunning, if_pos htopic, carry_bind, h]

/-- A signal in a reply to what is asked for an event has been given by the next one. -/
theorem told_of_asked {event : Event} {s s₁ : State} {asked : List Call}
    (hgoes : ∀ feed, carry (service.follow session (.event event :: feed)) s
      = carry (service.follow session feed) s₁)
    (hcalls : s₁.calls = s.calls ++ asked) (hdown : s₁.running = false)
    (hstops : service.node.stopsAmong s.calls asked = true) (rest : Feed) :
    Told service session s (.event event :: rest) := by
  obtain ⟨s₂, hs₂, hidle⟩ := follow_idle service session rest hdown
  obtain ⟨looks, hlooks, -⟩ := hidle.calls
  refine Or.inr ⟨asked ++ looks, ?_, ?_⟩
  · rw [hgoes, hs₂, hlooks, hcalls, List.append_assoc]
  · rw [Node.stopsAmong_append, hstops, Bool.true_or]

/-- How a loop and one that nobody stops can go at an event to which they come in the
    same state. -/
inductive Meets (service : Service) (delivered : Feed) (session : Session) (event : Event)
    (s : State) : Prop
  /-- The event is fatal to both. -/
  | fatal {t : Trouble} {s₁ : State}
      (h : ∀ rest, carry (service.follow session (.event event :: rest)) s = (.error t, s₁))
      (hcalm : ∀ rest, carry ((service.unstopped delivered).follow session (.event event :: rest)) s
        = (.error t, { s₁ with running := true }))
  /-- Nobody gives the signal, and both go on from the same state. -/
  | untold {s₁ : State} (hup : s₁.running = true)
      (h : ∀ rest, carry (service.follow session (.event event :: rest)) s
        = carry (service.follow session rest) s₁)
      (hcalm : ∀ rest, carry ((service.unstopped delivered).follow session (.event event :: rest)) s
        = carry ((service.unstopped delivered).follow session rest) s₁)
      (hlater : ∀ rest, Told service session s₁ rest →
        Told service session s (.event event :: rest))
  /-- Somebody gives the signal, and both go on from states that differ in the flag. -/
  | told {s₁ : State} (hdown : s₁.running = false)
      (h : ∀ rest, carry (service.follow session (.event event :: rest)) s
        = carry (service.follow session rest) s₁)
      (hcalm : ∀ rest, carry ((service.unstopped delivered).follow session (.event event :: rest)) s
        = carry ((service.unstopped delivered).follow session rest) { s₁ with running := true })
      (hnow : ∀ rest, Told service session s (.event event :: rest))

/-- At an event the two loops go in one of the ways that are listed. -/
theorem meets (service : Service) (delivered : Feed) (session : Session) (event : Event)
    {s : State} (hrunning : s.running = true) : Meets service delivered session event s := by
  by_cases htopic : event.topic = ↑HeadEvent.topic
  · obtain ⟨result, s₁, asked, hattempt, hcalm, hcalls, hflag⟩ :=
      carry_attempt_unstopped service session event.data delivered hrunning
    cases result with
    | error t =>
        exact .fatal (carry_follow_fatal hrunning htopic hattempt)
          (carry_follow_fatal hrunning htopic hcalm)
    | ok _ =>
        have hgoes := carry_follow_attempted hrunning htopic hattempt
        have hgoesCalm := carry_follow_attempted hrunning htopic hcalm
        cases hup : s₁.running with
        | true =>
            have hsame : { s₁ with running := true } = s₁ := by rw [← hup]
            rw [hsame] at hgoesCalm
            exact .untold hup hgoes hgoesCalm fun rest htold => htold.cons hgoes hcalls
        | false =>
            have hstops : service.node.stopsAmong s.calls asked = true := by
              rw [hup] at hflag
              rw [← Bool.not_not (service.node.stopsAmong _ _), ← hflag]
              rfl
            exact .told hup hgoes hgoesCalm (told_of_asked hgoes hcalls hup hstops)
  · have hgoes (rest : Feed) : carry (service.follow session (.event event :: rest)) s
        = carry (service.follow session rest) s := carry_follow_passed hrunning htopic rest
    exact .untold hrunning hgoes (carry_follow_passed hrunning htopic) fun rest htold =>
      htold.cons hgoes (List.append_nil _).symm

/-- A loop that is stopped after one event and before another comes to what a loop comes
    to that nobody stops and whose feed ends before the second event. -/
theorem follow_cut (service : Service) (session : Session) (feed delivered : Feed) (i : Nat)
    {s : State} (hrunning : s.running = true)
    (hlate : ∀ j < i, ¬ Told service session s (feed.upTo j))
    (hdown : ∀ s₁, carry (service.follow session (feed.upTo i)) s = (.ok (), s₁) →
      s₁.running = false) :
    Agree (carry (service.follow session feed) s)
      (carry ((service.unstopped delivered).follow session (feed.upTo i).unstopped) s) := by
  induction feed generalizing s i with
  | nil => exact ⟨rfl, .refl s⟩
  | cons item rest ih =>
      cases item with
      | trouble t => exact ⟨rfl, .refl s⟩
      | log record =>
          refine ih i hrunning (fun j hj htold => hlate j hj ?_) hdown
          exact htold.cons (fun _ => rfl) (List.append_nil s.calls).symm
      | look =>
          refine ih i hrunning (fun j hj htold => hlate j hj ?_) hdown
          exact htold.cons (fun _ => rfl) rfl
      | stop =>
          -- No event is left before the cut, or the signal would come before one of them.
          obtain rfl : i = 0 := by
            refine Nat.eq_zero_of_not_pos fun hpos => ?_
            exact hlate 0 hpos (Or.inl List.mem_cons_self)
          exact follow_at_rest _ _ session rest rfl ((SameWork.refl s).flagged false s.running)
      | event event =>
          cases i with
          | zero => exact absurd ((hdown s rfl).symm.trans hrunning) Bool.false_ne_true
          | succ i =>
              have hkept : (Feed.upTo (.event event :: rest) (i + 1)).unstopped
                  = .event event :: (Feed.upTo rest i).unstopped := rfl
              rw [hkept]
              cases meets service delivered session event hrunning with
              | @fatal t s₁ hgoes hcalm =>
                  rw [hgoes, hcalm]
                  exact ⟨rfl, (SameWork.refl s₁).flagged s₁.running true⟩
              | untold hup hgoes hcalm hlater =>
                  rw [hgoes, hcalm]
                  refine ih i hup (fun j hj htold => ?_) fun s₁ hs₁ => hdown s₁ ?_
                  · exact hlate (j + 1) (Nat.succ_lt_succ hj) (hlater _ htold)
                  · exact (hgoes _).trans hs₁
              | @told s₁ hdown₁ hgoes hcalm hnow =>
                  rw [hgoes, hcalm]
                  -- Here too, no event is left before the cut.
                  obtain rfl : i = 0 := by
                    refine Nat.eq_zero_of_not_pos fun hpos => ?_
                    exact hlate 1 (Nat.succ_lt_succ hpos) (hnow (Feed.upTo rest 0))
                  exact follow_at_rest _ _ session rest hdown₁
                    ((SameWork.refl s₁).flagged s₁.running true)

/-! ### The stream -/

/-- A stream that is stopped is cut just before the next event. Let the service be told
    to stop in the loop after event `i - 1` has been delivered and before event `i` is,
    which may be while it handles the one before. Then the stream ends as it would end if
    nobody had stopped the service and its feed had delivered nothing from event `i` on:
    with the same result, be that a trouble or not, and having asked, written, counted
    and said the same. After both the service is not running. -/
theorem stream_cut (service : Service) (session : Session) (s : State) (i : Nat)
    (htold : Told service session s.opened
      ((service.node.events s.calls [↑HeadEvent.topic]).upTo i))
    (hlate : ∀ j < i, ¬ Told service session s.opened
      ((service.node.events s.calls [↑HeadEvent.topic]).upTo j)) :
    ∃ result s₁ s₂, carry (service.stream session) s = (result, s₁) ∧
      carry ((service.unstopped ((service.node.events s.calls [↑HeadEvent.topic]).upTo i)).stream
        session) s = (result, s₂) ∧
      SameWork s₁ s₂ ∧ s₁.running = false ∧ s₂.running = false := by
  set feed := service.node.events s.calls [↑HeadEvent.topic] with hfeed
  obtain ⟨hresult, hsame⟩ :=
    follow_cut service session feed (feed.upTo i) i (s := s.opened) rfl hlate fun _ => htold.down
  rcases hstopped : carry (service.follow session feed) s.opened with ⟨result, s₁⟩
  rcases hcalm : carry ((service.unstopped (feed.upTo i)).follow session
    (feed.upTo i).unstopped) s.opened with ⟨result', s₂⟩
  rw [hstopped, hcalm] at hresult hsame
  obtain rfl : result' = result := hresult
  exact ⟨result', _, _, carry_stream hstopped, carry_stream hcalm, hsame.flagged false false,
    rfl, rfl⟩

/-- The signal is given while the block of the first of two head events is awaited. The
    stream is cut before the second one, and somebody who looks at the service in
    between makes no difference. -/
theorem stream_cut_awaiting :
    let root := Bytes.zeros 32
    let head : HeadEvent := ⟨7, root, root, false⟩
    let announced : Feed.Item := .event ⟨"head", head.datum⟩
    let found : Reply (Option Block) := .silent (.ok (some (.phase0 (Schema.blankBlock 7))))
    let feed : Feed := [announced, .look, announced]
    let node : Node :=
      { steady .null .null ⟨fun _ => .ok none, fun _ => .ok []⟩ [] with
        block := fun _ _ => { found with stops := true }
        events := fun _ _ => feed }
    let service : Service := ⟨node, .universal, .logAndContinue⟩
    let session : Session :=
      ⟨⟨.identifier "7", true, false, true, false, false⟩, ⟨0, 12, 32, by decide, by decide⟩, "7"⟩
    Told service session State.fresh.opened (feed.upTo 1) ∧
      (∀ j < 1, ¬ Told service session State.fresh.opened (feed.upTo j)) ∧
      ∃ result s₁ s₂, carry (service.stream session) .fresh = (result, s₁) ∧
        carry ((service.unstopped (feed.upTo 1)).stream session) .fresh = (result, s₂) ∧
        SameWork s₁ s₂ ∧ s₁.running = false ∧ s₂.running = false := by
  intro root head announced found feed node service session
  have htold : Told service session State.fresh.opened (feed.upTo 1) := by
    refine Or.inr ⟨[.block (Hex.marked root), .look false 1], ?_, rfl⟩
    decide +kernel
  have hlate : ∀ j < 1, ¬ Told service session State.fresh.opened (feed.upTo j) := by
    intro j hj htold
    obtain rfl : j = 0 := Nat.lt_one_iff.mp hj
    rcases htold with hmem | ⟨asked, hasked, hstops⟩
    · exact List.not_mem_nil hmem
    · -- Before the first event nothing is asked.
      obtain rfl : asked = [] := List.self_eq_append_right.mp hasked
      exact Bool.false_ne_true hstops
  exact ⟨htold, hlate, stream_cut service session .fresh 1 htold hlate⟩

end Service

end Beacon
