import Beacon.Proofs.Service.Stopping

/-!
# Streams under Either Policy

What difference it makes to a run whether a failure on its stream is raised or
logged. Nothing but `attempt` looks at the policy, and `attempt` looks at it only
when the handling of an event has failed. So the two policies go the same way up to
the first head event that fails, whatever the node does: it is asked the same
questions in the same order, so it cannot tell the one service from the other.

To say which event that is, one needs to know in which state an event is handled,
and the node may answer differently in every state. `Turn` is what it takes for a
head event to be handled at all: the loop has gone through everything before it, and
the service is still running. The turns of a loop over the first part of a feed are
turns of the loop over the whole feed, and that is what carries the induction.

At the first failure a strict run ends in the state in which the event was left.
What an event leaves behind when it fails is what it asked: the block is rendered as
a whole before the first letter of it is written.

## Main definitions

* `under`, `fed`: A service with another policy, and one with another feed.
* `Turn`, `ComesTo`: A head event is handled in a loop, and in a run.
* `Discreet`: A node that does not speak in the service's name.
* `Unwarned`: Work that adds no warning.

## Theorems

* `follow_append`: A loop that is still running goes on with the rest of its feed.
* `follow_under`: Loops over a feed without failures are the same.
* `follow_raise`: A strict loop ends at the first failure.
* `carry_handle_error`: An event that fails leaves only questions behind.
* `run_raise_of_handled`: Runs in which every head event is handled are the same.
* `follow_fed`: A loop over one feed does not look at another one.
* `run_policies`: The policies agree up to the first failure.
-/

namespace Beacon

namespace Service

variable {α β : Type}

/-- A service with another policy. -/
def under (service : Service) (policy : EventPolicy) : Service := { service with policy := policy }

/-- A service to which every subscription delivers the same feed. -/
def fed (service : Service) (feed : Feed) : Service :=
  { service with node := { service.node with events := fun _ _ => feed } }

/-- A head event has its turn in a loop: all that the feed delivers before it is dealt
    with, and the service is still running then. -/
structure Turn (service : Service) (session : Session) (feed : Feed) (s : State) (before : Feed)
    (event : Event) (after : Feed) (t : State) : Prop where
  delivered : feed = before ++ .event event :: after
  topic : event.topic = ↑HeadEvent.topic
  dealt : carry (service.follow session before) s = (.ok (), t)
  running : t.running = true

/-- A run comes to a head event: it has begun its stream, and the event has its turn
    there. -/
def ComesTo (service : Service) (request : Request) (s : State) (session : Session)
    (before : Feed) (event : Event) (after : Feed) (t : State) : Prop :=
  request.stream = true ∧ request.quiet = false ∧
    ∃ s₀, carry (service.first request) s = (.ok session, s₀) ∧
      Turn service session (service.node.events s₀.calls [↑HeadEvent.topic]) s₀.opened before
        event after t

variable {service : Service} {session : Session} {policy : EventPolicy}

/-! ### One event -/

/-- An event that is handled is counted under every policy. -/
theorem carry_attempt_ok {data : Datum} {s u : State}
    (h : carry (service.handle session data) s = (.ok (), u)) :
    carry ((service.under policy).attempt session data) s
      = (.ok (), { u with rendered := u.rendered + 1 }) := by
  have hhandle : carry ((service.under policy).handle session data) s = (.ok (), u) := h
  rw [attempt, carry_tryCatch, carry_bind, hhandle]
  rfl

/-- An event that fails ends a strict loop with its own trouble. -/
theorem carry_attempt_raise {data : Datum} {s u : State} {t : Trouble}
    (h : carry (service.handle session data) s = (.error t, u)) :
    carry ((service.under .raise).attempt session data) s = (.error t, u) := by
  have hhandle : carry ((service.under .raise).handle session data) s = (.error t, u) := h
  rw [attempt, carry_tryCatch, carry_bind, hhandle]
  cases t <;> rfl

/-! ### The loop -/

/-- A loop that is still running at the end of a feed goes on with the rest. -/
theorem follow_append {before : Feed} {s t : State}
    (h : carry (service.follow session before) s = (.ok (), t)) (hrunning : t.running = true)
    (after : Feed) :
    carry (service.follow session (before ++ after)) s
      = carry (service.follow session after) t := by
  have hends := (ends_iff service session before s t).mpr h
  clear h
  induction hends with
  | done => rfl
  | stopped hdown => exact absurd (hdown.symm.trans hrunning) Bool.false_ne_true
  | stop _ ih => exact ih hrunning
  | look _ ih => exact ih hrunning
  | log _ ih => exact ih hrunning
  | passed hup htopic _ ih =>
      rw [List.cons_append, follow, carry_get, if_pos hup, if_neg htopic]
      exact ih hrunning
  | handled hup htopic hattempt _ ih =>
      rw [List.cons_append, follow, carry_get, if_pos hup, if_pos htopic, carry_bind, hattempt]
      exact ih hrunning

/-- An event that is handled is counted, and the loop goes on with the rest of the feed,
    under every policy. -/
theorem follow_handled {event : Event} {s u : State} (hrunning : s.running = true)
    (htopic : event.topic = ↑HeadEvent.topic)
    (h : carry (service.handle session event.data) s = (.ok (), u)) (rest : Feed) :
    carry ((service.under policy).follow session (.event event :: rest)) s
      = carry ((service.under policy).follow session rest)
        { u with rendered := u.rendered + 1 } := by
  rw [follow, carry_get, if_pos hrunning, if_pos htopic, carry_bind, carry_attempt_ok h]

/-- A turn in the rest of a feed is a turn in the whole of it, if what comes first is
    dealt with. -/
theorem Turn.cons {item : Feed.Item} {rest before after : Feed} {event : Event} {s s' t : State}
    (hitem : ∀ feed, carry (service.follow session (item :: feed)) s
      = carry (service.follow session feed) s')
    (h : Turn service session rest s' before event after t) :
    Turn service session (item :: rest) s (item :: before) event after t where
  delivered := by rw [h.delivered, List.cons_append]
  topic := h.topic
  dealt := (hitem before).trans h.dealt
  running := h.running

/-- A turn in the first part of a feed is a turn in the whole of it. -/
theorem Turn.later {feed first rest before after : Feed} {event : Event} {s t : State}
    (h : Turn service session first s before event after t) (hfeed : feed = first ++ rest) :
    Turn service session feed s before event (after ++ rest) t where
  delivered := by rw [hfeed, h.delivered, List.append_assoc, List.cons_append]
  topic := h.topic
  dealt := h.dealt
  running := h.running

/-- The loops over a feed are the same under both policies if every head event that
    has its turn is handled. -/
theorem follow_under (service : Service) (session : Session) (feed : Feed) (s : State)
    (h : ∀ {before event after t},
      Turn (service.under .logAndContinue) session feed s before event after t →
      ∃ u, carry (service.handle session event.data) t = (.ok (), u)) :
    carry ((service.under .raise).follow session feed) s
      = carry ((service.under .logAndContinue).follow session feed) s := by
  induction feed generalizing s with
  | nil => rfl
  | cons item rest ih =>
      cases item with
      | stop => exact ih _ fun hturn => h (hturn.cons fun _ => rfl)
      | look => exact ih _ fun hturn => h (hturn.cons fun _ => rfl)
      | log record => exact ih _ fun hturn => h (hturn.cons fun _ => rfl)
      | trouble t => rfl
      | event event =>
          by_cases hrunning : s.running = true
          · by_cases htopic : event.topic = ↑HeadEvent.topic
            · obtain ⟨u, hu⟩ := h ⟨(List.nil_append _).symm, htopic, rfl, hrunning⟩
              rw [follow_handled hrunning htopic hu, follow_handled hrunning htopic hu]
              exact ih _ fun hturn => h (hturn.cons (follow_handled hrunning htopic hu))
            · have hnext (policy : EventPolicy) (feed : Feed) :
                  carry ((service.under policy).follow session (.event event :: feed)) s
                    = carry ((service.under policy).follow session feed) s := by
                rw [follow, carry_get, if_pos hrunning, if_neg htopic]
              rw [hnext, hnext]
              exact ih _ fun hturn => h (hturn.cons (hnext .logAndContinue))
          · rw [follow, follow, carry_get, carry_get, if_neg hrunning, if_neg hrunning]

/-- A strict loop ends at the first head event that fails, with its trouble and in the
    state in which it was left. What the feed delivers after that makes no difference. -/
theorem follow_raise {before : Feed} {event : Event} {s t u : State} {trouble : Trouble}
    (hbefore : ∀ {before' event' after' t'},
      Turn (service.under .logAndContinue) session before s before' event' after' t' →
      ∃ u', carry (service.handle session event'.data) t' = (.ok (), u'))
    (hdealt : carry ((service.under .logAndContinue).follow session before) s = (.ok (), t))
    (hrunning : t.running = true) (htopic : event.topic = ↑HeadEvent.topic)
    (hfails : carry (service.handle session event.data) t = (.error trouble, u)) (after : Feed) :
    carry ((service.under .raise).follow session (before ++ .event event :: after)) s
      = (.error trouble, u) := by
  have hstrict := (follow_under service session before s hbefore).trans hdealt
  rw [follow_append hstrict hrunning, follow, carry_get, if_pos hrunning, if_pos htopic,
    carry_bind, carry_attempt_raise hfails]

/-! ### What a failure leaves behind -/

/-- Nothing that is said about a block or its sidecars counts as a warning of the
    service. -/
structure Discreet (node : Node) : Prop where
  block : ∀ asked blockId, Quiet (node.block asked blockId).logs
  sidecars : ∀ asked blockId, Quiet (node.sidecars asked blockId).logs

/-- Whatever state work is begun in, it adds no warning. -/
def Unwarned (act : Act α) : Prop := ∀ s : State, (carry act s).2.warnings = s.warnings

theorem chains_warnings : Chains fun s s' => s'.warnings = s.warnings where
  refl _ := rfl
  trans hst htu := htu.trans hst

theorem warnings_append {s s' : State} {records : List Log.Record} (hquiet : Quiet records)
    (hlogs : s'.logs = s.logs ++ records) : s'.warnings = s.warnings := by
  have hnone : records.filter isOwnWarning = [] := by
    rw [List.filter_eq_nil_iff]
    intro r hr
    rw [hquiet r hr]
    exact Bool.false_ne_true
  rw [State.warnings, hlogs, List.filter_append, hnone, List.append_nil]
  rfl

theorem unwarned_ask {call : Call} {answer : List Call → Reply α}
    (h : ∀ asked, Quiet (answer asked).logs) : Unwarned (ask call answer) := by
  intro s
  rw [carry_ask]
  exact warnings_append (h s.calls) rfl

theorem unwarned_fetch (hdiscreet : Discreet service.node) (blockId : Text) :
    Unwarned (service.fetch blockId true) :=
  within_fetch chains_warnings (unwarned_ask fun asked => hdiscreet.block asked blockId)
    (unwarned_ask fun asked => hdiscreet.sidecars asked blockId) true

/-- Of a block that cannot be written out nothing is written, and nothing is said that
    is a warning. -/
theorem carry_show_error {block : Block} {s u : State} {t : Trouble}
    (h : carry (do
      service.write session block
      if session.mode.separates then emit "\n") s = (.error t, u)) :
    Asks s [] u ∧ u.warnings = s.warnings := by
  rw [carry_bind] at h
  cases hrender : (session.renderer service.zone).render block session.mode with
  | error t' =>
      obtain ⟨s', hs', hleads⟩ := does_write_error hrender s rfl
      rw [hs'] at h
      obtain ⟨-, rfl⟩ := Prod.mk.inj h
      refine ⟨⟨hleads.calls, ?_, hleads.rendered⟩, ?_⟩
      · exact hleads.output.trans String.append_empty
      · exact hleads.warnings.trans (List.append_nil _)
  | ok text =>
      -- Once the block is rendered nothing can fail.
      obtain ⟨s', hs', -⟩ := does_write hrender s rfl
      obtain ⟨s'', hs'', -⟩ := does_separate session s' rfl
      rw [hs'] at h
      exact absurd (Prod.mk.inj (hs''.symm.trans h)).1
        (by simp only [reduceCtorEq, not_false_eq_true])

/-- An event that fails leaves nothing behind but the questions that were asked for
    it. -/
theorem carry_handle_error {data : Datum} {s u : State} {t : Trouble}
    (h : carry (service.handle session data) s = (.error t, u)) :
    ∃ asked, Asks s asked u ∧ (Discreet service.node → u.warnings = s.warnings) := by
  unfold handle at h
  rw [carry_bind, carry_settle] at h
  cases hhead : Service.head data with
  | error t' =>
      rw [hhead] at h
      obtain ⟨-, rfl⟩ := Prod.mk.inj h
      exact ⟨[], .refl s, fun _ => rfl⟩
  | ok head =>
      rw [hhead] at h
      simp only [] at h
      rw [carry_bind, say, carry_modify] at h
      simp only [] at h
      -- The event is announced, and then its block is fetched.
      set s₁ : State := { s with logs := s.logs ++ _ }
      obtain ⟨found, asked, s₂, hfound, hfetching, -⟩ :=
        carry_fetch service head.blockId true s₁
      have hasks : Asks s asked s₂ := (asks_said s _).trans hfetching
      have hwarnings (hdiscreet : Discreet service.node) : s₂.warnings = s.warnings := by
        have hfetch := unwarned_fetch hdiscreet head.blockId s₁
        rw [hfound] at hfetch
        exact hfetch.trans (warnings_append (quiet_singleton rfl) rfl)
      rw [carry_bind, hfound] at h
      rcases found with t' | _ | block
      · obtain ⟨-, rfl⟩ := Prod.mk.inj h
        exact ⟨asked, hasks, hwarnings⟩
      · obtain ⟨-, rfl⟩ := Prod.mk.inj h
        exact ⟨asked, hasks, hwarnings⟩
      · obtain ⟨hshow, hunwarned⟩ := carry_show_error h
        exact ⟨_, hasks.trans hshow, fun hdiscreet => hunwarned.trans (hwarnings hdiscreet)⟩

/-! ### Runs -/

/-- A run that does not stream has no use for the policy. -/
theorem run_under {request : Request} (h : request.quiet = true ∨ request.stream = false)
    (policy : EventPolicy) : (service.under policy).run request = service.run request := by
  unfold run
  rcases h with h | h
  · simp only [h, if_true]
    rfl
  · simp only [h, Bool.false_eq_true, if_false]
    rfl

/-- A streaming run that fails before its stream ends there. -/
theorem carry_run_unopened (service : Service) {request : Request}
    (hstream : request.stream = true) (hquiet : request.quiet = false) {s s₀ : State} {t : Trouble}
    (h : carry (service.first request) s = (.error t, s₀)) :
    carry (service.run request) s = (.error t, s₀) := by
  rw [carry_run_stream service hstream hquiet, carry_bind, h]

/-- A streaming run ends as its loop does, and the service is not running after it. -/
theorem carry_run_follow (service : Service) {request : Request}
    (hstream : request.stream = true) (hquiet : request.quiet = false) {s s₀ s₁ : State}
    {result : Except Trouble Unit}
    (hfirst : carry (service.first request) s = (.ok session, s₀))
    (hfollow : carry (service.follow session (service.node.events s₀.calls [↑HeadEvent.topic]))
      s₀.opened = (result, s₁)) :
    carry (service.run request) s
      = (result.map fun _ => .rendered, { s₁ with running := false }) := by
  rw [carry_run_stream service hstream hquiet, carry_bind, hfirst]
  simp only []
  rw [carry_bind, carry_stream hfollow]
  cases result <;> rfl

/-- A run is the same under both policies if every head event that it comes to is
    handled. -/
theorem run_raise_of_handled (service : Service) (request : Request) (s : State)
    (h : ∀ {session before event after t},
      (service.under .logAndContinue).ComesTo request s session before event after t →
      ∃ u, carry (service.handle session event.data) t = (.ok (), u)) :
    carry ((service.under .raise).run request) s
      = carry ((service.under .logAndContinue).run request) s := by
  by_cases honce : request.quiet = true ∨ request.stream = false
  · rw [run_under honce, run_under honce]
  · obtain ⟨hloud, hstreams⟩ := not_or.mp honce
    have hquiet : request.quiet = false := Bool.eq_false_iff.mpr hloud
    have hstream : request.stream = true := Bool.eq_true_of_not_eq_false hstreams
    rcases hfirst : carry (service.first request) s with ⟨t | session, s₀⟩
    · exact (carry_run_unopened (service.under .raise) hstream hquiet hfirst).trans
        (carry_run_unopened (service.under .logAndContinue) hstream hquiet hfirst).symm
    · have hfollow := follow_under service session
        (service.node.events s₀.calls [↑HeadEvent.topic]) s₀.opened fun hturn =>
          h ⟨hstream, hquiet, s₀, hfirst, hturn⟩
      exact (carry_run_follow (service.under .raise) hstream hquiet hfirst hfollow).trans
        (carry_run_follow (service.under .logAndContinue) hstream hquiet hfirst rfl).symm

/-- What a subscription delivers makes no difference to the loop over some other
    feed. -/
theorem follow_fed (service : Service) (session : Session) (delivered feed : Feed) :
    (service.fed delivered).follow session feed = service.follow session feed := by
  induction feed with
  | nil => rfl
  | cons item rest ih =>
      cases item with
      | trouble t => rfl
      | stop | look | log _ => rw [follow, follow, ih]
      | event event =>
          rw [follow, follow, ih]
          rfl

/-- A streaming run to which a given feed is delivered ends as the loop over that feed
    does. -/
theorem carry_run_fed (service : Service) {request : Request} (hstream : request.stream = true)
    (hquiet : request.quiet = false) {s s₀ s₁ : State} {feed : Feed} {result : Except Trouble Unit}
    (hfirst : carry (service.first request) s = (.ok session, s₀))
    (hfollow : carry (service.follow session feed) s₀.opened = (result, s₁)) :
    carry ((service.fed feed).run request) s
      = (result.map fun _ => .rendered, { s₁ with running := false }) := by
  rw [← follow_fed service session feed] at hfollow
  exact carry_run_follow (service.fed feed) hstream hquiet hfirst hfollow

/-- Whatever the node does and however it changes, a run with the policy that raises is
    the same as one with the policy that logs if every head event that it comes to is
    handled. Otherwise it ends with the trouble of the first one that is not. By then
    it has written and counted what the other one does over the part of the feed before
    that event. It has asked what the other one asks, and then what was asked for the
    event. There is no warning of the event, and whatever the feed delivers after it
    makes no difference. -/
theorem run_policies (service : Service) (request : Request) (s : State) :
    let strict := service.under .raise
    let lenient := service.under .logAndContinue
    ((∀ {session before event after t},
        lenient.ComesTo request s session before event after t →
        ∃ u, carry (service.handle session event.data) t = (.ok (), u)) →
      carry (strict.run request) s = carry (lenient.run request) s) ∧
    ∀ {session before event after t u trouble},
      lenient.ComesTo request s session before event after t →
      carry (service.handle session event.data) t = (.error trouble, u) →
      (∀ {before' event' after' t'},
        lenient.ComesTo request s session before' event' after' t' →
        before'.length < before.length →
        ∃ u', carry (service.handle session event'.data) t' = (.ok (), u')) →
      ∃ s₁ s₂ asked, carry ((lenient.fed before).run request) s = (.ok .rendered, s₁) ∧
        carry (strict.run request) s = (.error trouble, s₂) ∧ s₂.running = false ∧
        s₂.output = s₁.output ∧ s₂.rendered = s₁.rendered ∧
        s₂.calls = s₁.calls ++ asked ∧ u.calls = t.calls ++ asked ∧
        (Discreet service.node → s₂.warnings = s₁.warnings) ∧
        carry ((strict.fed (before ++ [.event event])).run request) s = (.error trouble, s₂) := by
  intro strict lenient
  constructor
  · exact run_raise_of_handled service request s
  · intro session before event after t u trouble hcomes hfails hearlier
    obtain ⟨hstream, hquiet, s₀, hfirst, hdelivered, htopic, hdealt, hrunning⟩ := hcomes
    -- A turn in what comes before the event is one in the whole feed, and an earlier one.
    have hbefore {before' event' after' t'}
        (h : Turn lenient session before s₀.opened before' event' after' t') :
        ∃ u', carry (service.handle session event'.data) t' = (.ok (), u') := by
      refine hearlier ⟨hstream, hquiet, s₀, hfirst, h.later hdelivered⟩ ?_
      rw [h.delivered, List.length_append, List.length_cons]
      omega
    have hraise := follow_raise hbefore hdealt hrunning htopic hfails
    obtain ⟨asked, hasks, hwarnings⟩ := carry_handle_error hfails
    have hfirst' : carry (strict.first request) s = (.ok session, s₀) := hfirst
    have hstrict : carry (strict.run request) s
        = (.error trouble, { u with running := false }) := by
      have hfollow := hraise after
      rw [← hdelivered] at hfollow
      exact carry_run_follow strict hstream hquiet hfirst' hfollow
    have hcut : carry ((strict.fed (before ++ [.event event])).run request) s
        = (.error trouble, { u with running := false }) :=
      carry_run_fed strict hstream hquiet hfirst' (hraise [])
    exact ⟨_, _, asked, carry_run_fed lenient hstream hquiet hfirst hdealt, hstrict, rfl,
      hasks.output, hasks.rendered, hasks.calls, hasks.calls, hwarnings, hcut⟩

/-- The second of three announcements says nothing. The strict run ends with what is
    wrong with it, has written the first block twice, as what was asked for and as what
    was announced, and never comes to the third. -/
theorem run_policies_blank :
    let root := Bytes.zeros 32
    let head : HeadEvent := ⟨7, root, root, false⟩
    let announced : Feed.Item := .event ⟨"head", head.datum⟩
    let silent : Event := ⟨"head", .null⟩
    let request : Request := ⟨.identifier "7", true, false, true, false, false⟩
    let session : Session := ⟨request, ⟨0, 12, 32, by decide, by decide⟩, "7"⟩
    let node : Node :=
      { steady (.record [("SECONDS_PER_SLOT", .text "12"), ("SLOTS_PER_EPOCH", .text "32")])
          (.record [("genesis_time", .text "0")])
          ⟨fun _ => .ok (some (.phase0 (Schema.blankBlock 7))), fun _ => .ok []⟩ [] with
        events := fun _ _ => [announced, .event silent, announced] }
    let service : Service := ⟨node, .universal, .logAndContinue⟩
    let strict := service.under .raise
    let lenient := service.under .logAndContinue
    let s₀ := (carry (service.first request) .fresh).2
    let t := (carry (lenient.follow session [announced]) s₀.opened).2
    let trouble : Trouble := .failure (.fetch (.headEvent [⟨[], .notRecord "HeadEvent"⟩]))
    let page := Fork.phase0.signedBlock.json (Schema.blankBlock 7) ++ "\n"
    lenient.ComesTo request .fresh session [announced] silent [announced] t ∧
      carry (service.handle session silent.data) t = (.error trouble, t) ∧
      ∃ s₁ s₂ asked, carry ((lenient.fed [announced]).run request) .fresh = (.ok .rendered, s₁) ∧
        carry (strict.run request) .fresh = (.error trouble, s₂) ∧ s₂.running = false ∧
        s₂.output = s₁.output ∧ s₂.rendered = s₁.rendered ∧
        s₂.calls = s₁.calls ++ asked ∧ t.calls = t.calls ++ asked ∧
        (Discreet service.node → s₂.warnings = s₁.warnings) ∧
        carry ((strict.fed ([announced] ++ [.event silent])).run request) .fresh
          = (.error trouble, s₂) ∧
        s₂.output = page ++ page ∧ s₂.rendered = 1 := by
  intro root head announced silent request session node service strict lenient s₀ t trouble page
  have hread : HeadEvent.read head.datum = .ok head :=
    head.read_datum (by decide) (by decide) (by decide)
  have hfirst : carry (service.first request) .fresh = (.ok session, s₀) := rfl
  have hhead : Service.head head.datum = .ok head := by rw [Service.head, hread]
  obtain ⟨u₁, hhandled, hup, hpages, hcount⟩ :
      ∃ u₁, carry (service.handle session head.datum) s₀.opened = (.ok (), u₁) ∧
        u₁.running = true ∧ u₁.output = "" ++ page ++ page ∧ u₁.rendered = 0 := by
    rw [handle, carry_bind, carry_settle, hhead]
    exact ⟨_, rfl, rfl, rfl, rfl⟩
  have hdealt : carry (lenient.follow session [announced]) s₀.opened
      = (.ok (), { u₁ with rendered := u₁.rendered + 1 }) := by
    have hopened : s₀.opened.running = true := rfl
    have htopic : (⟨"head", head.datum⟩ : Event).topic = ↑HeadEvent.topic := rfl
    exact follow_handled hopened htopic hhandled []
  have ht : t = { u₁ with rendered := u₁.rendered + 1 } := congrArg Prod.snd hdealt
  have hcomes : lenient.ComesTo request .fresh session [announced] silent [announced] t :=
    ⟨rfl, rfl, s₀, hfirst, rfl, rfl, ht ▸ hdealt, by rw [ht]; exact hup⟩
  have hsilent : Service.head silent.data = .error trouble := rfl
  have hfails : carry (service.handle session silent.data) t = (.error trouble, t) := by
    rw [handle, carry_bind, carry_settle, hsilent]
  obtain ⟨s₁, s₂, asked, hlenient, hstrict, hstopped, houtput, hrendered, hmore⟩ :=
    (run_policies service request .fresh).2 hcomes hfails <| by
      -- Only the first announcement is earlier than the one that fails.
      rintro before' event' after' t' ⟨-, -, s₀', hfirst', hdelivered, -, hdealt', -⟩ hshort
      obtain rfl : before' = [] := List.length_eq_zero_iff.mp (Nat.lt_one_iff.mp hshort)
      obtain ⟨-, rfl⟩ := Prod.mk.inj (hfirst.symm.trans hfirst')
      obtain ⟨-, rfl⟩ := Prod.mk.inj hdealt'
      obtain ⟨hevent, -⟩ := List.cons.inj hdelivered
      obtain rfl : ⟨"head", head.datum⟩ = event' := Feed.Item.event.inj hevent
      exact ⟨u₁, hhandled⟩
  have hrun := carry_run_fed lenient rfl rfl hfirst hdealt
  obtain ⟨-, rfl⟩ := Prod.mk.inj (hrun.symm.trans hlenient)
  refine ⟨hcomes, hfails, _, s₂, asked, hlenient, hstrict, hstopped, houtput, hrendered,
    hmore.1, hmore.2.1, hmore.2.2.1, hmore.2.2.2, houtput.trans ?_, hrendered.trans ?_⟩
  · simp only [hpages, String.empty_append]
  · simp only [hcount]

end Service

end Beacon
