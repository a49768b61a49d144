import Beacon.Proofs.Event.Head
import Beacon.Proofs.Service.Steady

/-!
# Streams and Runs against a Steady Node

What a stream and a run come to when the node never changes and its events come
to an end.

A feed delivers events and may say things between them. The service looks at
whether it is running before each event and finds that it is, because nothing on
the way stops it. So every head event has its turn, and a stream is described by
an induction on what the feed delivers: the reaction to one event, and then the
rest.

With a breakdown it is different. It ends the stream at the first event that it
befalls, and the events after it have no turn.

What all reactions add up to is then read off list by list: the texts of the
events that were written out, their number, and the troubles of the others.

## Main definitions

* `Delivers`: A feed delivers events and does nothing else.
* `heads`: The data of the head events among events.
* `Session.written`, `Session.troubles`: The texts of the head events that are
  written out, and what goes wrong with the others.
* `Session.Forgiving`: Nothing worse than a failure goes wrong.
* `Rests`: How work ends that leaves the service not running.
* `Serves`, `steady`: A node that never changes, and one that says nothing.
* `resolved`: The identifier that a target names.

## Theorems

* `does_follow`: Every head event of a feed has its turn.
* `does_follow_breakdown`: The first breakdown ends the stream.
* `rests_stream`: However a stream ends, the service is not running after it.
* `serves_steady`: For all holdings there is a node that has them.
* `run_streaming`: What a streaming run writes, counts, warns of and asks.
-/

namespace Beacon

namespace Service

open Effect

/-- A feed delivers events one after the other. Between them things may be said,
    but nothing else happens: the service is neither stopped nor looked at, and
    the feed does not break. -/
inductive Delivers : Feed → List Event → Prop
  | done : Delivers [] []
  | event {feed : Feed} {events : List Event} (e : Event) (rest : Delivers feed events) :
      Delivers (.event e :: feed) (e :: events)
  | log {feed : Feed} {events : List Event} {r : Log.Record} (hquiet : isOwnWarning r = false)
      (rest : Delivers feed events) : Delivers (.log r :: feed) events

/-- The data of the head events among events. -/
def heads : List Event → List Datum
  | [] => []
  | e :: rest => if e.topic = ↑HeadEvent.topic then e.data :: heads rest else heads rest

end Service

namespace Session

open Service

/-- The texts of the head events that are written out. -/
def written (session : Session) (zone : Zone) (holdings : Holdings) (heads : List Datum) :
    List String :=
  heads.filterMap fun data => (session.shown zone holdings data).toOption

/-- What goes wrong with the head events that are not written out. -/
def troubles (session : Session) (zone : Zone) (holdings : Holdings) (heads : List Datum) :
    List Trouble :=
  heads.filterMap fun data => match session.shown zone holdings data with
    | .ok _ => none
    | .error t => some t

variable {session : Session} {zone : Zone} {holdings : Holdings} {data : Datum}

theorem written_cons_ok {text : String} (h : session.shown zone holdings data = .ok text)
    (heads : List Datum) :
    session.written zone holdings (data :: heads) = text :: session.written zone holdings heads :=
  List.filterMap_cons_some (by rw [h]; rfl)

theorem written_cons_error {t : Trouble} (h : session.shown zone holdings data = .error t)
    (heads : List Datum) :
    session.written zone holdings (data :: heads) = session.written zone holdings heads :=
  List.filterMap_cons_none (by rw [h]; rfl)

theorem troubles_cons_ok {text : String} (h : session.shown zone holdings data = .ok text)
    (heads : List Datum) :
    session.troubles zone holdings (data :: heads) = session.troubles zone holdings heads :=
  List.filterMap_cons_none (by rw [h])

theorem troubles_cons_error {t : Trouble} (h : session.shown zone holdings data = .error t)
    (heads : List Datum) :
    session.troubles zone holdings (data :: heads) = t :: session.troubles zone holdings heads :=
  List.filterMap_cons_some (by rw [h])

/-- A head event is written out, or something goes wrong with it. -/
theorem length_written_add_troubles (session : Session) (zone : Zone) (holdings : Holdings)
    (heads : List Datum) :
    (session.written zone holdings heads).length + (session.troubles zone holdings heads).length
      = heads.length := by
  induction heads with
  | nil => rfl
  | cons data heads ih =>
      cases hshown : session.shown zone holdings data with
      | ok text =>
          rw [written_cons_ok hshown, troubles_cons_ok hshown, List.length_cons, List.length_cons]
          omega
      | error t =>
          rw [written_cons_error hshown, troubles_cons_error hshown, List.length_cons,
            List.length_cons]
          omega

/-- Nothing worse than a failure goes wrong with any of the head events. -/
def Forgiving (session : Session) (zone : Zone) (holdings : Holdings) (heads : List Datum) :
    Prop :=
  ∀ data ∈ heads, ∀ t, session.shown zone holdings data = .error t → ∃ failure, t = .failure failure

/-- Where not everything can be forgiven, a breakdown is the first thing that
    cannot be. -/
theorem exists_breakdown (session : Session) (zone : Zone) (holdings : Holdings)
    (heads : List Datum) (h : ¬session.Forgiving zone holdings heads) :
    ∃ before data after b, heads = before ++ data :: after ∧
      session.Forgiving zone holdings before ∧
      session.shown zone holdings data = .error (.breakdown b) := by
  induction heads with
  | nil => exact absurd (fun _ hdata => absurd hdata List.not_mem_nil) h
  | cons first heads ih =>
      by_cases hfirst : ∃ b, session.shown zone holdings first = .error (.breakdown b)
      · obtain ⟨b, hb⟩ := hfirst
        exact ⟨[], first, heads, b, rfl, fun _ hdata => absurd hdata List.not_mem_nil, hb⟩
      · have hforgiven : ∀ t, session.shown zone holdings first = .error t →
            ∃ failure, t = .failure failure := by
          intro t ht
          cases t with
          | failure failure => exact ⟨failure, rfl⟩
          | breakdown b => exact absurd ⟨b, ht⟩ hfirst
        obtain ⟨before, data, after, b, rfl, hbefore, hb⟩ := ih fun hforgiving =>
          h (List.forall_mem_cons.mpr ⟨hforgiven, hforgiving⟩)
        exact ⟨first :: before, data, after, b, rfl,
          List.forall_mem_cons.mpr ⟨hforgiven, hbefore⟩, hb⟩

/-- What head events add up to, list by list. -/
theorem inTurn_reactions (session : Session) (zone : Zone) (holdings : Holdings)
    (heads : List Datum) :
    Effect.inTurn (heads.map (session.reaction zone holdings)) =
      ⟨heads.flatMap (asked holdings),
        String.join ((session.written zone holdings heads).map (· ++ session.separator)),
        (session.written zone holdings heads).length,
        (session.troubles zone holdings heads).map warning⟩ := by
  induction heads with
  | nil => rfl
  | cons data heads ih =>
      rw [List.map_cons, Effect.inTurn, ih, reaction, List.flatMap_cons]
      cases hshown : session.shown zone holdings data with
      | ok text =>
          rw [written_cons_ok hshown, troubles_cons_ok hshown, List.map_cons, String.join_cons]
          simp only [Effect.andThen, List.length_cons, List.nil_append]
          rw [Nat.add_comm]
      | error t =>
          rw [written_cons_error hshown, troubles_cons_error hshown, List.map_cons]
          simp only [Effect.andThen, String.empty_append, Nat.zero_add, List.singleton_append]

end Session

namespace Service

open Effect Schema

variable {service : Service} {holdings : Holdings}

/-- Every head event of a feed has its turn. -/
theorem does_follow (hnode : Holds service.node holdings)
    (hpolicy : service.policy = .logAndContinue) (session : Session) {feed : Feed}
    {events : List Event} (hfeed : Delivers feed events)
    (hforgiving : session.Forgiving service.zone holdings (heads events)) :
    Does true (service.follow session feed) (.ok ())
      (inTurn ((heads events).map (session.reaction service.zone holdings))) := by
  induction hfeed with
  | done => exact does_pure ()
  | log hquiet rest ih =>
      rw [follow]
      exact does_bind_quiet (does_say_quiet (quiet_singleton hquiet)) (ih hforgiving)
  | event e rest ih =>
      rw [follow]
      refine does_get fun s hs => ?_
      rw [heads] at hforgiving ⊢
      by_cases htopic : e.topic = ↑HeadEvent.topic
      · rw [if_pos htopic, Session.Forgiving, List.forall_mem_cons] at hforgiving
        simp only [if_pos hs, if_pos htopic]
        exact does_bind (does_attempt hnode hpolicy session e.data hforgiving.1)
          (ih hforgiving.2)
      · rw [if_neg htopic] at hforgiving
        simp only [if_pos hs, if_neg htopic]
        exact ih hforgiving

/-- The first breakdown that befalls a head event ends the stream. The events
    before it are dealt with, and the ones after it have no turn. -/
theorem does_follow_breakdown (hnode : Holds service.node holdings)
    (hpolicy : service.policy = .logAndContinue) (session : Session) {feed : Feed}
    {events : List Event} (hfeed : Delivers feed events) {before after : List Datum}
    {data : Datum} {b : Breakdown} (hheads : heads events = before ++ data :: after)
    (hbefore : session.Forgiving service.zone holdings before)
    (hdata : session.shown service.zone holdings data = .error (.breakdown b)) :
    Does true (service.follow session feed) (.error (.breakdown b))
      ((inTurn (before.map (session.reaction service.zone holdings))).andThen
        (ofCalls (Session.asked holdings data))) := by
  induction hfeed generalizing before with
  | done => exact absurd hheads.symm (List.append_ne_nil_of_right_ne_nil _ (List.cons_ne_nil _ _))
  | log hquiet rest ih =>
      rw [follow]
      exact does_bind_quiet (does_say_quiet (quiet_singleton hquiet)) (ih hheads hbefore)
  | event e rest ih =>
      rw [follow]
      refine does_get fun s hs => ?_
      rw [heads] at hheads
      by_cases htopic : e.topic = ↑HeadEvent.topic
      · rw [if_pos htopic] at hheads
        simp only [if_pos hs, if_pos htopic]
        cases before with
        -- The breakdown is this event's own.
        | nil =>
            obtain ⟨rfl, rfl⟩ := List.cons.inj hheads
            rw [List.map_nil, inTurn, nothing_andThen]
            exact does_bind_error (does_attempt_breakdown hnode session e.data b hdata)
        | cons first before =>
            obtain ⟨rfl, hrest⟩ := List.cons.inj hheads
            rw [Session.Forgiving, List.forall_mem_cons] at hbefore
            rw [List.map_cons, inTurn, andThen_assoc]
            exact does_bind (does_attempt hnode hpolicy session e.data hbefore.1)
              (ih hrest hbefore.2)
      · rw [if_neg htopic] at hheads
        simp only [if_pos hs, if_neg htopic]
        exact ih hheads hbefore

/-! ### Work that ends with the service at rest -/

/-- However work is begun, it ends in a certain way, adds a certain effect and
    leaves the service not running. -/
def Rests {α : Type} (act : Act α) (result : Except Trouble α) (e : Effect) : Prop :=
  ∀ s : State, ∃ s', carry act s = (result, s') ∧ e.Leads { s with running := false } s'

theorem rests_bind {α β : Type} {act : Act α} {next : α → Act β} {a : α}
    {result : Except Trouble β} {e f : Effect} (hact : ∀ running, Does running act (.ok a) e)
    (hnext : Rests (next a) result f) : Rests (act >>= next) result (e.andThen f) := by
  intro s
  obtain ⟨t, ht, hst⟩ := hact s.running s rfl
  obtain ⟨u, hu, htu⟩ := hnext t
  refine ⟨u, ?_, (hst.atRest).trans htu⟩
  rw [carry_bind, ht]
  exact hu

theorem rests_andReturn {α β : Type} {act : Act α} {a : α} {e : Effect} (b : β)
    (h : Rests act (.ok a) e) : Rests (act >>= fun _ => pure b) (.ok b) e := by
  intro s
  obtain ⟨t, ht, hst⟩ := h s
  refine ⟨t, ?_, hst⟩
  rw [carry_bind, ht]
  rfl

/-- However a stream ends, the service is not running after it. -/
theorem rests_stream {session : Session} {result : Except Trouble Unit} {e : Effect}
    (h : Does true (service.subscribe session) result e) :
    Rests (service.stream session) result e := by
  intro s
  -- The stream sets the service running first and makes it rest last, so what it was
  -- before makes no difference.
  obtain ⟨t, ht, hst⟩ := h { s with running := true } rfl
  refine ⟨{ t with running := false }, ?_, hst.atRest⟩
  have hset : carry (setRunning true) s = (.ok (), { s with running := true }) := rfl
  unfold stream
  rw [carry_bind, hset]
  simp only []
  rw [carry_bind, carry_tryCatch, ht]
  cases result <;> rfl

/-- A subscription adds itself to what its events add. -/
theorem does_subscribe {session : Session} {result : Except Trouble Unit} {e : Effect}
    {events : List Event}
    (hevents : ∀ before, Delivers (service.node.events before [↑HeadEvent.topic]) events)
    (h : ∀ {feed : Feed}, Delivers feed events → Does true (service.follow session feed) result e) :
    Does true (service.subscribe session) result
      ((ofCalls [.events [↑HeadEvent.topic]]).andThen e) := by
  unfold subscribe
  refine does_get fun s _ => ?_
  exact does_bind (does_note _) (h (hevents s.calls))

/-- A block that is shown was fetched and rendered. -/
theorem fetched_of_shownAt {session : Session} {zone : Zone} {blockId : Text} {text : String}
    (h : session.shownAt zone holdings blockId = .ok text) :
    ∃ block, holdings.fetched blockId = .ok (some block) ∧
      (session.renderer zone).render block session.mode = .ok text := by
  unfold Session.shownAt at h
  rcases hfetched : holdings.fetched blockId with failure | _ | block
  · rw [hfetched] at h
    exact absurd h (by simp only [reduceCtorEq, not_false_eq_true])
  · rw [hfetched] at h
    exact absurd h (by simp only [reduceCtorEq, not_false_eq_true])
  · rw [hfetched] at h
    exact ⟨block, rfl, h⟩

/-! ### Runs -/

/-- A node that never changes: its configuration, its genesis, what it holds, and
    the events that it delivers. -/
structure Serves (node : Node) (configuration genesisData : Datum) (holdings : Holdings)
    (events : List Event) : Prop extends Holds node holdings where
  spec : ∀ before, Gives (node.spec before) (.ok configuration)
  genesis : ∀ before, Gives (node.genesis before) (.ok genesisData)
  events : ∀ before, Delivers (node.events before [↑HeadEvent.topic]) events

/-- A node that never changes and says nothing. -/
def steady (configuration genesisData : Datum) (holdings : Holdings) (events : List Event) :
    Node where
  spec _ := .silent (.ok configuration)
  genesis _ := .silent (.ok genesisData)
  block _ blockId := .silent ((holdings.block blockId).mapError .failure)
  sidecars _ blockId := .silent ((holdings.sidecars blockId).mapError .failure)
  events _ _ := events.map .event

theorem gives_silent {α : Type} (result : Except Trouble α) : Gives (.silent result) result :=
  ⟨rfl, rfl, quiet_nil⟩

theorem delivers_map (events : List Event) : Delivers (events.map .event) events := by
  induction events with
  | nil => exact .done
  | cons e rest ih => exact .event e ih

theorem serves_steady (configuration genesisData : Datum) (holdings : Holdings)
    (events : List Event) :
    Serves (steady configuration genesisData holdings events) configuration genesisData holdings
      events where
  spec _ := gives_silent _
  genesis _ := gives_silent _
  block _ _ := gives_silent _
  sidecars _ _ := gives_silent _
  events _ := delivers_map events

/-- The identifier of the block that a target names. -/
def resolved (zone : Zone) (timing : Timing) : Target → Except Trouble Text
  | .identifier blockId => .ok blockId
  | .moment expression => match timing.resolve zone expression with
    | .ok resolution => .ok resolution.identifier
    | .error fault => .error fault.trouble

variable {running : Bool} {configuration genesisData : Datum} {events : List Event}

theorem does_timing (hnode : Serves service.node configuration genesisData holdings events)
    {timing : Timing} (h : Timing.ofNode configuration genesisData = .ok timing) :
    Does running service.timing (.ok timing) (ofCalls ([.spec] ++ [.genesis])) := by
  rw [ofCalls_append, ← andThen_nothing (ofCalls [.genesis])]
  unfold Service.timing
  refine does_bind (does_catch (does_ask hnode.spec)) ?_
  refine does_bind (does_catch (does_ask hnode.genesis)) ?_
  rw [h]
  exact does_pure timing

/-- The resolver has warnings, but they are its own. -/
theorem resolution_quiet (resolution : Resolution) : Quiet resolution.log := by
  intro r hr
  unfold Resolution.log at hr
  rcases List.mem_append.mp hr with hr | hr
  · split at hr
    · exact quiet_singleton rfl r hr
    · exact quiet_nil r hr
  · exact quiet_singleton rfl r hr

theorem does_identifier {timing : Timing} {target : Target} {blockId : Text}
    (h : resolved service.zone timing target = .ok blockId) :
    Does running (service.identifier timing target) (.ok blockId) nothing := by
  cases target with
  | identifier given =>
      rw [← Except.ok.inj h]
      exact does_pure given
  | moment expression =>
      rw [resolved] at h
      rw [identifier]
      cases hresolve : timing.resolve service.zone expression with
      | error fault =>
          rw [hresolve] at h
          exact absurd h (by simp only [reduceCtorEq, not_false_eq_true])
      | ok resolution =>
          rw [hresolve] at h
          rw [← Except.ok.inj h]
          exact does_bind_quiet (does_say_quiet (resolution_quiet resolution)) (does_pure _)

/-- A session asks for the configuration and the genesis. -/
theorem does_session (hnode : Serves service.node configuration genesisData holdings events)
    {request : Request} {timing : Timing} {blockId : Text}
    (htiming : Timing.ofNode configuration genesisData = .ok timing)
    (htarget : resolved service.zone timing request.target = .ok blockId) :
    Does running (service.session request) (.ok ⟨request, timing, blockId⟩)
      (ofCalls ([.spec] ++ [.genesis])) := by
  rw [← andThen_nothing (ofCalls _)]
  unfold Service.session
  refine does_bind (does_timing hnode htiming) ?_
  exact does_bind_quiet (does_identifier htarget) (does_pure _)

/-- Between the first block and the stream stands what separates blocks. -/
theorem rests_separate {α : Type} {session : Session} {act : Act α} {result : Except Trouble α}
    {e : Effect} (h : Rests act result e) :
    Rests (if session.mode.separates then emit "\n" >>= fun _ => act else act) result
      ((ofOutput session.separator).andThen e) := by
  unfold Mode.separates Session.separator
  by_cases hmode : session.mode = .text
  · rw [if_pos hmode, if_pos (decide_eq_true hmode)]
    exact rests_bind (fun _ => does_emit "\n") h
  · have hnothing : ofOutput "" = nothing := rfl
    rw [if_neg hmode, if_neg (by rw [decide_eq_false hmode]; exact Bool.false_ne_true), hnothing,
      nothing_andThen]
    exact h

/-- A streaming run whose first block can be shown comes to a stream behind it. -/
theorem rests_run (hnode : Serves service.node configuration genesisData holdings events)
    {session : Session} {text : String} {e : Effect} (hstream : session.request.stream = true)
    (hquiet : session.request.quiet = false)
    (hsession : ∀ running, Does running (service.session session.request) (.ok session)
      (ofCalls ([.spec] ++ [.genesis])))
    (hfirst : session.shownAt service.zone holdings session.blockId = .ok text)
    (hstreamed : Rests (service.stream session) (.ok ()) e) :
    Rests (service.run session.request) (.ok .rendered)
      ((ofCalls ([.spec] ++ [.genesis])).andThen ((ofCalls (holdings.asked session.blockId)).andThen
        ((ofOutput text).andThen ((ofOutput session.separator).andThen e)))) := by
  obtain ⟨block, hfetched, hrender⟩ := fetched_of_shownAt hfirst
  have hfetch : ∀ running, Does running (service.fetch session.blockId true) (.ok (some block))
      (ofCalls (holdings.asked session.blockId)) := by
    intro running
    have hfetch : Does running (service.fetch session.blockId true) _ _ :=
      does_fetch hnode.toHolds session.blockId
    rw [hfetched] at hfetch
    exact hfetch
  unfold run
  refine rests_bind hsession ?_
  simp only [hquiet, hstream, Bool.not_false, Bool.false_eq_true, if_false, if_true]
  refine rests_bind hfetch ?_
  refine rests_bind (fun _ => does_write hrender) ?_
  exact rests_separate (rests_andReturn Outcome.rendered hstreamed)

/-- What a streaming run comes to when the node never changes and nothing worse
    than a failure goes wrong with an event, under the policy that goes on. The
    first block is written out, and then the block of every head event that can
    be shown, in the order of the events and each followed by an empty line if it
    is a report. Events of other topics and those that fail leave nothing behind
    in the output; each of the latter is warned of once. The node is asked for its
    configuration, its genesis and the first block, for one subscription, and for
    the block of every head event. -/
theorem run_streaming (request : Request) (timing : Timing) (blockId : Text) (text : String)
    (hnode : Serves service.node configuration genesisData holdings events)
    (hpolicy : service.policy = .logAndContinue) (hstream : request.stream = true)
    (hquiet : request.quiet = false)
    (htiming : Timing.ofNode configuration genesisData = .ok timing)
    (htarget : resolved service.zone timing request.target = .ok blockId)
    (hfirst : (Session.mk request timing blockId).shownAt service.zone holdings blockId = .ok text)
    (hforgiving : (Session.mk request timing blockId).Forgiving service.zone holdings
      (heads events)) (s : State) :
    let session : Session := ⟨request, timing, blockId⟩
    let written := session.written service.zone holdings (heads events)
    let troubles := session.troubles service.zone holdings (heads events)
    ∃ s', carry (service.run request) s = (.ok .rendered, s') ∧ s'.running = false ∧
      s'.output = s.output ++ (text ++ (session.separator ++
        String.join (written.map (· ++ session.separator)))) ∧
      s'.rendered = s.rendered + written.length ∧
      s'.warnings = s.warnings ++ troubles.map Session.warning ∧
      s'.calls = s.calls ++ ([.spec, .genesis] ++ (holdings.asked blockId ++
        (.events [↑HeadEvent.topic] :: (heads events).flatMap (Session.asked holdings)))) := by
  intro session written troubles
  have hstreamed := rests_stream (does_subscribe hnode.events fun hfeed =>
    does_follow hnode.toHolds hpolicy session hfeed hforgiving)
  have hrun : Rests (service.run session.request) _ _ := rests_run hnode hstream hquiet
    (fun _ => does_session hnode htiming htarget) hfirst hstreamed
  obtain ⟨s', hs', hlead⟩ := hrun s
  rw [Session.inTurn_reactions] at hlead
  simp only [andThen, ofCalls, ofOutput, nothing, List.nil_append, String.empty_append,
    Nat.zero_add, List.singleton_append] at hlead
  exact ⟨s', hs', hlead.running, hlead.output, hlead.rendered, hlead.warnings, hlead.calls⟩

/-- A blank block is asked for first and announced once, between an event of
    another topic and an announcement that says nothing. -/
theorem run_streaming_blank :
    let root := Bytes.zeros 32
    let holdings : Holdings := ⟨fun _ => .ok (some (.phase0 (blankBlock 7))), fun _ => .ok []⟩
    let head : HeadEvent := ⟨7, root, root, false⟩
    let node := steady (.record [("SECONDS_PER_SLOT", .text "12"), ("SLOTS_PER_EPOCH", .text "32")])
      (.record [("genesis_time", .text "0")]) holdings
      [⟨"block", head.datum⟩, ⟨"head", head.datum⟩, ⟨"head", .null⟩]
    let page := Fork.phase0.signedBlock.json (blankBlock 7) ++ "\n"
    ∃ s', carry (Service.run ⟨node, .universal, .logAndContinue⟩
        ⟨.identifier "7", true, false, true, false, false⟩) .fresh = (.ok .rendered, s') ∧
      s'.running = false ∧ s'.output = page ++ page ∧ s'.rendered = 1 ∧ s'.warnings.length = 1 ∧
      s'.calls = [.spec, .genesis, .block "7", .events ["head"], .block (Hex.marked root)] := by
  intro root holdings head node page
  let request : Request := ⟨.identifier "7", true, false, true, false, false⟩
  let timing : Timing := ⟨0, 12, 32, by decide, by decide⟩
  let session : Session := ⟨request, timing, "7"⟩
  have hread : HeadEvent.read head.datum = .ok head :=
    head.read_datum (by decide) (by decide) (by decide)
  have hshown : session.shown .universal holdings head.datum = .ok page := by
    rw [Session.shown, Service.head, hread]
    rfl
  have hblank : session.shown .universal holdings .null
      = .error (.failure (.fetch (.headEvent [⟨[], .notRecord "HeadEvent"⟩]))) := rfl
  have hforgiving : session.Forgiving .universal holdings [head.datum, .null] := by
    intro d hd t ht
    rcases List.mem_pair.mp hd with rfl | rfl
    · rw [hshown] at ht
      exact absurd ht (by simp only [reduceCtorEq, not_false_eq_true])
    · rw [hblank] at ht
      exact ⟨_, (Except.error.inj ht).symm⟩
  have hwritten : session.written .universal holdings [head.datum, .null] = [page] := by
    rw [Session.written_cons_ok hshown]
    rfl
  have htroubles : (session.troubles .universal holdings [head.datum, .null]).length = 1 := by
    rw [Session.troubles_cons_ok hshown]
    rfl
  have hasked : Session.asked holdings head.datum = [.block (Hex.marked root)] := by
    rw [Session.asked, Service.head, hread]
    rfl
  have hheads : heads [⟨"block", head.datum⟩, ⟨"head", head.datum⟩, ⟨"head", .null⟩]
      = [head.datum, .null] := rfl
  have hseparator : session.separator = "" := rfl
  have hfresh : State.fresh.output = "" := rfl
  let service : Service := ⟨node, .universal, .logAndContinue⟩
  have hserves : Serves service.node _ _ holdings _ := serves_steady _ _ holdings _
  obtain ⟨s', hs', hrest, houtput, hrendered, hwarnings, hcalls⟩ :=
    run_streaming request timing "7" page hserves rfl rfl rfl rfl rfl rfl hforgiving .fresh
  rw [hheads] at houtput hrendered hwarnings hcalls
  refine ⟨s', hs', hrest, ?_, ?_, ?_, ?_⟩
  · rw [houtput, hwritten, hseparator, hfresh]
    simp only [List.map_cons, List.map_nil, String.join_cons, String.join_nil, String.append_empty,
      String.empty_append]
  · rw [hrendered, hwritten]
    rfl
  · rw [hwarnings, List.length_append, List.length_map, htroubles]
    rfl
  · rw [hcalls, List.flatMap_cons, hasked]
    rfl

end Service

end Beacon
