import Beacon.Proofs.Service.Mirroring

/-!
# Telling a Service to Stop

What becomes of the signal to stop that is given to a service during a streaming
run. It may come at any moment: while the service waits for a reply of its node,
which the reply tells, or between two items of its feed.

The service has one flag, which is taken down by the signal and looked at when an
event arrives. But the stream puts the flag up when it begins. So there are two
kinds of moments, and `run_stop` says what happens in each of them.

A signal that comes before the stream is lost. Nothing looks at the flag until
the stream has put it up again, so the run goes as it would have gone had nobody
given the signal. To say so, the node is compared with the `undisturbed` one, whose
replies are the same but do not stop the service until it has subscribed. That two
nodes make no difference is carried along the run as `Alike`: two pieces of work
come to the same in every state that meets an invariant, and keep it. That is to say
that they mirror each other, being begun in the same state.

A signal that comes after is kept. Nothing in the loop puts the flag up, so
wherever in the loop the signal comes, the flag is down from then on. The loop then
only runs on to the next event, and all it does on the way is to let itself be
looked at.

## Main definitions

* `Alike`: Two pieces of work come to the same and keep an invariant.
* `SameUnder`: The relation that such work keeps.
* `subscribed`, `undisturbed`: Whether a stream has begun, and a node that does not
  stop the service before that.
* `first`, `State.opened`: What a streaming run does before its stream, and the
  state in which the loop begins.
* `Node.stopsAmong`: Whether a reply to one of some questions stops the service.
* `Feed.ending`: How a feed ends for a reader who leaves at the next event.
* `Heeds`: What is left of the flag after some questions.
* `Ends`: How a loop can come to a good end.
* `Idle`: Nothing is asked, written or counted between two states.

## Theorems

* `carry_run_stream`: A streaming run is what comes first and then the stream.
* `run_undisturbed`: What the replies before the stream say about stopping makes no
  difference.
* `ends_iff`: A loop comes to a good end in one of the ways that are listed.
* `Ends.running`: The flag is up after a loop only if nobody took it down.
* `Ends.append`: A loop over two feeds is one loop after the other.
* `follow_idle`: A loop whose service is stopped idles to the next event.
* `run_stop`: A signal to stop is lost before the stream and kept in it.
* `run_loses_early_stop`: A run that goes on after the signal.
-/

namespace Beacon

namespace Service

variable {α β : Type}

/-! ### Work that makes no difference -/

/-- Begun in any state whose flag and calls meet an invariant, the one piece of
    work comes to the same as the other, and the invariant holds after it. -/
def Alike (inv : Bool → List Call → Prop) (act act' : Act α) : Prop :=
  ∀ s : State, inv s.running s.calls →
    carry act' s = carry act s ∧ inv (carry act s).2.running (carry act s).2.calls

/-- An invariant is kept when two nodes are asked for blocks and sidecars, and the
    nodes make no difference. -/
structure Deals (inv : Bool → List Call → Prop) (node node' : Node) : Prop where
  block : ∀ blockId, Alike inv (ask (.block blockId) (node.block · blockId))
    (ask (.block blockId) (node'.block · blockId))
  sidecars : ∀ blockId, Alike inv (ask (.sidecars blockId) (node.sidecars · blockId))
    (ask (.sidecars blockId) (node'.sidecars · blockId))

variable {inv : Bool → List Call → Prop} {service : Service} {node : Node}

/-- Two states are the same and meet an invariant. -/
def SameUnder (inv : Bool → List Call → Prop) (s s' : State) : Prop :=
  s' = s ∧ inv s.running s.calls

/-- Work is alike if it is mirrored when it is begun in the same state. -/
theorem alike_iff {act act' : Act α} :
    Alike inv act act' ↔ Mirrors (SameUnder inv) act act' := by
  constructor
  · rintro h s _ ⟨rfl, hs⟩
    obtain ⟨hsame, hinv⟩ := h _ hs
    rw [hsame]
    exact ⟨rfl, rfl, hinv⟩
  · intro h s hs
    obtain ⟨hresult, hstate, hinv⟩ := h s s ⟨rfl, hs⟩
    exact ⟨Prod.ext hresult hstate, hinv⟩

theorem even_sameUnder (inv : Bool → List Call → Prop) : Even (SameUnder inv) where
  say _ h := ⟨by rw [h.1], h.2⟩
  emit _ h := ⟨by rw [h.1], h.2⟩
  count h := ⟨by rw [h.1], h.2⟩

theorem Deals.paired {node node' : Node} (h : Deals inv node node') :
    Paired (SameUnder inv) node node' where
  block blockId := alike_iff.mp (h.block blockId)
  sidecars blockId := alike_iff.mp (h.sidecars blockId)

theorem alike_bind {act act' : Act α} {next next' : α → Act β} (hact : Alike inv act act')
    (hnext : ∀ a, Alike inv (next a) (next' a)) :
    Alike inv (act >>= next) (act' >>= next') :=
  alike_iff.mpr (mirrors_bind (alike_iff.mp hact) fun a => alike_iff.mp (hnext a))

theorem alike_pure (a : α) : Alike inv (pure a) (pure a) := fun _ hs => ⟨rfl, hs⟩

theorem alike_throw (t : Trouble) : Alike inv (throw t : Act α) (throw t) :=
  fun _ hs => ⟨rfl, hs⟩

theorem alike_say (records : List Log.Record) : Alike inv (say records) (say records) :=
  fun _ hs => ⟨rfl, hs⟩

theorem alike_emit (text : String) : Alike inv (emit text) (emit text) := fun _ hs => ⟨rfl, hs⟩

/-- Replies make no difference if they differ only in stopping a service that is
    stopped anyway. -/
theorem alike_ask {call : Call} {answer answer' : List Call → Reply α}
    (h : ∀ running calls, inv running calls →
      (answer' calls).result = (answer calls).result ∧ (answer' calls).logs = (answer calls).logs ∧
      (running && !(answer' calls).stops) = (running && !(answer calls).stops) ∧
      inv (running && !(answer calls).stops) (calls ++ [call])) :
    Alike inv (ask call answer) (ask call answer') := by
  intro s hs
  obtain ⟨hresult, hlogs, hstops, hinv⟩ := h s.running s.calls hs
  rw [carry_ask, carry_ask, State.asked, State.asked, hresult, hlogs, hstops]
  exact ⟨rfl, hinv⟩

theorem alike_onFetchFault {act act' : Act α} {wrap : FetchFault → Failure}
    (hact : Alike inv act act') : Alike inv (onFetchFault act wrap) (onFetchFault act' wrap) :=
  alike_iff.mpr (mirrors_onFetchFault (alike_iff.mp hact))

theorem alike_identifier (timing : Timing) (target : Target) :
    Alike inv (service.identifier timing target)
      (Service.identifier { service with node := node } timing target) := by
  cases target with
  | identifier blockId => exact alike_pure blockId
  | moment expression =>
      rw [identifier, identifier]
      simp only []
      cases timing.resolve service.zone expression with
      | ok resolution => exact alike_bind (alike_say _) fun _ => alike_pure _
      | error fault => exact alike_throw _

theorem alike_fetch (h : Deals inv service.node node) (blockId : Text) (withSidecars : Bool) :
    Alike inv (service.fetch blockId withSidecars)
      (Service.fetch { service with node := node } blockId withSidecars) :=
  alike_iff.mpr (mirrors_fetch h.paired blockId withSidecars)

theorem alike_write (session : Session) (block : Block) :
    Alike inv (service.write session block)
      (Service.write { service with node := node } session block) :=
  alike_iff.mpr (mirrors_write (even_sameUnder inv) session block)

theorem alike_attempt (h : Deals inv service.node node) (session : Session) (data : Datum) :
    Alike inv (service.attempt session data)
      (Service.attempt { service with node := node } session data) :=
  alike_iff.mpr (mirrors_attempt (even_sameUnder inv) h.paired session data)

/-! ### A run and its stream -/

/-- What a streaming run does before its stream. -/
def first (service : Service) (request : Request) : Act Session := do
  let session ← service.session request
  match ← service.fetch session.blockId true with
  | none => throw (.failure (.empty (some session.blockId)))
  | some block =>
    service.write session block
    if session.mode.separates then emit "\n"
    pure session

/-- The state in which the loop of a stream begins. -/
def State.opened (s : State) : State :=
  { s with running := true, calls := s.calls ++ [.events [↑HeadEvent.topic]] }

/-- A streaming run is what comes first and then the stream. -/
theorem carry_run_stream (service : Service) {request : Request} (hstream : request.stream = true)
    (hquiet : request.quiet = false) (s : State) :
    carry (service.run request) s =
      carry (do
        let session ← service.first request
        service.stream session
        pure .rendered) s := by
  simp only [run, first, hstream, hquiet, Bool.not_false, Bool.false_eq_true, if_false, if_true]
  rw [carry_bind, carry_bind, carry_bind]
  rcases carry (service.session request) s with ⟨t | session, s₁⟩
  · rfl
  simp only []
  rw [carry_bind, carry_bind]
  rcases carry (service.fetch session.blockId true) s₁ with ⟨t | _ | block, s₂⟩
  · rfl
  · rfl
  simp only []
  rw [carry_bind, carry_bind]
  rcases carry (service.write session block) s₂ with ⟨t | _, s₃⟩
  · rfl
  simp only []
  cases session.mode.separates <;> rfl

/-- A stream is its loop, with the flag put up before and taken down after. -/
theorem carry_stream {service : Service} {session : Session} {s s' : State}
    {result : Except Trouble Unit}
    (h : carry (service.follow session (service.node.events s.calls [↑HeadEvent.topic])) s.opened
      = (result, s')) :
    carry (service.stream session) s = (result, { s' with running := false }) := by
  have hset (b : Bool) (t : State) : carry (setRunning b) t = (.ok (), { t with running := b }) :=
    rfl
  have hsubscribe : carry (service.subscribe session) { s with running := true }
      = (result, s') := by
    rw [subscribe, carry_get, carry_bind, ← h]
    rfl
  rw [stream, carry_bind, hset]
  simp only []
  rw [carry_bind, carry_tryCatch, hsubscribe]
  cases result <;> rfl

/-! ### Before the stream -/

/-- Whether a stream has begun, `past` being the number of calls before the run. -/
def subscribed (past : Nat) (calls : List Call) : Bool :=
  (calls.drop past).contains (.events [↑HeadEvent.topic])

theorem subscribed_append {past : Nat} {calls : List Call} (h : subscribed past calls = true)
    (more : List Call) : subscribed past (calls ++ more) = true := by
  unfold subscribed at h ⊢
  rw [List.drop_append, List.contains_append, h, Bool.true_or]

theorem not_subscribed_append {past : Nat} {calls : List Call} {call : Call}
    (h : subscribed past calls = false) (hcall : call ≠ .events [↑HeadEvent.topic]) :
    subscribed past (calls ++ [call]) = false := by
  unfold subscribed at h ⊢
  rw [← Bool.not_eq_true, List.contains_iff_mem] at h ⊢
  intro hmem
  rw [List.drop_append] at hmem
  rcases List.mem_append.mp hmem with hmem | hmem
  · exact h hmem
  · exact hcall (List.mem_singleton.mp (List.mem_of_mem_drop hmem)).symm

theorem subscribed_opened {past : Nat} {s : State} (h : past ≤ s.calls.length) :
    subscribed past s.opened.calls = true := by
  unfold subscribed State.opened
  rw [List.drop_append_of_le_length h, List.contains_append, Bool.or_eq_true]
  exact Or.inr (List.contains_iff_mem.mpr (List.mem_singleton_self _))

end Service

/-- A reply that does not stop the service. -/
def Reply.unheard {α : Type} (r : Reply α) : Reply α := { r with stops := false }

/-- A node whose replies do not stop the service until a stream has begun. -/
def Node.undisturbed (node : Node) (past : Nat) : Node where
  spec calls :=
    if Service.subscribed past calls then node.spec calls else (node.spec calls).unheard
  genesis calls :=
    if Service.subscribed past calls then node.genesis calls else (node.genesis calls).unheard
  block calls blockId :=
    if Service.subscribed past calls then node.block calls blockId
    else (node.block calls blockId).unheard
  sidecars calls blockId :=
    if Service.subscribed past calls then node.sidecars calls blockId
    else (node.sidecars calls blockId).unheard
  events := node.events

namespace Service

/-- A service that is not stopped by replies until a stream has begun. -/
def undisturbed (service : Service) (past : Nat) : Service :=
  { service with node := service.node.undisturbed past }

variable {α : Type} {service : Service} {past : Nat}

/-- No stream has begun, and the flag is down. -/
def Before (past : Nat) (running : Bool) (calls : List Call) : Prop :=
  running = false ∧ past ≤ calls.length ∧ subscribed past calls = false

/-- A stream has begun. -/
def During (past : Nat) (_running : Bool) (calls : List Call) : Prop :=
  subscribed past calls = true

/-- A flag that is down is not taken down, so nobody misses the signals. -/
theorem before_ask {call : Call} (answer : List Call → Reply α)
    (hcall : call ≠ .events [↑HeadEvent.topic]) :
    Alike (Before past) (ask call answer) (ask call fun calls =>
      if subscribed past calls then answer calls else (answer calls).unheard) := by
  refine alike_ask fun running calls h => ?_
  obtain ⟨rfl, hpast, hcalls⟩ := h
  rw [hcalls, if_neg Bool.false_ne_true]
  refine ⟨rfl, rfl, rfl, rfl, ?_, not_subscribed_append hcalls hcall⟩
  rw [List.length_append]
  exact Nat.le_add_right_of_le hpast

/-- Once a stream has begun the signals are there. -/
theorem during_ask {call : Call} (answer : List Call → Reply α) :
    Alike (During past) (ask call answer) (ask call fun calls =>
      if subscribed past calls then answer calls else (answer calls).unheard) := by
  refine alike_ask fun running calls h => ?_
  have hcalls : subscribed past calls = true := h
  rw [if_pos hcalls]
  exact ⟨rfl, rfl, rfl, subscribed_append hcalls [call]⟩

theorem before_deals (service : Service) :
    Deals (Before past) service.node (service.node.undisturbed past) where
  block _ := before_ask _ (by simp only [ne_eq, reduceCtorEq, not_false_eq_true])
  sidecars _ := before_ask _ (by simp only [ne_eq, reduceCtorEq, not_false_eq_true])

theorem during_deals (service : Service) :
    Deals (During past) service.node (service.node.undisturbed past) where
  block _ := during_ask _
  sidecars _ := during_ask _

theorem before_session (service : Service) (request : Request) :
    Alike (Before past) (service.session request)
      ((service.undisturbed past).session request) := by
  have hspec : Alike (Before past) (ask .spec service.node.spec)
      (ask .spec (service.node.undisturbed past).spec) :=
    before_ask _ (by simp only [ne_eq, reduceCtorEq, not_false_eq_true])
  have hgenesis : Alike (Before past) (ask .genesis service.node.genesis)
      (ask .genesis (service.node.undisturbed past).genesis) :=
    before_ask _ (by simp only [ne_eq, reduceCtorEq, not_false_eq_true])
  refine alike_bind ?_ fun timing => alike_bind (alike_identifier timing _) fun _ => alike_pure _
  refine alike_bind (alike_onFetchFault hspec) fun spec => ?_
  refine alike_bind (alike_onFetchFault hgenesis) fun genesis => ?_
  cases Timing.ofNode spec genesis with
  | ok timing => exact alike_pure timing
  | error fault => exact alike_throw _

theorem before_first (service : Service) (request : Request) :
    Alike (Before past) (service.first request)
      ((service.undisturbed past).first request) := by
  refine alike_bind (before_session service request) fun session => ?_
  refine alike_bind (alike_fetch (before_deals service) session.blockId true) fun block? => ?_
  rcases block? with _ | block
  · exact alike_throw _
  · refine alike_bind (alike_write session block) fun _ => ?_
    simp only []
    cases session.mode.separates with
    | false => exact alike_pure session
    | true => exact alike_bind (alike_emit _) fun _ => alike_pure session

theorem during_follow (service : Service) (session : Session) (feed : Feed) :
    Alike (During past) (service.follow session feed)
      ((service.undisturbed past).follow session feed) := by
  induction feed with
  | nil => exact alike_pure ()
  | cons item rest ih =>
      cases item with
      | stop => exact alike_bind (fun _ hs => ⟨rfl, hs⟩) fun _ => ih
      | log record => exact alike_bind (alike_say _) fun _ => ih
      | trouble t => exact alike_throw t
      | look =>
          intro s hs
          exact ih { s with calls := s.calls ++ [.look s.running s.rendered] }
            (subscribed_append hs _)
      | event event =>
          intro s hs
          rw [follow, follow, carry_get, carry_get]
          by_cases hrunning : s.running = true
          · rw [if_pos hrunning, if_pos hrunning]
            by_cases htopic : event.topic = ↑HeadEvent.topic
            · rw [if_pos htopic, if_pos htopic]
              exact alike_bind (alike_attempt (during_deals service) session _) (fun _ => ih) s hs
            · rw [if_neg htopic, if_neg htopic]
              exact ih s hs
          · rw [if_neg hrunning, if_neg hrunning]
            exact ⟨rfl, hs⟩

/-- What the replies before the stream say about stopping makes no difference. -/
theorem run_undisturbed (service : Service) {request : Request} (hstream : request.stream = true)
    (hquiet : request.quiet = false) {s : State} (hrest : s.running = false) :
    carry ((service.undisturbed s.calls.length).run request) s
      = carry (service.run request) s := by
  have hbefore : Before s.calls.length s.running s.calls := by
    refine ⟨hrest, Nat.le_refl _, ?_⟩
    rw [subscribed, List.drop_length]
    rfl
  obtain ⟨hfirst, hends⟩ := before_first service request s hbefore
  rw [carry_run_stream _ hstream hquiet, carry_run_stream _ hstream hquiet, carry_bind, carry_bind,
    hfirst]
  rcases hcarry : carry (service.first request) s with ⟨t | session, s₀⟩
  · rfl
  rw [hcarry] at hends
  -- The stream puts the flag up, so both loops begin in the same state whatever the
  -- flag was, and from there on the nodes do not differ.
  have hstreamed : carry ((service.undisturbed s.calls.length).stream session) s₀
      = carry (service.stream session) s₀ := by
    have hfollow := (during_follow service session
      (service.node.events s₀.calls [↑HeadEvent.topic]) s₀.opened (subscribed_opened hends.2.1)).1
    exact (carry_stream hfollow).trans (carry_stream rfl).symm
  simp only []
  rw [carry_bind, carry_bind, hstreamed]

end Service

/-! ### During the stream -/

/-- Whether the reply to a question stops the service. -/
def Node.stopsAt (node : Node) (asked : List Call) : Call → Bool
  | .spec => (node.spec asked).stops
  | .genesis => (node.genesis asked).stops
  | .block blockId => (node.block asked blockId).stops
  | .sidecars blockId => (node.sidecars asked blockId).stops
  | .events _ => false
  | .look _ _ => false

/-- Whether a reply to one of some questions, asked after others, stops the
    service. -/
def Node.stopsAmong (node : Node) (asked : List Call) : List Call → Bool
  | [] => false
  | call :: rest => node.stopsAt asked call || node.stopsAmong (asked ++ [call]) rest

theorem Node.stopsAmong_append (node : Node) (asked calls more : List Call) :
    node.stopsAmong asked (calls ++ more)
      = (node.stopsAmong asked calls || node.stopsAmong (asked ++ calls) more) := by
  induction calls generalizing asked with
  | nil => rw [List.nil_append, List.append_nil, stopsAmong, Bool.false_or]
  | cons call rest ih =>
      rw [List.cons_append, stopsAmong, stopsAmong, ih, Bool.or_assoc, List.append_assoc,
        List.singleton_append]

/-- How a feed ends for a reader who leaves at the next event. -/
def Feed.ending : Feed → Except Trouble Unit
  | [] => .ok ()
  | .event _ :: _ => .ok ()
  | .trouble t :: _ => .error t
  | .log _ :: rest => ending rest
  | .stop :: rest => ending rest
  | .look :: rest => ending rest

namespace Service

variable {α : Type} {node : Node}

/-- The flag and the calls after a state, nobody but the replies of the node
    stopping the service. -/
def Heeds (node : Node) (s : State) (running : Bool) (calls : List Call) : Prop :=
  ∃ added, calls = s.calls ++ added ∧ running = (s.running && !node.stopsAmong s.calls added)

theorem heeds_self (node : Node) (s : State) : Heeds node s s.running s.calls :=
  ⟨[], (List.append_nil _).symm, by rw [Node.stopsAmong, Bool.not_false, Bool.and_true]⟩

theorem heeds_ask {s : State} {call : Call} {answer : List Call → Reply α}
    (h : ∀ calls, node.stopsAt calls call = (answer calls).stops) :
    Alike (Heeds node s) (ask call answer) (ask call answer) := by
  refine alike_ask fun running calls hheeds => ⟨rfl, rfl, rfl, ?_⟩
  obtain ⟨added, rfl, rfl⟩ := hheeds
  refine ⟨added ++ [call], List.append_assoc _ _ _, ?_⟩
  rw [Node.stopsAmong_append, Node.stopsAmong, Node.stopsAmong, Bool.or_false, h, Bool.not_or,
    Bool.and_assoc]

theorem heeds_deals (node : Node) (s : State) : Deals (Heeds node s) node node where
  block _ := heeds_ask fun _ => rfl
  sidecars _ := heeds_ask fun _ => rfl

/-- How a loop can come to a good end: what happens at each item of its feed until
    it is through or finds the service stopped. -/
inductive Ends (service : Service) (session : Session) : Feed → State → State → Prop
  /-- The feed is at its end. -/
  | done {s : State} : Ends service session [] s s
  /-- An event finds the service stopped. -/
  | stopped {event : Event} {rest : Feed} {s : State} (h : s.running = false) :
      Ends service session (.event event :: rest) s s
  /-- The service is told to stop. -/
  | stop {rest : Feed} {s s' : State}
      (hrest : Ends service session rest { s with running := false } s') :
      Ends service session (.stop :: rest) s s'
  /-- The service is looked at. -/
  | look {rest : Feed} {s s' : State}
      (hrest : Ends service session rest
        { s with calls := s.calls ++ [.look s.running s.rendered] } s') :
      Ends service session (.look :: rest) s s'
  /-- Something is said. -/
  | log {record : Log.Record} {rest : Feed} {s s' : State}
      (hrest : Ends service session rest { s with logs := s.logs ++ [record] } s') :
      Ends service session (.log record :: rest) s s'
  /-- An event is of another topic. -/
  | passed {event : Event} {rest : Feed} {s s' : State} (hrunning : s.running = true)
      (htopic : event.topic ≠ ↑HeadEvent.topic) (hrest : Ends service session rest s s') :
      Ends service session (.event event :: rest) s s'
  /-- A head event is dealt with. -/
  | handled {event : Event} {rest : Feed} {s s₁ s' : State} (hrunning : s.running = true)
      (htopic : event.topic = ↑HeadEvent.topic)
      (hattempt : carry (service.attempt session event.data) s = (.ok (), s₁))
      (hrest : Ends service session rest s₁ s') : Ends service session (.event event :: rest) s s'

/-- A loop comes to a good end in one of the ways that are listed. -/
theorem ends_iff (service : Service) (session : Session) (feed : Feed) (s s' : State) :
    Ends service session feed s s' ↔ carry (service.follow session feed) s = (.ok (), s') := by
  constructor
  · intro h
    induction h with
    | done => rfl
    | stopped hrest =>
        rw [follow, carry_get, if_neg (by rw [hrest]; exact Bool.false_ne_true)]
        rfl
    | stop _ ih => exact ih
    | look _ ih => exact ih
    | log _ ih => exact ih
    | passed hrunning htopic _ ih =>
        rw [follow, carry_get, if_pos hrunning, if_neg htopic]
        exact ih
    | handled hrunning htopic hattempt _ ih =>
        rw [follow, carry_get, if_pos hrunning, if_pos htopic, carry_bind, hattempt]
        exact ih
  · intro h
    induction feed generalizing s with
    | nil =>
        obtain rfl : s = s' := (Prod.mk.inj h).2
        exact .done
    | cons item rest ih =>
        cases item with
        | stop => exact .stop (ih _ h)
        | look => exact .look (ih _ h)
        | log record => exact .log (ih _ h)
        | trouble t =>
            exact absurd (Prod.mk.inj h).1 (by simp only [reduceCtorEq, not_false_eq_true])
        | event event =>
            rw [follow, carry_get] at h
            by_cases hrunning : s.running = true
            · rw [if_pos hrunning] at h
              by_cases htopic : event.topic = ↑HeadEvent.topic
              · rw [if_pos htopic, carry_bind] at h
                rcases hattempt : carry (service.attempt session event.data) s with ⟨t | _, s₁⟩
                · rw [hattempt] at h
                  exact absurd (Prod.mk.inj h).1 (by simp only [reduceCtorEq, not_false_eq_true])
                · rw [hattempt] at h
                  exact .handled hrunning htopic hattempt (ih s₁ h)
              · rw [if_neg htopic] at h
                exact .passed hrunning htopic (ih s h)
            · rw [if_neg hrunning] at h
              obtain rfl : s = s' := (Prod.mk.inj h).2
              exact .stopped (Bool.eq_false_iff.mpr hrunning)

/-- The flag is up after a loop only if it was up before and nobody took it down,
    neither the feed nor a reply. -/
theorem Ends.running {service : Service} {session : Session} {feed : Feed} {s s' : State}
    (h : Ends service session feed s s') :
    ∃ added, s'.calls = s.calls ++ added ∧ (s'.running = true →
      s.running = true ∧ .stop ∉ feed ∧ service.node.stopsAmong s.calls added = false) := by
  -- An item that is no signal and asks nothing leaves the rest to be told.
  have hpass {item : Feed.Item} {rest : Feed} {s s' : State} (hitem : .stop ≠ item)
      (ih : ∃ added, s'.calls = s.calls ++ added ∧ (s'.running = true →
        s.running = true ∧ .stop ∉ rest ∧ service.node.stopsAmong s.calls added = false)) :
      ∃ added, s'.calls = s.calls ++ added ∧ (s'.running = true → s.running = true ∧
        .stop ∉ item :: rest ∧ service.node.stopsAmong s.calls added = false) := by
    obtain ⟨added, hcalls, hflag⟩ := ih
    refine ⟨added, hcalls, fun hup => ?_⟩
    obtain ⟨hs, hfeed, hstops⟩ := hflag hup
    exact ⟨hs, List.not_mem_cons_of_ne_of_not_mem hitem hfeed, hstops⟩
  induction h with
  | done => exact ⟨[], (List.append_nil _).symm, fun hup => ⟨hup, List.not_mem_nil, rfl⟩⟩
  | stopped hdown =>
      refine ⟨[], (List.append_nil _).symm, fun hup => ?_⟩
      exact absurd (hdown.symm.trans hup) Bool.false_ne_true
  | stop _ ih =>
      obtain ⟨added, hcalls, hflag⟩ := ih
      exact ⟨added, hcalls, fun hup => absurd (hflag hup).1 Bool.false_ne_true⟩
  | look _ ih =>
      have hitem : Feed.Item.stop ≠ .look := by simp only [ne_eq, reduceCtorEq, not_false_eq_true]
      obtain ⟨added, hcalls, hflag⟩ := hpass hitem ih
      refine ⟨_ :: added, by rw [hcalls, List.append_assoc]; rfl, fun hup => ?_⟩
      exact hflag hup
  | log _ ih => exact hpass (by simp only [ne_eq, reduceCtorEq, not_false_eq_true]) ih
  | passed _ _ _ ih => exact hpass (by simp only [ne_eq, reduceCtorEq, not_false_eq_true]) ih
  | @handled event rest s s₁ s' hrunning _ hattempt _ ih =>
      obtain ⟨added, hcalls, hflag⟩ := ih
      -- What the event's own questions do to the flag is put before the rest.
      obtain ⟨-, asked, hasked, hheeded⟩ :=
        alike_attempt (heeds_deals service.node s) session event.data s
          (heeds_self service.node s)
      rw [hattempt] at hasked hheeded
      refine ⟨asked ++ added, by rw [hcalls, hasked, List.append_assoc], fun hup => ?_⟩
      obtain ⟨hs₁, hfeed, hstops⟩ := hflag hup
      rw [hs₁, hrunning, Bool.true_and] at hheeded
      rw [hasked] at hstops
      have hitem : .stop ∉ .event event :: rest := List.not_mem_cons_of_ne_of_not_mem
        (by simp only [ne_eq, reduceCtorEq, not_false_eq_true]) hfeed
      refine ⟨hrunning, hitem, ?_⟩
      rw [Node.stopsAmong_append, hstops, Bool.or_false]
      rw [← Bool.not_eq_true']
      exact hheeded.symm

/-- A loop that comes to a good end over the first of two feeds comes to the same
    end over both, or goes on with the second. -/
theorem Ends.append {service : Service} {session : Session} {before : Feed} {s s' : State}
    (h : Ends service session before s s') (after : Feed) :
    carry (service.follow session (before ++ after)) s = (.ok (), s') ∨
      carry (service.follow session (before ++ after)) s
        = carry (service.follow session after) s' := by
  induction h with
  | done => exact Or.inr rfl
  | stopped hdown =>
      exact Or.inl ((ends_iff _ _ _ _ _).mp (.stopped hdown))
  | stop _ ih => exact ih
  | look _ ih => exact ih
  | log _ ih => exact ih
  | passed hrunning htopic _ ih =>
      rw [List.cons_append, follow, carry_get, if_pos hrunning, if_neg htopic]
      exact ih
  | handled hrunning htopic hattempt _ ih =>
      rw [List.cons_append, follow, carry_get, if_pos hrunning, if_pos htopic, carry_bind, hattempt]
      exact ih

/-- Nothing is asked, written or counted between two states, the flag being down
    at the second. At most someone has a look at the service. -/
structure Idle (s s' : State) : Prop where
  running : s'.running = false
  output : s'.output = s.output
  rendered : s'.rendered = s.rendered
  calls : ∃ looks, s'.calls = s.calls ++ looks ∧
    ∀ call ∈ looks, ∃ running rendered, call = .look running rendered

theorem idle_self {s : State} (h : s.running = false) : Idle s s where
  running := h
  output := rfl
  rendered := rfl
  calls := ⟨[], (List.append_nil _).symm, fun _ hcall => absurd hcall List.not_mem_nil⟩

/-- Taking the flag down once more changes nothing. -/
theorem Idle.atRest {s s' : State} (h : Idle s s') : Idle s { s' with running := false } where
  running := rfl
  output := h.output
  rendered := h.rendered
  calls := h.calls

/-- A loop whose service is stopped idles to the next event. -/
theorem follow_idle (service : Service) (session : Session) (feed : Feed) {s : State}
    (h : s.running = false) :
    ∃ s', carry (service.follow session feed) s = (feed.ending, s') ∧ Idle s s' := by
  induction feed generalizing s with
  | nil => exact ⟨s, rfl, idle_self h⟩
  | cons item rest ih =>
      cases item with
      | trouble t => exact ⟨s, rfl, idle_self h⟩
      | event event =>
          refine ⟨s, ?_, idle_self h⟩
          exact (ends_iff _ _ _ _ _).mp (.stopped h)
      | log record =>
          obtain ⟨s', hs', hidle⟩ := ih (s := { s with logs := s.logs ++ [record] }) h
          exact ⟨s', hs', hidle.running, hidle.output, hidle.rendered, hidle.calls⟩
      | stop =>
          obtain ⟨s', hs', hidle⟩ := ih (s := { s with running := false }) rfl
          exact ⟨s', hs', hidle.running, hidle.output, hidle.rendered, hidle.calls⟩
      | look =>
          let look : Call := .look s.running s.rendered
          obtain ⟨s', hs', hidle⟩ := ih (s := { s with calls := s.calls ++ [look] }) h
          obtain ⟨looks, hcalls, hlooks⟩ := hidle.calls
          refine ⟨s', hs', hidle.running, hidle.output, hidle.rendered, look :: looks, ?_, ?_⟩
          · rw [hcalls, List.append_assoc, List.singleton_append]
          · exact List.forall_mem_cons.mpr ⟨⟨_, _, rfl⟩, hlooks⟩

/-- A signal to stop is lost before the stream and kept in it. What the replies
    before the stream say about stopping makes no difference to a streaming run. But
    once the signal has been given in the loop, by the feed or by a reply, the
    service idles: no event after that is asked for, written or counted, and the run
    ends at the next event, or where the feed ends or breaks before it. -/
theorem run_stop (service : Service) {request : Request} (hstream : request.stream = true)
    (hquiet : request.quiet = false) {s : State} (hrest : s.running = false) :
    carry ((service.undisturbed s.calls.length).run request) s = carry (service.run request) s ∧
      ∀ {session : Session} {s₀ s₁ : State} {before after : Feed},
        carry (service.first request) s = (.ok session, s₀) →
        service.node.events s₀.calls [↑HeadEvent.topic] = before ++ after →
        carry (service.follow session before) s₀.opened = (.ok (), s₁) →
        (.stop ∈ before ∨ ∃ asked, s₁.calls = s₀.opened.calls ++ asked ∧
          service.node.stopsAmong s₀.opened.calls asked = true) →
        ∃ s', Idle s₁ s' ∧ (carry (service.run request) s = (.ok .rendered, s') ∨
          ∃ t, after.ending = .error t ∧ carry (service.run request) s = (.error t, s')) := by
  refine ⟨run_undisturbed service hstream hquiet hrest, ?_⟩
  intro session s₀ s₁ before after hfirst hfeed hbefore hstop
  have hends : Ends service session before s₀.opened s₁ := (ends_iff _ _ _ _ _).mpr hbefore
  -- The flag is down, since it can only be up if there was no signal.
  have hdown : s₁.running = false := by
    obtain ⟨added, hcalls, hflag⟩ := hends.running
    refine Bool.eq_false_iff.mpr fun hup => ?_
    obtain ⟨-, hnostop, hnone⟩ := hflag hup
    rcases hstop with hmem | ⟨asked, hasked, hstops⟩
    · exact hnostop hmem
    · obtain rfl : added = asked := List.append_cancel_left (hcalls.symm.trans hasked)
      exact Bool.false_ne_true (hnone.symm.trans hstops)
  have hrun (result : Except Trouble Unit) (s₂ : State)
      (hfollow : carry (service.follow session (before ++ after)) s₀.opened = (result, s₂)) :
      carry (service.run request) s
        = (result.map fun _ => .rendered, { s₂ with running := false }) := by
    rw [← hfeed] at hfollow
    rw [carry_run_stream service hstream hquiet, carry_bind, hfirst]
    simp only []
    rw [carry_bind, carry_stream hfollow]
    cases result <;> rfl
  rcases hends.append after with hleft | hon
  · exact ⟨_, (idle_self hdown).atRest, Or.inl (hrun _ _ hleft)⟩
  · obtain ⟨s₂, hs₂, hidle⟩ := follow_idle service session after hdown
    have hended := hrun _ _ (hon.trans hs₂)
    refine ⟨_, hidle.atRest, ?_⟩
    cases hending : after.ending with
    | ok _ => exact Or.inl (by rw [hended, hending]; rfl)
    | error t => exact Or.inr ⟨t, rfl, by rw [hended, hending]; rfl⟩

/-- The signal is given as soon as the stream has begun, and nothing is done about
    the head event that follows. -/
theorem run_stop_at_once :
    let root := Bytes.zeros 32
    let head : HeadEvent := ⟨7, root, root, false⟩
    let request : Request := ⟨.identifier "7", true, false, true, false, false⟩
    let session : Session := ⟨request, ⟨0, 12, 32, by decide, by decide⟩, "7"⟩
    let after : Feed := [.look, .event ⟨"head", head.datum⟩]
    let node : Node :=
      { steady (.record [("SECONDS_PER_SLOT", .text "12"), ("SLOTS_PER_EPOCH", .text "32")])
          (.record [("genesis_time", .text "0")])
          ⟨fun _ => .ok (some (.phase0 (Schema.blankBlock 7))), fun _ => .ok []⟩ [] with
        events := fun _ _ => .stop :: after }
    let service : Service := ⟨node, .universal, .logAndContinue⟩
    let s₀ := (carry (service.first request) .fresh).2
    let s₁ : State := { s₀.opened with running := false }
    request.stream = true ∧ request.quiet = false ∧ State.fresh.running = false ∧
      carry (service.first request) .fresh = (.ok session, s₀) ∧
      carry (service.follow session [.stop]) s₀.opened = (.ok (), s₁) ∧
      ∃ s', Idle s₁ s' ∧ (carry (service.run request) .fresh = (.ok .rendered, s') ∨
        ∃ t, after.ending = .error t ∧ carry (service.run request) .fresh = (.error t, s')) := by
  intro root head request session after node service s₀ s₁
  have hfirst : carry (service.first request) .fresh = (.ok session, s₀) := rfl
  have hbefore : carry (service.follow session [.stop]) s₀.opened = (.ok (), s₁) := rfl
  refine ⟨rfl, rfl, rfl, hfirst, hbefore, ?_⟩
  exact (run_stop service rfl rfl rfl).2 hfirst rfl hbefore (Or.inl (List.mem_singleton_self _))

/-- A run goes on after the signal. It is given while the node is asked for the
    first block, and the head event after it is asked for, written out and counted
    all the same. -/
theorem run_loses_early_stop :
    let root := Bytes.zeros 32
    let head : HeadEvent := ⟨7, root, root, false⟩
    let found : Reply (Option Block) := .silent (.ok (some (.phase0 (Schema.blankBlock 7))))
    let node : Node :=
      { steady (.record [("SECONDS_PER_SLOT", .text "12"), ("SLOTS_PER_EPOCH", .text "32")])
          (.record [("genesis_time", .text "0")]) ⟨fun _ => .ok none, fun _ => .ok []⟩
          [⟨"head", head.datum⟩] with
        block := fun _ blockId => { found with stops := blockId = "7" } }
    let s' := (carry (Service.run ⟨node, .universal, .logAndContinue⟩
      ⟨.identifier "7", true, false, true, false, false⟩) .fresh).2
    node.stopsAmong [] [.spec, .genesis, .block "7"] = true ∧ s'.rendered = 1 ∧
      s'.calls = [.spec, .genesis, .block "7", .events ["head"], .block (Hex.marked root)] := by
  decide +kernel

end Service

end Beacon
