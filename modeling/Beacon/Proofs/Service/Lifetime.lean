import Mathlib.Data.Nat.Count
import Mathlib.Data.Set.Card
import Beacon.Proofs.Service.Policy

/-!
# The Life of a Service

What a service knows about itself over its whole life: whether it is running, and
how many head events it has written out. It is used for one run after the other, on
nodes that may do anything, and every run may end in any way. Between runs it may be
told to stop.

The counter is compared with what it is supposed to count, and that is said without
it. A head event is written out (`Writes`) when it names a block that the node
returns and that can be rendered, and the output grows by the rendered text and what
stands behind it. How many events that were is the number of their places in the
feed, which is a set that mentions neither the counter nor how an event ended.

The argument is by steps. One item of a feed raises the counter by one if it is a
head event that is written out, and leaves it alone if it is anything else
(`follow_step`). After that the loop goes on with the rest, or it ends here whatever
the rest is. By induction a loop has counted what was written so far at every place
of its feed (`rendered_follow`). What a run does outside its loop is `Still`: it
counts nothing and sets nothing running.

## Main definitions

* `Still`: Work that counts nothing and does not set the service running.
* `Yields`, `Writes`: There is a text to write out for a head event, and it is written
  out completely.
* `Shows`, `WrittenAt`: An item of a feed is a head event that is written out, and
  there is such an item at a place of the feed.
* `Leaves`: A loop goes on after an item of its feed, or ends there.
* `writtenIn`: The places of the head events that a run writes out.
* `Use`, `live`, `written`: What is done with a service, the state it is left in after
  a row of that, and how many head events are written out on the way.

## Theorems

* `still_handle`, `still_first`, `still_run`: What is done outside of a loop.
* `writes_iff`: A head event is written out exactly if it is handled.
* `rendered_attempt`: A head event is counted exactly if it is written out.
* `follow_step`: What one item of a feed does.
* `rendered_follow`: What a loop has counted at every place of its feed.
* `carry_run_counted`: What a run has counted, and that it leaves the service at rest.
* `rendered_eq_written`: The counter is right over the whole life of a service.
-/

namespace Beacon

namespace Service

variable {α β : Type} {service : Service} {session : Session} {data : Datum}

/-! ### Work outside of a loop -/

/-- No event is counted, and the service is not set running. -/
structure Calm (s s' : State) : Prop where
  rendered : s'.rendered = s.rendered
  running : s'.running = true → s.running = true

theorem chains_calm : Chains Calm where
  refl _ := ⟨rfl, id⟩
  trans hst htu := ⟨htu.rendered.trans hst.rendered, fun h => hst.running (htu.running h)⟩

/-- Work that counts no event and does not set the service running. -/
def Still (act : Act α) : Prop := Within Calm act

/-- A service that is not running is not running after such work. -/
theorem Still.rests {act : Act α} (h : Still act) {s : State} (hrest : s.running = false) :
    (carry act s).2.running = false := by
  refine Bool.eq_false_iff.mpr fun hup => ?_
  exact Bool.false_ne_true (hrest.symm.trans ((h s).running hup))

theorem still_bind {act : Act α} {next : α → Act β} (hact : Still act)
    (hnext : ∀ a, Still (next a)) : Still (act >>= next) := within_bind chains_calm hact hnext

theorem still_settle (result : Except Trouble α) : Still (settle result) :=
  within_settle chains_calm result

theorem still_pure (a : α) : Still (pure a : Act α) := still_settle (.ok a)

theorem still_throw (t : Trouble) : Still (throw t : Act α) := still_settle (.error t)

theorem still_say (records : List Log.Record) : Still (say records) := fun _ => ⟨rfl, id⟩

theorem still_emit (text : String) : Still (emit text) := fun _ => ⟨rfl, id⟩

/-- A reply may take the flag down, but it does not put it up. -/
theorem still_ask (call : Call) (answer : List Call → Reply α) : Still (ask call answer) := by
  intro s
  rw [carry_ask]
  refine ⟨rfl, fun h => ?_⟩
  exact (Bool.and_eq_true_iff.mp h).1

theorem still_session (service : Service) (request : Request) :
    Still (service.session request) := by
  unfold Service.session Service.timing
  refine still_bind (still_bind (within_onFetchFault (still_ask _ _)) fun spec =>
    still_bind (within_onFetchFault (still_ask _ _)) fun genesis => ?_) fun timing =>
      still_bind ?_ fun _ => still_pure _
  · cases Timing.ofNode spec genesis with
    | ok timing => exact still_pure timing
    | error fault => exact still_throw _
  · cases request.target with
    | identifier blockId => exact still_pure blockId
    | moment expression =>
        rw [identifier]
        cases timing.resolve service.zone expression with
        | ok resolution => exact still_bind (still_say _) fun _ => still_pure _
        | error fault => exact still_throw _

theorem still_fetch (service : Service) (blockId : Text) (withSidecars : Bool) :
    Still (service.fetch blockId withSidecars) :=
  within_fetch chains_calm (still_ask _ _) (still_ask _ _) withSidecars

theorem still_write (service : Service) (session : Session) (block : Block) :
    Still (service.write session block) :=
  still_bind (still_say _) fun _ => still_bind (still_settle _) still_emit

theorem still_separate {next : Act α} (session : Session) (hnext : Still next) :
    Still (do
      if session.mode.separates then emit "\n"
      next) := by
  cases hmode : session.mode.separates with
  | false => exact hnext
  | true => exact still_bind (still_emit "\n") fun _ => hnext

/-- Handling an event does not count it. -/
theorem still_handle (service : Service) (session : Session) (data : Datum) :
    Still (service.handle session data) := by
  unfold handle
  refine still_bind (still_settle _) fun head => still_bind (still_say _) fun _ => ?_
  refine still_bind (still_fetch service head.blockId true) fun block? => ?_
  rcases block? with _ | block
  · exact still_throw _
  · refine still_bind (still_write service session block) fun _ => ?_
    split
    · exact still_emit "\n"
    · exact still_pure ()

theorem still_first (service : Service) (request : Request) : Still (service.first request) := by
  unfold first
  refine still_bind (still_session service request) fun session => ?_
  refine still_bind (still_fetch service session.blockId true) fun block? => ?_
  rcases block? with _ | block
  · exact still_throw _
  · exact still_bind (still_write service session block) fun _ =>
      still_separate session (still_pure session)

/-- A run without a stream counts nothing. -/
theorem still_run (service : Service) {request : Request}
    (honce : request.quiet = true ∨ request.stream = false) : Still (service.run request) := by
  unfold run
  refine still_bind (still_session service request) fun session => ?_
  refine still_bind (still_fetch service session.blockId (!request.quiet)) fun block? => ?_
  by_cases hquiet : request.quiet = true
  · rw [if_pos hquiet]
    exact still_pure _
  · rw [if_neg hquiet]
    have hstream : request.stream = false := honce.resolve_left hquiet
    rcases block? with _ | block
    · exact still_throw _
    · refine still_bind (still_write service session block) fun _ => ?_
      rw [hstream, if_neg Bool.false_ne_true]
      exact still_pure _

/-! ### One head event -/

/-- After some questions there is a text to write out for a head event: its data name a
    block, the node returns it, and it is rendered. -/
def Yields (service : Service) (session : Session) (data : Datum) (asked : List Call)
    (text : String) : Prop :=
  ∃ head block added, Service.head data = .ok head ∧
    Fetches service head.blockId true asked (.ok (some block)) added ∧
    (session.renderer service.zone).render block session.mode = .ok text

/-- The block of a head event is written out completely: there is a text for it, and the
    output grows by the text and what stands behind it. -/
def Writes (service : Service) (session : Session) (data : Datum) (s : State) : Prop :=
  ∃ text, Yields service session data s.calls text ∧
    (carry (service.attempt session data) s).2.output = s.output ++ (text ++ session.separator)

/-- An event is handled and its text is written, or it fails and there is no text. -/
theorem carry_handle_cases (service : Service) (session : Session) (data : Datum) (s : State) :
    (∃ text u, Yields service session data s.calls text ∧
      carry (service.handle session data) s = (.ok (), u) ∧
      u.output = s.output ++ (text ++ session.separator)) ∨
    (∃ t u, carry (service.handle session data) s = (.error t, u)) ∧
      ∀ text, ¬Yields service session data s.calls text := by
  unfold handle
  rw [carry_bind, carry_settle]
  cases hhead : Service.head data with
  | error t =>
      refine Or.inr ⟨⟨t, s, rfl⟩, ?_⟩
      rintro text ⟨head, block, added, hhead', -⟩
      exact absurd (hhead.symm.trans hhead') (by simp only [reduceCtorEq, not_false_eq_true])
  | ok head =>
      simp only []
      rw [carry_bind, say, carry_modify]
      simp only []
      set s₁ : State := { s with logs := s.logs ++ _ }
      obtain ⟨found, asked, s₂, hfound, hasks, hfetch⟩ := carry_fetch service head.blockId true s₁
      rw [carry_bind, hfound]
      -- Whatever there may be a text for is what was fetched.
      have hsame {text : String} (h : Yields service session data s.calls text) :
          ∃ block, found = .ok (some block) ∧
            (session.renderer service.zone).render block session.mode = .ok text := by
        obtain ⟨head', block, added, hhead', hfetch', hrender⟩ := h
        obtain rfl : head = head' := Except.ok.inj (hhead.symm.trans hhead')
        exact ⟨block, (hfetch.unique hfetch').1, hrender⟩
      rcases found with t | _ | block
      · refine Or.inr ⟨⟨t, s₂, rfl⟩, fun text h => ?_⟩
        obtain ⟨block, hfound', -⟩ := hsame h
        exact absurd hfound' (by simp only [reduceCtorEq, not_false_eq_true])
      · refine Or.inr ⟨⟨_, s₂, rfl⟩, fun text h => ?_⟩
        obtain ⟨block, hfound', -⟩ := hsame h
        exact absurd hfound' (by simp only [Except.ok.injEq, reduceCtorEq, not_false_eq_true])
      · simp only []
        rw [carry_bind]
        cases hrender : (session.renderer service.zone).render block session.mode with
        | error t =>
            obtain ⟨s₃, hs₃, -⟩ := does_write_error hrender s₂ rfl
            rw [hs₃]
            refine Or.inr ⟨⟨t, s₃, rfl⟩, fun text h => ?_⟩
            obtain ⟨block', hblock, hrender'⟩ := hsame h
            obtain rfl : block = block' := Option.some.inj (Except.ok.inj hblock)
            exact absurd (hrender.symm.trans hrender')
              (by simp only [reduceCtorEq, not_false_eq_true])
        | ok text =>
            obtain ⟨s₃, hs₃, hwritten⟩ := does_write hrender s₂ rfl
            obtain ⟨s₄, hs₄, hseparated⟩ := does_separate session s₃ rfl
            rw [hs₃]
            refine Or.inl ⟨text, s₄, ⟨head, block, asked, hhead, hfetch, hrender⟩, hs₄, ?_⟩
            have hsaid : s₁.output = s.output := rfl
            rw [hseparated.output, hwritten.output, hasks.output, hsaid, String.append_assoc]
            rfl

/-- An event that is handled is counted. -/
theorem carry_attempt_handled {s u : State}
    (h : carry (service.handle session data) s = (.ok (), u)) :
    carry (service.attempt session data) s = (.ok (), { u with rendered := u.rendered + 1 }) := by
  -- The policy makes no difference, whichever it is.
  have hcounted : carry ((service.under service.policy).attempt session data) s = _ :=
    carry_attempt_ok h
  exact hcounted

/-- A head event is written out exactly if it is handled. -/
theorem writes_iff (service : Service) (session : Session) (data : Datum) (s : State) :
    Writes service session data s ↔
      ∃ u, carry (service.handle session data) s = (.ok (), u) := by
  rcases carry_handle_cases service session data s with
    ⟨text, u, hyields, hu, houtput⟩ | ⟨⟨t, u, hu⟩, hnone⟩
  · refine iff_of_true ⟨text, hyields, ?_⟩ ⟨u, hu⟩
    rw [carry_attempt_handled hu]
    exact houtput
  · refine iff_of_false (fun ⟨text, hyields, _⟩ => hnone text hyields) ?_
    rintro ⟨u', hu'⟩
    exact absurd (Prod.mk.inj (hu.symm.trans hu')).1
      (by simp only [reduceCtorEq, not_false_eq_true])

theorem still_recover (service : Service) (failure : Failure) :
    Still (service.recover failure) := by
  unfold recover
  cases service.policy with
  | logAndContinue => exact still_say _
  | raise => exact still_throw _

open Classical in
/-- The counter goes up by one for an event that is written out, and stays what it is
    for any other. -/
theorem rendered_attempt (service : Service) (session : Session) (data : Datum) (s : State) :
    (carry (service.attempt session data) s).2.rendered
      = s.rendered + if Writes service session data s then 1 else 0 := by
  rcases hhandle : carry (service.handle session data) s with ⟨ended, u⟩
  have hhandled : u.rendered = s.rendered := by
    have hstill := (still_handle service session data s).rendered
    rwa [hhandle] at hstill
  cases ended with
  | error t =>
      -- A failure is answered by the policy, which does not count.
      have hfails : ¬Writes service session data s := by
        rw [writes_iff, hhandle]
        rintro ⟨u', hu'⟩
        exact absurd (Prod.mk.inj hu').1 (by simp only [reduceCtorEq, not_false_eq_true])
      rw [if_neg hfails, attempt, carry_tryCatch, carry_bind, hhandle]
      cases t with
      | failure failure => exact (still_recover service failure u).rendered.trans hhandled
      | breakdown _ => exact hhandled
  | ok _ =>
      have hwrites : Writes service session data s :=
        (writes_iff service session data s).mpr ⟨u, hhandle⟩
      rw [if_pos hwrites, carry_attempt_handled hhandle, hhandled]

/-! ### The loop -/

/-- An item of a feed is a head event that is written out. -/
def Shows (service : Service) (session : Session) (item : Feed.Item) (s : State) : Prop :=
  ∃ event, item = .event event ∧ event.topic = ↑HeadEvent.topic ∧ s.running = true ∧
    Writes service session event.data s

/-- At a place of a feed there is a head event that has its turn and is written out. -/
def WrittenAt (service : Service) (session : Session) (feed : Feed) (s : State) (i : Nat) : Prop :=
  ∃ before event after t, Turn service session feed s before event after t ∧
    before.length = i ∧ Writes service session event.data t

variable {item : Feed.Item} {rest : Feed} {s s' : State}

theorem writtenAt_zero :
    WrittenAt service session (item :: rest) s 0 ↔ Shows service session item s := by
  constructor
  · rintro ⟨before, event, after, t, ⟨hfeed, htopic, hdealt, hrunning⟩, hplace, hwrites⟩
    obtain rfl : before = [] := List.length_eq_zero_iff.mp hplace
    obtain ⟨-, rfl⟩ := Prod.mk.inj hdealt
    exact ⟨event, (List.cons.inj hfeed).1, htopic, hrunning, hwrites⟩
  · rintro ⟨event, rfl, htopic, hrunning, hwrites⟩
    exact ⟨[], event, rest, s, ⟨rfl, htopic, rfl, hrunning⟩, rfl, hwrites⟩

theorem WrittenAt.lt_length {feed : Feed} {i : Nat} (h : WrittenAt service session feed s i) :
    i < feed.length := by
  obtain ⟨before, event, after, t, hturn, rfl, -⟩ := h
  rw [hturn.delivered, List.length_append, List.length_cons]
  omega

/-- Where the loop goes on after an item, the later places are those of the rest. -/
theorem writtenAt_succ (hgoes : ∀ feed, carry (service.follow session (item :: feed)) s
      = carry (service.follow session feed) s') (i : Nat) :
    WrittenAt service session (item :: rest) s (i + 1)
      ↔ WrittenAt service session rest s' i := by
  constructor
  · rintro ⟨before, event, after, t, ⟨hfeed, htopic, hdealt, hrunning⟩, hplace, hwrites⟩
    cases before with
    | nil => exact absurd hplace.symm (Nat.succ_ne_zero i)
    | cons first before =>
        obtain ⟨rfl, hrest⟩ := List.cons.inj hfeed
        rw [hgoes before] at hdealt
        exact ⟨before, event, after, t, ⟨hrest, htopic, hdealt, hrunning⟩,
          Nat.succ.inj hplace, hwrites⟩
  · rintro ⟨before, event, after, t, hturn, hplace, hwrites⟩
    exact ⟨item :: before, event, after, t, hturn.cons hgoes, congrArg Nat.succ hplace, hwrites⟩

/-- Where the loop ends at an item, nothing has its turn after it. -/
theorem not_writtenAt_succ {ended : Except Trouble Unit}
    (hends : ∀ feed, carry (service.follow session (item :: feed)) s = (ended, s'))
    (hdown : ended = .ok () → s'.running = false) (i : Nat) :
    ¬WrittenAt service session (item :: rest) s (i + 1) := by
  rintro ⟨before, event, after, t, ⟨hfeed, -, hdealt, hrunning⟩, hplace, -⟩
  cases before with
  | nil => exact absurd hplace.symm (Nat.succ_ne_zero i)
  | cons first before =>
      obtain ⟨rfl, -⟩ := List.cons.inj hfeed
      obtain ⟨hended, rfl⟩ := Prod.mk.inj ((hends before).symm.trans hdealt)
      exact Bool.false_ne_true ((hdown hended).symm.trans hrunning)

/-- A loop deals with an item and goes on with the rest of the feed from the state that
    it is left in, or it ends there, whatever the rest is. -/
def Leaves (service : Service) (session : Session) (item : Feed.Item) (s s' : State) : Prop :=
  (∀ feed, carry (service.follow session (item :: feed)) s
    = carry (service.follow session feed) s') ∨
  ∃ ended, (ended = .ok () → s'.running = false) ∧
    ∀ feed, carry (service.follow session (item :: feed)) s = (ended, s')

/-- After a head event the loop goes on if the event was dealt with, and ends with the
    trouble if it was not. -/
theorem leaves_head {event : Event} (hrunning : s.running = true)
    (htopic : event.topic = ↑HeadEvent.topic) :
    Leaves service session (.event event) s (carry (service.attempt session event.data) s).2 := by
  have hfollow (feed : Feed) : carry (service.follow session (.event event :: feed)) s
      = carry (do
        service.attempt session event.data
        service.follow session feed) s := by
    rw [follow, carry_get, if_pos hrunning, if_pos htopic]
  rcases hattempt : carry (service.attempt session event.data) s with ⟨t | _, s'⟩
  · refine Or.inr ⟨.error t, fun h => ?_, fun feed => ?_⟩
    · exact absurd h (by simp only [reduceCtorEq, not_false_eq_true])
    · rw [hfollow, carry_bind, hattempt]
  · refine Or.inl fun feed => ?_
    rw [hfollow, carry_bind, hattempt]

open Classical in
/-- One item of a feed is counted if it is a head event that is written out, and not
    if it is anything else. -/
theorem follow_step (service : Service) (session : Session) (item : Feed.Item) (s : State) :
    ∃ s', Leaves service session item s s' ∧
      s'.rendered = s.rendered + if Shows service session item s then 1 else 0 := by
  cases item with
  | stop =>
      refine ⟨{ s with running := false }, Or.inl fun _ => rfl, ?_⟩
      simp only [Shows, reduceCtorEq, false_and, exists_false, if_false, Nat.add_zero]
  | look =>
      refine ⟨{ s with calls := s.calls ++ [.look s.running s.rendered] }, Or.inl fun _ => rfl, ?_⟩
      simp only [Shows, reduceCtorEq, false_and, exists_false, if_false, Nat.add_zero]
  | log record =>
      refine ⟨{ s with logs := s.logs ++ [record] }, Or.inl fun _ => rfl, ?_⟩
      simp only [Shows, reduceCtorEq, false_and, exists_false, if_false, Nat.add_zero]
  | trouble t =>
      refine ⟨s, Or.inr ⟨.error t, fun h => ?_, fun _ => rfl⟩, ?_⟩
      · exact absurd h (by simp only [reduceCtorEq, not_false_eq_true])
      · simp only [Shows, reduceCtorEq, false_and, exists_false, if_false, Nat.add_zero]
  | event event =>
      have hshows : Shows service session (.event event) s ↔ event.topic = ↑HeadEvent.topic ∧
          s.running = true ∧ Writes service session event.data s := by
        simp only [Shows, Feed.Item.event.injEq, exists_eq_left']
      by_cases hrunning : s.running = true
      · by_cases htopic : event.topic = ↑HeadEvent.topic
        · refine ⟨_, leaves_head hrunning htopic, ?_⟩
          simp only [hshows, htopic, hrunning, true_and]
          exact rendered_attempt service session event.data s
        · refine ⟨s, Or.inl fun feed => ?_, ?_⟩
          · rw [follow, carry_get, if_pos hrunning, if_neg htopic]
          · rw [if_neg fun h => htopic (hshows.mp h).1, Nat.add_zero]
      · -- An event that finds the service stopped ends the loop, as it should.
        refine ⟨s, Or.inr ⟨.ok (), fun _ => Bool.eq_false_iff.mpr hrunning, fun feed => ?_⟩, ?_⟩
        · rw [follow, carry_get, if_neg hrunning]
          rfl
        · rw [if_neg fun h => hrunning (hshows.mp h).2.1, Nat.add_zero]

open Classical in
/-- The numbers below a bound that meet a condition, counted one by one. -/
theorem ncard_below (p : Nat → Prop) (n : Nat) : {i | i < n ∧ p i}.ncard = Nat.count p n := by
  rw [Nat.count_eq_card_filter_range, ← Set.ncard_coe_finset]
  congr 1
  ext i
  rw [Finset.mem_coe, Finset.mem_filter, Finset.mem_range]
  rfl

/-- A loop has counted the head events that were written out so far, at every place of
    its feed. -/
theorem rendered_follow (service : Service) (session : Session) (before after : Feed)
    (s : State) :
    (carry (service.follow session before) s).2.rendered = s.rendered
      + {i | i < before.length ∧ WrittenAt service session (before ++ after) s i}.ncard := by
  classical
  rw [ncard_below]
  induction before generalizing s with
  | nil => rfl
  | cons item rest ih =>
      obtain ⟨s', hgoes | ⟨ended, hdown, hends⟩, hcount⟩ := follow_step service session item s
      · -- The first place is the item's own, and the later ones are counted by the rest.
        have hshift : (fun i => WrittenAt service session (item :: (rest ++ after)) s (i + 1))
            = WrittenAt service session (rest ++ after) s' :=
          funext fun i => propext (writtenAt_succ hgoes i)
        rw [hgoes rest, ih s', hcount, List.length_cons, Nat.count_succ']
        simp only [List.cons_append, hshift, writtenAt_zero]
        omega
      · -- There are no later places, and the loop has ended with what it has counted.
        have hshift : (fun i => WrittenAt service session (item :: (rest ++ after)) s (i + 1))
            = fun _ => False :=
          funext fun i => propext (iff_false_intro (not_writtenAt_succ hends hdown i))
        rw [hends rest, hcount, List.length_cons, Nat.count_succ']
        simp only [List.cons_append, hshift, writtenAt_zero, Nat.count_false, Nat.zero_add]

/-! ### Runs -/

/-- The places, in the feed of a run, of the head events that the run writes out. -/
def writtenIn (service : Service) (request : Request) (s : State) : Set Nat :=
  {i | ∃ session before event after t, ComesTo service request s session before event after t ∧
    before.length = i ∧ Writes service session event.data t}

variable {request : Request} {s₀ : State} {before after : Feed}

/-- A run that comes to no stream writes out no head event. -/
theorem writtenIn_eq_empty (h : request.stream = true → request.quiet = false →
      ∀ session, (carry (service.first request) s).1 ≠ .ok session) :
    writtenIn service request s = ∅ := by
  refine Set.eq_empty_iff_forall_notMem.mpr ?_
  rintro i ⟨session, before, event, after, t, ⟨hstream, hquiet, s₀, hfirst, -⟩, -, -⟩
  exact h hstream hquiet session (congrArg Prod.fst hfirst)

/-- A run that comes to a stream writes out what the loop of the stream does. -/
theorem mem_writtenIn_iff (hstream : request.stream = true) (hquiet : request.quiet = false)
    (hfirst : carry (service.first request) s = (.ok session, s₀)) (i : Nat) :
    i ∈ writtenIn service request s ↔ WrittenAt service session
      (service.node.events s₀.calls [↑HeadEvent.topic]) s₀.opened i := by
  constructor
  · rintro ⟨session', before, event, after, t, ⟨-, -, s₁, hfirst', hturn⟩, hplace, hwrites⟩
    obtain ⟨hsession, rfl⟩ := Prod.mk.inj (hfirst.symm.trans hfirst')
    obtain rfl : session = session' := Except.ok.inj hsession
    exact ⟨before, event, after, t, hturn, hplace, hwrites⟩
  · rintro ⟨before, event, after, t, hturn, hplace, hwrites⟩
    exact ⟨session, before, event, after, t, ⟨hstream, hquiet, s₀, hfirst, hturn⟩, hplace, hwrites⟩

/-- The counter at every place of the feed of a run. -/
theorem rendered_within (hstream : request.stream = true) (hquiet : request.quiet = false)
    (hfirst : carry (service.first request) s = (.ok session, s₀))
    (hfeed : service.node.events s₀.calls [↑HeadEvent.topic] = before ++ after) :
    (carry (service.follow session before) s₀.opened).2.rendered
      = s.rendered + {i | i < before.length ∧ i ∈ writtenIn service request s}.ncard := by
  have hopened : s₀.opened.rendered = s.rendered := by
    have hstill := (still_first service request s).rendered
    rwa [hfirst] at hstill
  simp only [rendered_follow service session before after, hopened,
    mem_writtenIn_iff hstream hquiet hfirst, hfeed]

/-- However a run ends, it has counted the head events that it has written out, and the
    service is not running after it. -/
theorem carry_run_counted (service : Service) (request : Request) (hrest : s.running = false) :
    (carry (service.run request) s).2.running = false ∧
      (carry (service.run request) s).2.rendered
        = s.rendered + (writtenIn service request s).ncard := by
  by_cases honce : request.quiet = true ∨ request.stream = false
  · have hnone : writtenIn service request s = ∅ := by
      refine writtenIn_eq_empty fun hstream hquiet => ?_
      rw [hstream, hquiet] at honce
      exact absurd honce (by decide)
    have hstill := still_run service honce
    rw [hnone, Set.ncard_empty]
    exact ⟨hstill.rests hrest, (hstill s).rendered⟩
  · obtain ⟨hloud, hstreams⟩ := not_or.mp honce
    have hquiet : request.quiet = false := Bool.eq_false_iff.mpr hloud
    have hstream : request.stream = true := Bool.eq_true_of_not_eq_false hstreams
    rcases hfirst : carry (service.first request) s with ⟨t | session, s₀⟩
    · -- The run fails before its stream.
      have hnone : writtenIn service request s = ∅ := by
        refine writtenIn_eq_empty fun _ _ session => ?_
        rw [hfirst]
        simp only [ne_eq, reduceCtorEq, not_false_eq_true]
      have hstill := still_first service request
      rw [carry_run_unopened service hstream hquiet hfirst, hnone, Set.ncard_empty]
      have hrests := hstill.rests hrest
      have hcount := (hstill s).rendered
      rw [hfirst] at hrests hcount
      exact ⟨hrests, hcount⟩
    · -- All of the feed has been dealt with when the loop ends.
      have hwithin := rendered_within hstream hquiet hfirst (List.append_nil _).symm
      have hall : {i | i < (service.node.events s₀.calls [↑HeadEvent.topic]).length ∧
          i ∈ writtenIn service request s} = writtenIn service request s := by
        refine Set.ext fun i => ⟨And.right, fun hi => ⟨?_, hi⟩⟩
        exact ((mem_writtenIn_iff hstream hquiet hfirst i).mp hi).lt_length
      rw [hall] at hwithin
      rw [carry_run_follow service hstream hquiet hfirst rfl]
      exact ⟨rfl, hwithin⟩

/-! ### The whole life -/

/-- What is done with a service: it carries out a request, on a node and under a policy,
    or it is told to stop. -/
inductive Use
  | run (service : Service) (request : Request)
  | stop

/-- The state a service is left in after one use. -/
def Use.next : Use → State → State
  | run service request, s => (carry (service.run request) s).2
  | stop, s => (carry Service.stop s).2

/-- How many head events are written out in one use. -/
noncomputable def Use.written : Use → State → Nat
  | run service request, s => (writtenIn service request s).ncard
  | stop, _ => 0

/-- The state a service is left in after a row of uses. -/
def live : List Use → State → State
  | [], s => s
  | use :: rest, s => live rest (use.next s)

/-- How many head events are written out in a row of uses. -/
noncomputable def written : List Use → State → Nat
  | [], _ => 0
  | use :: rest, s => use.written s + written rest (use.next s)

theorem live_append (uses more : List Use) (s : State) :
    live (uses ++ more) s = live more (live uses s) := by
  induction uses generalizing s with
  | nil => rfl
  | cons use rest ih => exact ih (use.next s)

/-- A service that is used at rest has counted what was written out and is at rest
    again. -/
theorem Use.next_counted (use : Use) (hrest : s.running = false) :
    (use.next s).running = false ∧ (use.next s).rendered = s.rendered + use.written s := by
  cases use with
  | run service request => exact carry_run_counted service request hrest
  | stop => exact ⟨rfl, rfl⟩

theorem live_counted (uses : List Use) (hrest : s.running = false) :
    (live uses s).running = false ∧ (live uses s).rendered = s.rendered + written uses s := by
  induction uses generalizing s with
  | nil => exact ⟨hrest, rfl⟩
  | cons use rest ih =>
      -- Each use finds the service at rest, because the one before has left it so.
      obtain ⟨hnext, hcount⟩ := use.next_counted hrest
      obtain ⟨hends, htotal⟩ := ih hnext
      refine ⟨hends, ?_⟩
      rw [live, htotal, hcount, written, Nat.add_assoc]

/-- Whatever is done with a service over its life, between two uses it is not running
    and its counter is the number of head events that were written out. The counter
    never goes down. In a further run it is right as well, at every place of the feed
    that the run follows. -/
theorem rendered_eq_written (uses : List Use) :
    let s := live uses .fresh
    s.running = false ∧ s.rendered = written uses .fresh ∧
    (∀ more, s.rendered ≤ (live (uses ++ more) .fresh).rendered) ∧
    ∀ {service : Service} {request : Request} {session : Session} {s₀ t : State}
      {before after : Feed} {ended : Except Trouble Unit},
      request.stream = true → request.quiet = false →
      carry (service.first request) s = (.ok session, s₀) →
      service.node.events s₀.calls [↑HeadEvent.topic] = before ++ after →
      carry (service.follow session before) s₀.opened = (ended, t) →
      t.rendered = written uses .fresh
        + {i | i < before.length ∧ i ∈ writtenIn service request s}.ncard := by
  intro s
  have hfresh : State.fresh.running = false := rfl
  obtain ⟨hrest, hcount⟩ := live_counted uses hfresh
  have hzero : State.fresh.rendered = 0 := rfl
  rw [hzero, Nat.zero_add] at hcount
  refine ⟨hrest, hcount, fun more => ?_, ?_⟩
  · rw [live_append, (live_counted more hrest).2]
    exact Nat.le_add_right _ _
  · intro service request session s₀ t before after ended hstream hquiet hfirst hfeed hfollow
    have hwithin := rendered_within hstream hquiet hfirst hfeed
    rw [hfollow, hcount] at hwithin
    exact hwithin

/-- A run writes out the block of the one head event of its feed, and a signal to stop
    follows. At the end of its feed the next run has written it out again. -/
theorem rendered_eq_written_twice :
    let root := Bytes.zeros 32
    let head : HeadEvent := ⟨7, root, root, false⟩
    let feed : Feed := [.event ⟨"head", head.datum⟩]
    let request : Request := ⟨.identifier "7", true, false, true, false, false⟩
    let session : Session := ⟨request, ⟨0, 12, 32, by decide, by decide⟩, "7"⟩
    let node := steady (.record [("SECONDS_PER_SLOT", .text "12"), ("SLOTS_PER_EPOCH", .text "32")])
      (.record [("genesis_time", .text "0")])
      ⟨fun _ => .ok (some (.phase0 (Schema.blankBlock 7))), fun _ => .ok []⟩
      [⟨"head", head.datum⟩]
    let service : Service := ⟨node, .universal, .logAndContinue⟩
    let uses : List Use := [.run service request, .stop]
    let s := live uses .fresh
    let s₀ := (carry (service.first request) s).2
    let looped := carry (service.follow session feed) s₀.opened
    request.stream = true ∧ request.quiet = false ∧
      carry (service.first request) s = (.ok session, s₀) ∧
      service.node.events s₀.calls [↑HeadEvent.topic] = feed ++ [] ∧
      carry (service.follow session feed) s₀.opened = (looped.1, looped.2) ∧
      s.running = false ∧
      written uses .fresh + {i | i < feed.length ∧ i ∈ writtenIn service request s}.ncard = 2 := by
  intro root head feed request session node service uses s s₀ looped
  -- What comes before the stream goes the same way, whatever was done before.
  have hopens (s : State) : (carry (service.first request) s).1 = .ok session := rfl
  have hfirst : carry (service.first request) s = (.ok session, s₀) := Prod.ext (hopens s) rfl
  have hfeed : service.node.events s₀.calls [↑HeadEvent.topic] = feed ++ [] := rfl
  have hfollow : carry (service.follow session feed) s₀.opened = (looped.1, looped.2) :=
    Prod.ext (Eq.refl looped.1) (Eq.refl looped.2)
  have htwo : looped.2.rendered = 2 := by decide +kernel
  obtain ⟨hrest, -, -, hwithin⟩ := rendered_eq_written uses
  have hmore : looped.2.rendered = _ := hwithin rfl rfl hfirst hfeed hfollow
  rw [htwo] at hmore
  exact ⟨rfl, rfl, hfirst, hfeed, hfollow, hrest, hmore.symm⟩

end Service

end Beacon
