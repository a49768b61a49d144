import Beacon.Command.Run
import Beacon.Proofs.Node.Client
import Beacon.Proofs.Service.Once

/-!
# The Status of the Command

What the status of a run without a stream tells, whatever the transport does.

A run has one of three statuses, and one handler decides which. It looks at the end of the
run and at nothing else, so two ends of a kind cannot be told apart. An interruption is
taken for success, since this is how a stream is ended. A quiet run has the same handler,
and so its success says that there is a block, or that nobody waited for
the reply (`quiet_status`).

To get from a status back to what the node has replied takes two things. Every end of
a run is one of `Once`, and each of these comes from the replies to known requests.
And no trouble but an interrupted request is an interruption, which `Tells` carries
from one question to the next: as long as there was a reply, no request before was
interrupted.

## Main definitions

* `Client.Tells`: A result tells whether the last request is interrupted.
* `Command.Reaches`: A run gets as far as asking for a block.
* `Command.Shows`: A block is fetched and rendered.
* `Command.Stumbles`: How a run can fail before it writes anything.

## Theorems

* `Command.statusOf_success_iff`, `Command.statusOf_absence_iff`,
  `Command.statusOf_failure_iff`: After which ends the statuses stand.
* `Command.run_cases`: What a run without a stream is made of.
* `Command.once_interrupted`: A run ends in an interruption if its last request is
  interrupted.
* `Command.quiet_status`: What the status of a quiet run tells.
* `Command.quiet_status_interrupted`: Success without a block.
* `Command.once_output`: Nothing is written but one text, at the end of a good run.
-/

namespace Beacon

open Outcome

namespace Client

variable {α : Type} {client : Client}

/-- A result tells whether the last request that some calls make is interrupted,
    and it is never the failure that there is no block. -/
structure Tells (client : Client) (calls : List Call) (result : Except Trouble α) : Prop where
  interrupted : Interrupted result ↔ Http.BreaksOff client.transport (client.requests calls)
  unabsent : FailsIn (fun t => t.isAbsence = false) result

theorem tells_of_failsIn {calls : List Call} {result : Except Trouble α}
    (h : FailsIn Trouble.Ordinary result)
    (hcalls : ¬Http.BreaksOff client.transport (client.requests calls)) :
    client.Tells calls result where
  interrupted := iff_of_false (not_interrupted_of_failsIn h) hcalls
  unabsent t ht := (h t ht).unabsent

/-- When no request was interrupted so far, the reply to a further call tells
    whether its own request is. -/
theorem Reports.tells {calls : List Call} {path : Text} {result : Except Trouble α}
    (h : client.Reports calls path result) {call : Call}
    (hcall : client.request? call = (client.lookUp path).toOption)
    (hcalls : ¬Http.BreaksOff client.transport (client.requests calls)) :
    client.Tells (calls ++ [call]) result where
  interrupted := h.interrupted.trans (breaksOff_snoc hcall hcalls).symm
  unabsent := h.unabsent

theorem Tells.unbroken {calls : List Call} {result : Except Trouble α} {a : α}
    (h : client.Tells calls result) (hok : result = .ok a) :
    ¬Http.BreaksOff client.transport (client.requests calls) := by
  intro hbreaks
  rw [hok] at h
  exact not_interrupted_ok a (h.interrupted.mpr hbreaks)

theorem Tells.reworded {β : Type} {calls : List Call} {result : Except Trouble α} {t : Trouble}
    {wrap : FetchFault → Failure} (h : client.Tells calls result) (ht : result = .error t)
    (hwrap : ∀ fault, (wrap fault).kind.isA .empty = false) :
    client.Tells calls (.error (t.reworded wrap) : Except Trouble β) := by
  rw [ht] at h
  refine ⟨?_, failsIn_error ?_⟩
  · rw [← h.interrupted, interrupted_error, interrupted_error, Trouble.reworded_isInterruption]
  · rw [Trouble.reworded_isAbsence hwrap]
    exact h.unabsent t rfl

end Client

namespace Command

open Service

/-- The service that the command works with. -/
def serving (client : Client) (zone : Zone) : Service := ⟨client.node, zone, .logAndContinue⟩

variable {client : Client} {zone : Zone}

theorem opens_tells {request : Request} {ended : Except Trouble Session} {opening : List Call}
    (h : Opens (serving client zone) request [] ended opening) : client.Tells opening ended := by
  have hspec : client.Tells [.spec] (client.spec []).result :=
    (client.record_reports [] _).tells rfl (Http.not_breaksOff_nil _)
  have hgenesis {spec : Datum} (h : (client.spec []).result = .ok spec) :
      client.Tells [.spec, .genesis] (client.genesis [.spec]).result :=
    (client.record_reports [.spec] _).tells rfl (hspec.unbroken h)
  cases h with
  | spec h => exact hspec.reworded h fun _ => rfl
  | genesis hok h => exact (hgenesis hok).reworded h fun _ => rfl
  | timing hok hok' h =>
      exact Client.tells_of_failsIn (failsIn_error (TimingFault.trouble_ordinary _))
        ((hgenesis hok).unbroken hok')
  | target hok hok' htiming h =>
      exact Client.tells_of_failsIn (failsIn_error (failsIn_resolved _ _ _ _ h))
        ((hgenesis hok).unbroken hok')
  | opened hok hok' htiming htarget =>
      exact Client.tells_of_failsIn (failsIn_ok _) ((hgenesis hok).unbroken hok')

theorem fetches_tells {blockId : Text} {withSidecars : Bool} {asked fetching : List Call}
    {found : Except Trouble (Option Block)}
    (hasked : ¬Http.BreaksOff client.transport (client.requests asked))
    (h : Fetches (serving client zone) blockId withSidecars asked found fetching) :
    client.Tells (asked ++ fetching) found := by
  have hblock : client.Tells (asked ++ [.block blockId]) (client.block asked blockId).result :=
    (client.block_reports asked blockId).tells rfl hasked
  have hsidecars {block : Option Block} (h : (client.block asked blockId).result = .ok block) :
      client.Tells (asked ++ [.block blockId, .sidecars blockId])
        (client.sidecars (asked ++ [.block blockId]) blockId).result := by
    rw [List.append_cons asked (.block blockId) [.sidecars blockId]]
    have hreports := client.sidecars_reports (asked ++ [.block blockId]) blockId
    exact hreports.tells rfl (hblock.unbroken h)
  cases h with
  | failed h =>
      have hreply : (client.block asked blockId).result = _ := h
      rw [hreply] at hblock
      exact hblock
  | absent h => exact Client.tells_of_failsIn (failsIn_ok none) (hblock.unbroken h)
  | bare h => exact Client.tells_of_failsIn (failsIn_ok _) (hblock.unbroken h)
  | unattached _ hok h => exact (hsidecars hok).reworded h fun _ => rfl
  | attached _ hok h => exact Client.tells_of_failsIn (failsIn_ok _) ((hsidecars hok).unbroken h)

/-! ### Statuses -/

/-- The status is success after an interruption and after every good end but the one
    without a block. -/
theorem statusOf_success_iff (ended : Except Trouble Outcome) :
    statusOf ended = .ok success ↔
      ended = .ok .rendered ∨ ended = .ok .present ∨ Interrupted ended := by
  rcases ended with (f | b) | outcome
  · rw [interrupted_error]
    by_cases h : f.kind.isA .empty = true <;>
      simp [statusOf, Trouble.isInterruption, h, success, absence, failure]
  · rw [interrupted_error]
    by_cases h : b.kind = .interrupt <;> simp [statusOf, Trouble.isInterruption, h]
  · cases outcome <;> simp [statusOf, success, absence, not_interrupted_ok]

/-- The status is absence after the good end without a block, and after the failure
    that there is none. -/
theorem statusOf_absence_iff (ended : Except Trouble Outcome) :
    statusOf ended = .ok absence ↔
      ended = .ok .absent ∨ ∃ t, ended = .error t ∧ t.isAbsence = true := by
  rcases ended with (f | b) | outcome
  · by_cases h : f.kind.isA .empty = true <;>
      simp [statusOf, Trouble.isAbsence, h, absence, failure]
  · by_cases h : b.kind = .interrupt <;>
      simp [statusOf, Trouble.isAbsence, h, success, absence]
  · cases outcome <;> simp [statusOf, success, absence]

/-- The status is failure after every other failure. -/
theorem statusOf_failure_iff (ended : Except Trouble Outcome) :
    statusOf ended = .ok failure ↔
      ∃ f, ended = .error (.failure f) ∧ f.kind.isA .empty = false := by
  rcases ended with (f | b) | outcome
  · by_cases h : f.kind.isA .empty = true <;> simp [statusOf, h, absence, failure]
  · by_cases h : b.kind = .interrupt <;> simp [statusOf, h, success, failure]
  · cases outcome <;> simp [statusOf, success, absence, failure]

/-- What the status of a trouble tells is what can be told of an interruption, of
    the failure that there is no block, and of every other failure. -/
theorem tell_of_error {t : Trouble} {broken absent : Prop} {stumbled : Failure → Prop}
    (hbroken : Interrupted (.error t : Except Trouble Outcome) → broken)
    (habsent : t.isAbsence = true → absent) (hstumbled : ∀ f, t = .failure f → stumbled f) :
    (statusOf (.error t) = .ok success → broken) ∧ (statusOf (.error t) = .ok absence → absent) ∧
      (statusOf (.error t) = .ok failure → ∃ f, stumbled f) := by
  refine ⟨fun h => ?_, fun h => ?_, fun h => ?_⟩
  · rcases (statusOf_success_iff _).mp h with hok | hok | hinterrupted
    · exact absurd hok (by simp only [reduceCtorEq, not_false_eq_true])
    · exact absurd hok (by simp only [reduceCtorEq, not_false_eq_true])
    · exact hbroken hinterrupted
  · rcases (statusOf_absence_iff _).mp h with hok | ⟨t', ht, habsence⟩
    · exact absurd hok (by simp only [reduceCtorEq, not_false_eq_true])
    · rw [← Except.error.inj ht] at habsence
      exact habsent habsence
  · obtain ⟨f, hf, -⟩ := (statusOf_failure_iff _).mp h
    exact ⟨f, hstumbled f (Except.error.inj hf)⟩

/-- An ordinary trouble has neither the status of success nor that of absence. -/
theorem statusOf_ordinary {t : Trouble} (h : t.Ordinary) :
    statusOf (.error t) ≠ .ok success ∧ statusOf (.error t) ≠ .ok absence := by
  have hunabsent (habsence : t.isAbsence = true) : False :=
    Bool.false_ne_true (h.unabsent.symm.trans habsence)
  obtain ⟨hsuccess, habsence, -⟩ := tell_of_error
    (not_interrupted_of_failsIn (failsIn_error h)) hunabsent fun f hf => hf
  exact ⟨hsuccess, habsence⟩

/-! ### Runs without a stream -/

/-- A run gets as far as asking for a block: its options make a request, the node
    can be asked, and a session begins. -/
structure Reaches (o : Options) (zone : Zone) (transport : Http.Transport) (client : Client)
    (session : Session) : Prop where
  requested : o.request = .ok session.request
  connected : o.connection.client transport = .ok client
  opened : Opens (serving client zone) session.request [] (.ok session) [.spec, .genesis]

theorem transport_of_connected {connection : Connection} {transport : Http.Transport}
    {client : Client} (h : connection.client transport = .ok client) :
    client.transport = transport := by
  obtain ⟨read, -, h⟩ := bind_eq_ok_iff.mp h
  obtain ⟨base, -, h⟩ := bind_eq_ok_iff.mp h
  rw [← Except.ok.inj h]

theorem flags_of_requested {o : Options} {request : Request} (h : o.request = .ok request) :
    request.json = o.json ∧ request.ssz = o.ssz ∧ request.stream = o.stream ∧
      request.quiet = o.quiet ∧ request.verbose = o.verbose := by
  obtain ⟨target, -, rfl⟩ := map_eq_ok_iff.mp h
  exact ⟨rfl, rfl, rfl, rfl, rfl⟩

/-- The result of a run is that of its service's work. -/
theorem run_of_carry {o : Options} {transport : Http.Transport} {request : Request}
    {ended : Except Trouble Outcome} {s : State} (hrequest : o.request = .ok request)
    (hclient : o.connection.client transport = .ok client)
    (h : carry ((serving client zone).run request) .fresh = (ended, s)) :
    run o zone transport = .late o client ended s := by
  have hran : (Service.run ⟨client.node, zone, .logAndContinue⟩ request).run.run State.fresh
      = (ended, s) := h
  unfold run
  rw [hrequest]
  simp only [hclient, hran]

/-- A run ends before it asks anything, or it goes in one of the ways in which a
    service without a stream can. -/
theorem run_cases (o : Options) (zone : Zone) (transport : Http.Transport)
    (honce : o.quiet = true ∨ o.stream = false) :
    (∃ t, t.Ordinary ∧ (run o zone transport).status = statusOf (.error t) ∧
      (run o zone transport).output = "" ∧ (run o zone transport).requests = [] ∧
      (∀ client session, ¬Reaches o zone transport client session) ∧
      ∀ f, t = .failure f → ∃ fault, o.request = .error fault ∧ f = .usage fault) ∨
    ∃ request client ended added, o.request = .ok request ∧
      o.connection.client transport = .ok client ∧
      Once (serving client zone) request [] ended added (run o zone transport).output ∧
      (run o zone transport).status = statusOf ended ∧
      (run o zone transport).requests = client.requests added := by
  -- Bad options and a bad location end the run before there is anybody to ask.
  cases hrequest : o.request with
  | error fault =>
      left
      unfold run
      rw [hrequest]
      refine ⟨_, Trouble.ordinary_failure rfl, rfl, rfl, rfl, ?_, ?_⟩
      · intro client session h
        exact absurd (hrequest.symm.trans h.requested)
          (by simp only [reduceCtorEq, not_false_eq_true])
      · intro f hf
        exact ⟨fault, rfl, (Trouble.failure.inj hf).symm⟩
  | ok request =>
      cases hclient : o.connection.client transport with
      | error fault =>
          left
          have hkind : (Breakdown.location fault).kind ≠ .interrupt := fault.kind_ne_interrupt
          unfold run
          rw [hrequest]
          simp only [hclient]
          refine ⟨_, Trouble.ordinary_breakdown hkind, rfl, rfl, rfl, ?_, ?_⟩
          · intro client session h
            exact absurd (hclient.symm.trans h.connected)
              (by simp only [reduceCtorEq, not_false_eq_true])
          · intro f hf
            exact absurd hf (by simp only [reduceCtorEq, not_false_eq_true])
      | ok client =>
          right
          obtain ⟨-, -, hstream, hquiet, -⟩ := flags_of_requested hrequest
          rw [← hstream, ← hquiet] at honce
          obtain ⟨ended, added, text, s, hs, hcalls, houtput, hwent⟩ :=
            carry_run_once (serving client zone) honce .fresh
          have hout : s.output = text := houtput.trans String.empty_append
          rw [run_of_carry hrequest hclient hs]
          refine ⟨request, client, ended, added, rfl, rfl, ?_, rfl, ?_⟩
          · rw [Result.late, hout]
            exact hwent
          · rw [Result.late, hcalls]
            rfl

/-- Once a session has begun, what fetching a block comes to tells whether the last
    request of the run was interrupted. -/
theorem fetching_tells {request : Request} {session : Session} {blockId : Text}
    {withSidecars : Bool} {opening fetching : List Call} {found : Except Trouble (Option Block)}
    (hopen : Opens (serving client zone) request [] (.ok session) opening)
    (hfetch : Fetches (serving client zone) blockId withSidecars opening found fetching) :
    client.Tells (opening ++ fetching) found :=
  fetches_tells ((opens_tells hopen).unbroken rfl) hfetch

/-- How a run without a stream ends tells whether its last request was
    interrupted. -/
theorem once_interrupted {request : Request} {ended : Except Trouble Outcome} {added : List Call}
    {text : String} (h : Once (serving client zone) request [] ended added text) :
    Interrupted ended ↔ Http.BreaksOff client.transport (client.requests added) := by
  cases h with
  | unopened hopen =>
      rw [← (opens_tells hopen).interrupted, interrupted_error, interrupted_error]
  | unfetched hopen hfetch =>
      rw [← (fetching_tells hopen hfetch).interrupted, interrupted_error, interrupted_error]
  | told _ hopen hfetch =>
      exact iff_of_false (not_interrupted_ok _) ((fetching_tells hopen hfetch).unbroken rfl)
  | missing _ hopen hfetch =>
      refine iff_of_false ?_ ((fetching_tells hopen hfetch).unbroken rfl)
      rw [interrupted_error]
      exact Bool.false_ne_true
  | unrendered _ hopen hfetch hrender =>
      refine iff_of_false ?_ ((fetching_tells hopen hfetch).unbroken rfl)
      exact not_interrupted_of_failsIn (failsIn_error (Renderer.failsIn_render _ _ _ _ hrender))
  | rendered _ hopen hfetch =>
      exact iff_of_false (not_interrupted_ok _) ((fetching_tells hopen hfetch).unbroken rfl)

/-- A quiet run ends well exactly if a session begins and the node replies whether
    there is a block. -/
theorem once_quiet_ok_iff {request : Request} {ended : Except Trouble Outcome}
    {added : List Call} {text : String}
    (h : Once (serving client zone) request [] ended added text) (hquiet : request.quiet = true)
    (outcome : Outcome) :
    ended = .ok outcome ↔ ∃ session block?,
      Opens (serving client zone) request [] (.ok session) [.spec, .genesis] ∧
        (client.block [.spec, .genesis] session.blockId).result = .ok block? ∧
        outcome = if block?.isSome then .present else .absent := by
  rcases (h.quiet_cases hquiet).2 with ⟨t, rfl, hopen⟩ |
    ⟨session, found, opening, fetching, hopen, hfetch, -, rfl⟩
  · -- Nothing begins, and beginning again would go the same way.
    refine iff_of_false (by simp only [reduceCtorEq, not_false_eq_true]) ?_
    rintro ⟨session, _, hopen', -⟩
    exact absurd (hopen.unique hopen').1 (by simp only [reduceCtorEq, not_false_eq_true])
  · obtain rfl : [.spec, .genesis] = opening := by cases hopen; rfl
    constructor
    · intro hended
      obtain ⟨block?, rfl, houtcome⟩ := map_eq_ok_iff.mp hended
      refine ⟨session, block?, hopen, ?_, houtcome.symm⟩
      cases hfetch with
      | absent hreply => exact hreply
      | bare hreply => exact hreply
      | attached hwith => exact absurd hwith Bool.false_ne_true
    · rintro ⟨session', block?, hopen', hblock, rfl⟩
      obtain rfl := Except.ok.inj (hopen.unique hopen').1
      have hfetch' : Fetches (serving client zone) session.blockId false ([] ++ [.spec, .genesis])
          (.ok block?) [.block session.blockId] := by
        rcases block? with _ | block
        · exact .absent hblock
        · exact .bare hblock fun hwith => absurd hwith Bool.false_ne_true
      rw [(hfetch.unique hfetch').1]
      rfl

/-- How far a run gets when it asks its node. -/
theorem reaches_iff {o : Options} {transport : Http.Transport} {request : Request}
    (hrequest : o.request = .ok request) (hclient : o.connection.client transport = .ok client)
    (client' : Client) (session : Session) :
    Reaches o zone transport client' session ↔ client' = client ∧
      Opens (serving client zone) request [] (.ok session) [.spec, .genesis] := by
  constructor
  · intro h
    -- The options make one request and one client, so they are these.
    obtain rfl := Except.ok.inj (h.connected.symm.trans hclient)
    obtain rfl := Except.ok.inj (h.requested.symm.trans hrequest)
    exact ⟨rfl, h.opened⟩
  · rintro ⟨rfl, hopen⟩
    have hsession : session.request = request := by
      cases hopen
      rfl
    exact ⟨hsession ▸ hrequest, hclient, hsession ▸ hopen⟩

/-- A quiet run does not fail for the want of a block. -/
theorem once_quiet_unabsent {request : Request} {ended : Except Trouble Outcome}
    {added : List Call} {text : String}
    (h : Once (serving client zone) request [] ended added text) (hquiet : request.quiet = true) :
    FailsIn (fun t => t.isAbsence = false) ended := by
  rcases (h.quiet_cases hquiet).2 with ⟨t, rfl, hopen⟩ |
    ⟨session, found, opening, fetching, hopen, hfetch, -, rfl⟩
  · exact failsIn_error ((opens_tells hopen).unabsent t rfl)
  · exact failsIn_map (fetching_tells hopen hfetch).unabsent

/-- A quiet run writes nothing and asks at most for the configuration, the genesis
    and one block. -/
theorem once_quiet_asks {request : Request} {ended : Except Trouble Outcome}
    {added : List Call} {text : String}
    (h : Once (serving client zone) request [] ended added text) (hquiet : request.quiet = true) :
    text = "" ∧ ∃ blockId, added <+: [.spec, .genesis, .block blockId] := by
  obtain ⟨htext, ⟨t, -, hopen⟩ | ⟨session, found, opening, fetching, hopen, hfetch, rfl, -⟩⟩ :=
    h.quiet_cases hquiet
  · refine ⟨htext, [], ?_⟩
    cases hopen with
    | spec => exact ⟨_, rfl⟩
    | genesis | timing | target => exact ⟨_, rfl⟩
  · refine ⟨htext, session.blockId, ?_⟩
    cases hopen
    cases hfetch with
    | failed | absent | bare => exact List.prefix_rfl
    | unattached hwith | attached hwith => exact absurd hwith Bool.false_ne_true

/-- A quiet run ends well without a text, whether there is a block or not. -/
theorem once_quiet_unrendered {request : Request} {ended : Except Trouble Outcome}
    {added : List Call} {text : String}
    (h : Once (serving client zone) request [] ended added text) (hquiet : request.quiet = true) :
    ended ≠ .ok .rendered := by
  intro hended
  obtain ⟨_, block?, -, -, hrendered⟩ := (once_quiet_ok_iff h hquiet _).mp hended
  rcases block? with _ | block
  · exact absurd (show Outcome.rendered = .absent from hrendered) (by decide)
  · exact absurd (show Outcome.rendered = .present from hrendered) (by decide)

/-- A quiet run says that there is a block exactly if the node offers one. -/
theorem once_quiet_present_iff {o : Options} {transport : Http.Transport} {request : Request}
    {ended : Except Trouble Outcome} {added : List Call} {text : String}
    (hrequest : o.request = .ok request) (hclient : o.connection.client transport = .ok client)
    (h : Once (serving client zone) request [] ended added text) (hquiet : request.quiet = true) :
    ended = .ok .present ↔ ∃ client session block, Reaches o zone transport client session ∧
      client.Offers [.spec, .genesis] session.blockId block := by
  rw [once_quiet_ok_iff h hquiet]
  constructor
  · rintro ⟨session, _ | block, hopen, hblock, hpresent⟩
    · exact absurd (show Outcome.present = .absent from hpresent) (by decide)
    · exact ⟨client, session, block, (reaches_iff hrequest hclient _ _).mpr ⟨rfl, hopen⟩,
        (client.block_some_iff _ _ block).mp hblock⟩
  · rintro ⟨client', session, block, hreached, hoffers⟩
    obtain ⟨rfl, hopen⟩ := (reaches_iff hrequest hclient _ _).mp hreached
    exact ⟨session, some block, hopen, (client'.block_some_iff _ _ block).mpr hoffers, rfl⟩

/-- A quiet run says that there is no block exactly if the node denies that there is. -/
theorem once_quiet_absent_iff {o : Options} {transport : Http.Transport} {request : Request}
    {ended : Except Trouble Outcome} {added : List Call} {text : String}
    (hrequest : o.request = .ok request) (hclient : o.connection.client transport = .ok client)
    (h : Once (serving client zone) request [] ended added text) (hquiet : request.quiet = true) :
    ended = .ok .absent ↔ ∃ client session, Reaches o zone transport client session ∧
      client.Denies [.spec, .genesis] session.blockId := by
  rw [once_quiet_ok_iff h hquiet]
  constructor
  · rintro ⟨session, _ | block, hopen, hblock, habsent⟩
    · exact ⟨client, session, (reaches_iff hrequest hclient _ _).mpr ⟨rfl, hopen⟩,
        (client.block_none_iff _ _).mp hblock⟩
    · exact absurd (show Outcome.absent = .present from habsent) (by decide)
  · rintro ⟨client', session, hreached, hdenies⟩
    obtain ⟨rfl, hopen⟩ := (reaches_iff hrequest hclient _ _).mp hreached
    exact ⟨session, none, hopen, (client'.block_none_iff _ _).mpr hdenies, rfl⟩

/-- A run does not get far if there is no response to any request. -/
theorem not_reaches_of_error {o : Options} {transport : Http.Transport} {session : Session}
    {fault : Http.Fault} (h : ∀ request, transport [] request = .error fault) :
    ¬Reaches o zone transport client session := by
  intro hreached
  have hopened := hreached.opened
  generalize hended : Except.ok session = ended at hopened
  cases hopened with
  | opened hspec =>
      obtain ⟨request, response, hcame⟩ := Client.came_of_record_ok hspec
      rw [transport_of_connected hreached.connected] at hcame
      exact absurd ((h request).symm.trans hcame) (by simp only [reduceCtorEq, not_false_eq_true])
  | _ => exact absurd hended (by simp only [reduceCtorEq, not_false_eq_true])

/-- Options that ask for the head and nothing else. -/
def plain : Options :=
  { Options.initial ⟨Settings.defaultUrl, Binary64.ofRatio false 30 1⟩ with blockId := some "head" }

/-- Options that ask for the head as JSON. -/
def plainJson : Options := { plain with json := true }

/-- Options that ask whether there is a head. -/
def plainQuiet : Options := { plain with quiet := true }

/-- The bytes of a datum whose JSON text is ASCII. -/
def written (d : Datum) : Bytes := d.write.map fun c => UInt8.ofNat c.toNat

/-- A node that knows its configuration and its genesis, and replies the same to
    everything that is asked after that. -/
def replying (status : Nat) (answer : Datum) : Http.Transport := fun before _ =>
  .ok (match before.length with
    | 0 => ⟨200, written (.record [("data", .record [("SECONDS_PER_SLOT", .text "12"),
        ("SLOTS_PER_EPOCH", .text "32")])]), none⟩
    | 1 => ⟨200, written (.record [("data", .record [("genesis_time", .text "0")])]), none⟩
    | _ => ⟨status, written answer, none⟩)

/-- A reply with a blank block of the first fork. -/
def blankReply : Datum :=
  .record [("version", .text "phase0"),
    ("data", Fork.phase0.signedBlock.present (Schema.blankBlock 7))]

/-- Every response comes whole, so no request is interrupted. -/
theorem not_breaksOff_replying (status : Nat) (answer : Datum) (requests : List Http.Request) :
    ¬Http.BreaksOff (replying status answer) requests := by
  rintro ⟨before, request, fault, -, hcut, -⟩
  have hwhole : Http.cut (replying status answer before request) = none := by
    unfold replying Http.cut
    simp only []
    split <;> rfl
  exact absurd (hwhole.symm.trans hcut) (by simp only [reduceCtorEq, not_false_eq_true])

/-- What the status of a quiet run tells. Nothing is written. The status is success
    if the node has a block at the identifier that the options name, or if the last
    request was interrupted, and it is absence if the node has none there; in every
    other case it is neither. No more is asked than the configuration, the genesis
    and the block. -/
theorem quiet_status (o : Options) (zone : Zone) (transport : Http.Transport)
    (hquiet : o.quiet = true) :
    let r := run o zone transport
    r.output = "" ∧
      (r.status = .ok success ↔ (∃ client session block, Reaches o zone transport client session ∧
          client.Offers [.spec, .genesis] session.blockId block) ∨
        Http.BreaksOff transport r.requests) ∧
      (r.status = .ok absence ↔ ∃ client session, Reaches o zone transport client session ∧
        client.Denies [.spec, .genesis] session.blockId) ∧
      (r.requests = [] ∨ ∃ client blockId calls, o.connection.client transport = .ok client ∧
        calls <+: [.spec, .genesis, .block blockId] ∧ r.requests = client.requests calls) := by
  intro r
  rcases run_cases o zone transport (Or.inl hquiet) with
    ⟨t, hordinary, hstatus, houtput, hrequests, hreaches, -⟩ |
    ⟨request, client, ended, added, hrequest, hclient, honce, hstatus, hrequests⟩
  · -- The run ends before it asks anything, in a trouble that has neither status.
    obtain ⟨hsuccess, habsence⟩ := statusOf_ordinary hordinary
    refine ⟨houtput, ?_, ?_, Or.inl hrequests⟩
    · rw [hstatus, hrequests]
      refine iff_of_false hsuccess ?_
      rintro (⟨client, session, _, hreached, -⟩ | hbreaks)
      · exact hreaches client session hreached
      · exact Http.not_breaksOff_nil transport hbreaks
    · rw [hstatus]
      refine iff_of_false habsence ?_
      rintro ⟨client, session, hreached, -⟩
      exact hreaches client session hreached
  · have hq : request.quiet = true := (flags_of_requested hrequest).2.2.2.1.trans hquiet
    obtain ⟨houtput, blockId, hadded⟩ := once_quiet_asks honce hq
    refine ⟨houtput, ?_, ?_, Or.inr ⟨client, blockId, added, hclient, hadded, hrequests⟩⟩
    · rw [hstatus, hrequests, statusOf_success_iff, once_interrupted honce,
        transport_of_connected hclient, once_quiet_present_iff hrequest hclient honce hq]
      exact or_iff_right (once_quiet_unrendered honce hq)
    · rw [hstatus, statusOf_absence_iff, once_quiet_absent_iff hrequest hclient honce hq]
      refine or_iff_left ?_
      rintro ⟨t, hended, habsence⟩
      rw [once_quiet_unabsent honce hq t hended] at habsence
      exact Bool.false_ne_true habsence

/-- A run about a block that the node denies to have. -/
theorem quiet_status_denied :
    let r := run plainQuiet .universal (replying 404 .null)
    plainQuiet.quiet = true ∧ r.output = "" ∧ r.status = .ok absence ∧
      ∃ client session, Reaches plainQuiet .universal (replying 404 .null) client session ∧
        client.Denies [.spec, .genesis] session.blockId := by
  have hstatus : (run plainQuiet .universal (replying 404 .null)).status = .ok absence :=
    ok_of_toOption (by decide +kernel)
  have htells := quiet_status plainQuiet .universal (replying 404 .null) rfl
  exact ⟨rfl, htells.1, hstatus, htells.2.2.1.mp hstatus⟩

/-- An interruption of the first request passes for a block that is there. -/
theorem quiet_status_interrupted :
    let transport : Http.Transport := fun _ _ => .error .interrupted
    plainQuiet.quiet = true ∧ (run plainQuiet .universal transport).status = .ok success ∧
      ¬∃ client session block, Reaches plainQuiet .universal transport client session ∧
        client.Offers [.spec, .genesis] session.blockId block := by
  intro transport
  refine ⟨rfl, ok_of_toOption (by decide +kernel), ?_⟩
  rintro ⟨client, session, _, hreached, -⟩
  exact not_reaches_of_error (fun _ => rfl) hreached

/-- A block is fetched and rendered with the options' flags, and this is the text. -/
def Shows (o : Options) (zone : Zone) (transport : Http.Transport) (text : String) : Prop :=
  ∃ client session block fetching, Reaches o zone transport client session ∧
    Fetches (serving client zone) session.blockId true [.spec, .genesis] (.ok (some block))
      fetching ∧
    (Renderer.mk zone session.timing o.verbose).render block (Mode.ofFlags o.json o.ssz) = .ok text

/-- How a run without a stream that is not quiet can fail: at which step, and with
    which failure. -/
inductive Stumbles (o : Options) (zone : Zone) (transport : Http.Transport) : Failure → Prop
  /-- The options make no request. -/
  | usage {fault : UsageFault} (h : o.request = .error fault) :
      Stumbles o zone transport (.usage fault)
  /-- There is no timing, or the time names no slot. -/
  | opening {request : Request} {client : Client} {f : Failure} {opening : List Call}
      (hrequest : o.request = .ok request) (hclient : o.connection.client transport = .ok client)
      (h : Opens (serving client zone) request [] (.error (.failure f)) opening) :
      Stumbles o zone transport f
  /-- The block or its sidecars cannot be fetched. -/
  | fetching {client : Client} {session : Session} {f : Failure} {fetching : List Call}
      (hreached : Reaches o zone transport client session)
      (h : Fetches (serving client zone) session.blockId true [.spec, .genesis]
        (.error (.failure f)) fetching) : Stumbles o zone transport f
  /-- The block cannot be rendered. -/
  | rendering {client : Client} {session : Session} {block : Block} {f : Failure}
      {fetching : List Call} (hreached : Reaches o zone transport client session)
      (hfetch : Fetches (serving client zone) session.blockId true [.spec, .genesis]
        (.ok (some block)) fetching)
      (h : (Renderer.mk zone session.timing o.verbose).render block (Mode.ofFlags o.json o.ssz)
        = .error (.failure f)) : Stumbles o zone transport f

/-- What is rendered in a session that a run reaches is rendered with the options'
    flags. -/
theorem render_of_reaches {o : Options} {transport : Http.Transport} {session : Session}
    (h : Reaches o zone transport client session) (block : Block) :
    (session.renderer zone).render block session.mode =
      (Renderer.mk zone session.timing o.verbose).render block (Mode.ofFlags o.json o.ssz) := by
  obtain ⟨hjson, hssz, -, -, hverbose⟩ := flags_of_requested h.requested
  rw [← hjson, ← hssz, ← hverbose]
  rfl

/-- What a run without a stream that is not quiet leaves behind. Either nothing is
    written, or exactly the text of the block that was fetched, and then the status
    is success. Success without a text is an interruption, absence is the reply that
    there is no block, and failure is that of a step before anything is written. -/
theorem once_output (o : Options) (zone : Zone) (transport : Http.Transport)
    (hquiet : o.quiet = false) (hstream : o.stream = false) :
    let r := run o zone transport
    (r.output = "" ∨ r.status = .ok success ∧ Shows o zone transport r.output) ∧
      (r.status = .ok success → Shows o zone transport r.output ∨
        Http.BreaksOff transport r.requests) ∧
      (r.status = .ok absence → r.output = "" ∧ ∃ client session,
        Reaches o zone transport client session ∧
          client.Denies [.spec, .genesis] session.blockId) ∧
      (r.status = .ok failure → r.output = "" ∧ ∃ f, Stumbles o zone transport f) := by
  intro r
  rcases run_cases o zone transport (Or.inr hstream) with
    ⟨t, hordinary, hstatus, houtput, hrequests, hreaches, husage⟩ |
    ⟨request, client, ended, added, hrequest, hclient, honce, hstatus, hrequests⟩
  · -- The run ends before it asks anything.
    obtain ⟨hsuccess, habsence⟩ := statusOf_ordinary hordinary
    rw [hstatus]
    refine ⟨Or.inl houtput, fun h => absurd h hsuccess, fun h => absurd h habsence, fun h => ?_⟩
    refine ⟨houtput, ?_⟩
    obtain ⟨f, hf, -⟩ := (statusOf_failure_iff _).mp h
    obtain ⟨fault, hfault, rfl⟩ := husage f (Except.error.inj hf)
    exact ⟨_, .usage hfault⟩
  · have hq : request.quiet = false := (flags_of_requested hrequest).2.2.2.1.trans hquiet
    have hbreaks := once_interrupted honce
    rw [transport_of_connected hclient] at hbreaks
    rw [hstatus, hrequests]
    -- What is fetched is fetched in a session that is reached.
    have hreached {session : Session} {opening fetching : List Call}
        {found : Except Trouble (Option Block)}
        (hopen : Opens (serving client zone) request [] (.ok session) opening)
        (hfetch : Fetches (serving client zone) session.blockId (!request.quiet) ([] ++ opening)
          found fetching) :
        Reaches o zone transport client session ∧
          Fetches (serving client zone) session.blockId true [.spec, .genesis] found fetching := by
      obtain rfl : opening = [.spec, .genesis] := by cases hopen; rfl
      rw [hq] at hfetch
      exact ⟨(reaches_iff hrequest hclient _ _).mpr ⟨rfl, hopen⟩, hfetch⟩
    generalize r.output = text at honce
    -- An end in a trouble that is none of absence is told by its status alone.
    have hfails {t : Trouble} (hended : ended = .error t) (hunabsent : t.isAbsence = false)
        (hstumbles : ∀ f, t = .failure f → Stumbles o zone transport f) :
        (statusOf ended = .ok success → Shows o zone transport text ∨
          Http.BreaksOff transport (client.requests added)) ∧
        (statusOf ended = .ok absence → "" = "" ∧ ∃ client session,
          Reaches o zone transport client session ∧
            client.Denies [.spec, .genesis] session.blockId) ∧
        (statusOf ended = .ok failure → "" = "" ∧ ∃ f, Stumbles o zone transport f) := by
      subst hended
      obtain ⟨hsuccess, habsence, hfailure⟩ := tell_of_error (fun h => Or.inr (hbreaks.mp h))
        (fun h => absurd (hunabsent.symm.trans h) Bool.false_ne_true) hstumbles
      exact ⟨hsuccess, habsence, fun h => ⟨rfl, hfailure h⟩⟩
    cases honce with
    | unopened hopen =>
        refine ⟨Or.inl rfl, hfails rfl ((opens_tells hopen).unabsent _ rfl) fun f hf => ?_⟩
        exact Stumbles.opening hrequest hclient (hf ▸ hopen)
    | unfetched hopen hfetch =>
        have hunabsent := (fetching_tells hopen hfetch).unabsent _ rfl
        obtain ⟨hreach, hfetch'⟩ := hreached hopen hfetch
        refine ⟨Or.inl rfl, hfails rfl hunabsent fun f hf => ?_⟩
        exact Stumbles.fetching hreach (hf ▸ hfetch')
    | told hquiet' => exact absurd (hq.symm.trans hquiet') Bool.false_ne_true
    | missing _ hopen hfetch =>
        obtain ⟨hreach, hfetch'⟩ := hreached hopen hfetch
        cases hfetch' with
        | absent hnone =>
            have hnothing : "" = "" ∧ ∃ client session, Reaches o zone transport client session ∧
                client.Denies [.spec, .genesis] session.blockId :=
              ⟨rfl, client, _, hreach, (client.block_none_iff _ _).mp hnone⟩
            refine ⟨Or.inl rfl, fun h => ?_, fun _ => hnothing, fun h => ?_⟩
            · exact absurd (show absence = success from Except.ok.inj h) (by decide)
            · exact absurd (show absence = failure from Except.ok.inj h) (by decide)
    | unrendered _ hopen hfetch hrender =>
        obtain ⟨hreach, hfetch'⟩ := hreached hopen hfetch
        have hunabsent := (Renderer.failsIn_render _ _ _ _ hrender).unabsent
        rw [serving, render_of_reaches hreach] at hrender
        refine ⟨Or.inl rfl, hfails rfl hunabsent fun f hf => ?_⟩
        exact Stumbles.rendering hreach hfetch' (hf ▸ hrender)
    | rendered _ hopen hfetch hrender =>
        obtain ⟨hreach, hfetch'⟩ := hreached hopen hfetch
        rw [serving, render_of_reaches hreach] at hrender
        have hshows : Shows o zone transport text := ⟨client, _, _, _, hreach, hfetch', hrender⟩
        refine ⟨Or.inr ⟨rfl, hshows⟩, fun _ => Or.inl hshows, fun h => ?_, fun h => ?_⟩
        · exact absurd (Except.ok.inj h) (by decide)
        · exact absurd (Except.ok.inj h) (by decide)

/-- A run that shows a block. -/
theorem once_output_shown :
    let r := run plainJson .universal (replying 200 blankReply)
    plainJson.quiet = false ∧ plainJson.stream = false ∧ r.status = .ok success ∧
      Shows plainJson .universal (replying 200 blankReply) r.output := by
  have hstatus : (run plainJson .universal (replying 200 blankReply)).status = .ok success :=
    ok_of_toOption (by decide +kernel)
  have htells := once_output plainJson .universal (replying 200 blankReply) rfl rfl
  exact ⟨rfl, rfl, hstatus, (htells.2.1 hstatus).resolve_right (not_breaksOff_replying _ _ _)⟩

end Command

end Beacon
