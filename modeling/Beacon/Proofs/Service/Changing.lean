import Beacon.Proofs.Service.Streaming

/-!
# Work against a Changing Node

What work comes to when nothing is known about the node. It may answer the same
question differently every time, and it may have the service stopped while the
service waits for an answer.

Then there is no description of work apart from the state it is begun in, and
what is left is to carry it out. Every step of a service has an equation for
that. Asking the node is the step the others are built around: the reply decides
how the step ends, and all that the state learns of it is `State.asked`.

Beginning a session and fetching a block ask several things in a row, and each
may fail. `Opens` and `Fetches` list all the ways in which that can go, each
with what the node replied and with what was asked of it until then. They are
the only places where these sequences are taken apart. A claim about a session
or a fetch is a case analysis on them.

## Main definitions

* `Trouble.reworded`: What becomes of a trouble when failures to fetch are turned
  into other failures.
* `State.asked`: A state after a question.
* `Within`: Work whose state before and after are related.
* `Asks`: What was asked between two states between which nothing was written.
* `Opens`: How beginning a session can go.
* `Fetches`: How fetching a block can go.

## Theorems

* `carry_ask`: What a question comes to.
* `carry_onFetchFault`: A failure to fetch is reworded, and nothing else happens.
* `within_bind`, `within_fetch`: Steps that are put together in a relation.
* `carry_session`: Beginning a session goes in one of the ways that are listed.
* `carry_fetch`: Fetching a block goes in one of the ways that are listed.
* `Opens.unique`, `Fetches.unique`: The replies of the node decide which way.
-/

namespace Beacon

/-- What becomes of a trouble when failures to fetch are turned into others. -/
def Trouble.reworded (wrap : FetchFault → Failure) : Trouble → Trouble
  | .failure f => .failure (Service.rewrapped wrap f)
  | .breakdown b => .breakdown b

namespace Service

variable {α : Type}

/-! ### Carrying out the steps -/

theorem carry_pure (a : α) (s : State) : carry (pure a) s = (.ok a, s) := rfl

theorem carry_settle (result : Except Trouble α) (s : State) :
    carry (settle result) s = (result, s) := by
  cases result <;> rfl

theorem carry_modify (f : State → State) (s : State) :
    carry (modify f : Act Unit) s = (.ok (), f s) := rfl

theorem carry_get (next : State → Act α) (s : State) :
    carry (get >>= next) s = carry (next s) s := rfl

/-- A state after a question and its reply. -/
def State.asked (s : State) (call : Call) (reply : Reply α) : State :=
  { s with
    running := s.running && !reply.stops
    calls := s.calls ++ [call]
    logs := s.logs ++ reply.logs }

/-- A question ends as the reply has it. -/
theorem carry_ask (call : Call) (answer : List Call → Reply α) (s : State) :
    carry (ask call answer) s = ((answer s.calls).result, s.asked call (answer s.calls)) := by
  rw [ask, carry_get]
  simp only []
  rw [carry_bind, note, carry_modify]
  simp only []
  rw [carry_bind, say, carry_modify]
  unfold State.asked
  -- A reply that stops the service takes the flag down before its result is looked at.
  cases (answer s.calls).stops with
  | false =>
      simp only [Bool.false_eq_true, if_false, carry_settle, Bool.not_false, Bool.and_true]
  | true =>
      simp only [if_true, carry_bind, stop, setRunning, carry_modify, carry_settle, Bool.not_true,
        Bool.and_false]

/-- A failure to fetch is reworded, and nothing else happens. -/
theorem carry_onFetchFault (act : Act α) (wrap : FetchFault → Failure) (s : State) :
    carry (onFetchFault act wrap) s
      = ((carry act s).1.mapError (Trouble.reworded wrap), (carry act s).2) := by
  rw [onFetchFault, carry_tryCatch]
  rcases carry act s with ⟨t | a, s'⟩
  · rcases t with f | b
    · cases f <;> rfl
    · rfl
  · rfl

/-! ### Work within a relation -/

/-- A relation between states that steps may be put together in. -/
structure Chains (R : State → State → Prop) : Prop where
  refl : ∀ s, R s s
  trans : ∀ {s t u}, R s t → R t u → R s u

/-- However work ends, the state it was begun in is related to the state it ends in. -/
def Within (R : State → State → Prop) (act : Act α) : Prop := ∀ s : State, R s (carry act s).2

variable {β : Type} {R : State → State → Prop}

theorem within_settle (hR : Chains R) (result : Except Trouble α) : Within R (settle result) := by
  intro s
  rw [carry_settle]
  exact hR.refl s

theorem within_bind (hR : Chains R) {act : Act α} {next : α → Act β} (hact : Within R act)
    (hnext : ∀ a, Within R (next a)) : Within R (act >>= next) := by
  intro s
  have hs := hact s
  rw [carry_bind]
  rcases hcarry : carry act s with ⟨t | a, s'⟩ <;> rw [hcarry] at hs
  · exact hs
  · exact hR.trans hs (hnext a s')

theorem within_onFetchFault {act : Act α} {wrap : FetchFault → Failure} (hact : Within R act) :
    Within R (onFetchFault act wrap) := by
  intro s
  rw [carry_onFetchFault]
  exact hact s

/-- Fetching a block keeps to what the two questions keep to. -/
theorem within_fetch {service : Service} {blockId : Text} (hR : Chains R)
    (hblock : Within R (ask (.block blockId) (service.node.block · blockId)))
    (hsidecars : Within R (ask (.sidecars blockId) (service.node.sidecars · blockId)))
    (withSidecars : Bool) : Within R (service.fetch blockId withSidecars) := by
  unfold fetch
  refine within_bind hR hblock fun block? => ?_
  rcases block? with _ | block
  · exact within_settle hR (.ok none)
  · cases block with
    | phase0 | altair | bellatrix | capella => exact within_settle hR (.ok _)
    | deneb signed held =>
        cases withSidecars with
        | false => exact within_settle hR (.ok _)
        | true =>
            exact within_bind hR (within_onFetchFault hsidecars) fun _ => within_settle hR (.ok _)

/-- Between two states these things are asked, and nothing is written. -/
structure Asks (s : State) (added : List Call) (s' : State) : Prop where
  calls : s'.calls = s.calls ++ added
  output : s'.output = s.output
  rendered : s'.rendered = s.rendered

theorem Asks.refl (s : State) : Asks s [] s := ⟨(List.append_nil _).symm, rfl, rfl⟩

theorem Asks.trans {s t u : State} {first second : List Call} (hst : Asks s first t)
    (htu : Asks t second u) : Asks s (first ++ second) u where
  calls := by rw [htu.calls, hst.calls, List.append_assoc]
  output := htu.output.trans hst.output
  rendered := htu.rendered.trans hst.rendered

theorem asks_asked (s : State) (call : Call) (reply : Reply α) :
    Asks s [call] (s.asked call reply) := ⟨rfl, rfl, rfl⟩

theorem asks_said (s : State) (records : List Log.Record) :
    Asks s [] { s with logs := s.logs ++ records } := ⟨(List.append_nil _).symm, rfl, rfl⟩

/-! ### Beginning a session -/

/-- The failure that some information about the network could not be fetched. -/
def untimed (information : String) (fault : FetchFault) : Failure :=
  .config (.unreachable information fault.message)

/-- How beginning a session can go after some questions: how it ends, and what
    is asked on the way. -/
inductive Opens (service : Service) (request : Request) (asked : List Call) :
    Except Trouble Session → List Call → Prop
  /-- There is no configuration. -/
  | spec {t : Trouble} (h : (service.node.spec asked).result = .error t) :
      Opens service request asked (.error (t.reworded (untimed "configuration"))) [.spec]
  /-- There is no genesis. -/
  | genesis {spec : Datum} {t : Trouble} (hspec : (service.node.spec asked).result = .ok spec)
      (h : (service.node.genesis (asked ++ [.spec])).result = .error t) :
      Opens service request asked (.error (t.reworded (untimed "genesis"))) [.spec, .genesis]
  /-- The two make no timing. -/
  | timing {spec genesis : Datum} {fault : TimingFault}
      (hspec : (service.node.spec asked).result = .ok spec)
      (hgenesis : (service.node.genesis (asked ++ [.spec])).result = .ok genesis)
      (h : Timing.ofNode spec genesis = .error fault) :
      Opens service request asked (.error fault.trouble) [.spec, .genesis]
  /-- The request's target names no block. -/
  | target {spec genesis : Datum} {timing : Timing} {t : Trouble}
      (hspec : (service.node.spec asked).result = .ok spec)
      (hgenesis : (service.node.genesis (asked ++ [.spec])).result = .ok genesis)
      (htiming : Timing.ofNode spec genesis = .ok timing)
      (h : resolved service.zone timing request.target = .error t) :
      Opens service request asked (.error t) [.spec, .genesis]
  /-- There is a session. -/
  | opened {spec genesis : Datum} {timing : Timing} {blockId : Text}
      (hspec : (service.node.spec asked).result = .ok spec)
      (hgenesis : (service.node.genesis (asked ++ [.spec])).result = .ok genesis)
      (htiming : Timing.ofNode spec genesis = .ok timing)
      (htarget : resolved service.zone timing request.target = .ok blockId) :
      Opens service request asked (.ok ⟨request, timing, blockId⟩) [.spec, .genesis]

/-- The replies of the node decide how beginning a session goes. -/
theorem Opens.unique {service : Service} {request : Request} {asked : List Call}
    {ended ended' : Except Trouble Session} {added added' : List Call}
    (h : Opens service request asked ended added)
    (h' : Opens service request asked ended' added') : ended = ended' ∧ added = added' := by
  cases h <;> cases h' <;> grind

theorem carry_identifier (service : Service) (timing : Timing) (target : Target) (s : State) :
    ∃ s', carry (service.identifier timing target) s
      = (resolved service.zone timing target, s') ∧ Asks s [] s' := by
  cases target with
  | identifier blockId => exact ⟨s, rfl, .refl s⟩
  | moment expression =>
      rw [identifier, resolved]
      cases timing.resolve service.zone expression with
      | error fault => exact ⟨s, rfl, .refl s⟩
      | ok resolution => exact ⟨_, rfl, asks_said s resolution.log⟩

/-- Beginning a session goes in one of the ways that are listed. -/
theorem carry_session (service : Service) (request : Request) (s : State) :
    ∃ ended added s', carry (service.session request) s = (ended, s') ∧ Asks s added s' ∧
      Opens service request s.calls ended added := by
  unfold session Service.timing
  rw [carry_bind, carry_bind, carry_onFetchFault, carry_ask]
  cases hspec : (service.node.spec s.calls).result with
  | error t => exact ⟨_, _, _, rfl, asks_asked s .spec _, .spec hspec⟩
  | ok spec =>
      -- From here on the configuration has been asked for, and all else comes after.
      let s₁ := s.asked .spec (service.node.spec s.calls)
      have hcalls : s₁.calls = s.calls ++ [.spec] := rfl
      simp only [Except.mapError]
      rw [carry_bind, carry_onFetchFault, carry_ask, hcalls]
      have hasks := (asks_asked s .spec (service.node.spec s.calls)).trans
        (asks_asked s₁ .genesis (service.node.genesis (s.calls ++ [.spec])))
      cases hgenesis : (service.node.genesis (s.calls ++ [.spec])).result with
      | error t => exact ⟨_, _, _, rfl, hasks, .genesis hspec hgenesis⟩
      | ok genesis =>
          simp only [Except.mapError]
          cases htiming : Timing.ofNode spec genesis with
          | error fault => exact ⟨_, _, _, rfl, hasks, .timing hspec hgenesis htiming⟩
          | ok timing =>
              simp only [carry_pure]
              obtain ⟨s', hs', hsaid⟩ := carry_identifier service timing request.target
                (s₁.asked .genesis (service.node.genesis (s.calls ++ [.spec])))
              rw [carry_bind, hs']
              have hasks := hasks.trans hsaid
              cases htarget : resolved service.zone timing request.target with
              | error t =>
                  exact ⟨_, _, _, rfl, hasks, .target hspec hgenesis htiming htarget⟩
              | ok blockId =>
                  exact ⟨_, _, _, rfl, hasks, .opened hspec hgenesis htiming htarget⟩

/-! ### Fetching a block -/

/-- The failure that the sidecars of a block could not be fetched. -/
def unattached (fault : FetchFault) : Failure := .fetch (.blobs fault.message)

/-- How fetching a block can go after some questions: how it ends, and what is
    asked on the way. -/
inductive Fetches (service : Service) (blockId : Text) (withSidecars : Bool) (asked : List Call) :
    Except Trouble (Option Block) → List Call → Prop
  /-- The block cannot be had. -/
  | failed {t : Trouble} (h : (service.node.block asked blockId).result = .error t) :
      Fetches service blockId withSidecars asked (.error t) [.block blockId]
  /-- There is no block. -/
  | absent (h : (service.node.block asked blockId).result = .ok none) :
      Fetches service blockId withSidecars asked (.ok none) [.block blockId]
  /-- The block is of a fork without sidecars, or they are not wanted. -/
  | bare {block : Block} (h : (service.node.block asked blockId).result = .ok (some block))
      (hbare : withSidecars = true → ∀ signed held, block ≠ .deneb signed held) :
      Fetches service blockId withSidecars asked (.ok (some block)) [.block blockId]
  /-- The sidecars cannot be had. -/
  | unattached {signed : Value} {held : List Value} {t : Trouble} (hwith : withSidecars = true)
      (hblock : (service.node.block asked blockId).result = .ok (some (.deneb signed held)))
      (h : (service.node.sidecars (asked ++ [.block blockId]) blockId).result = .error t) :
      Fetches service blockId withSidecars asked (.error (t.reworded Service.unattached))
        [.block blockId, .sidecars blockId]
  /-- The sidecars are attached to the block. -/
  | attached {signed : Value} {held sidecars : List Value} (hwith : withSidecars = true)
      (hblock : (service.node.block asked blockId).result = .ok (some (.deneb signed held)))
      (h : (service.node.sidecars (asked ++ [.block blockId]) blockId).result = .ok sidecars) :
      Fetches service blockId withSidecars asked (.ok (some (.deneb signed sidecars)))
        [.block blockId, .sidecars blockId]

/-- The replies of the node decide how fetching a block goes. -/
theorem Fetches.unique {service : Service} {blockId : Text} {withSidecars : Bool}
    {asked : List Call} {ended ended' : Except Trouble (Option Block)} {added added' : List Call}
    (h : Fetches service blockId withSidecars asked ended added)
    (h' : Fetches service blockId withSidecars asked ended' added') :
    ended = ended' ∧ added = added' := by
  cases h <;> cases h' <;> grind

/-- Fetching a block goes in one of the ways that are listed. -/
theorem carry_fetch (service : Service) (blockId : Text) (withSidecars : Bool) (s : State) :
    ∃ ended added s', carry (service.fetch blockId withSidecars) s = (ended, s') ∧
      Asks s added s' ∧ Fetches service blockId withSidecars s.calls ended added := by
  let s₁ := s.asked (.block blockId) (service.node.block s.calls blockId)
  have hcalls : s₁.calls = s.calls ++ [.block blockId] := rfl
  have hasks : Asks s [.block blockId] s₁ := asks_asked s _ _
  unfold fetch
  rw [carry_bind, carry_ask]
  rcases hblock : (service.node.block s.calls blockId).result with t | _ | block
  · exact ⟨_, _, _, rfl, hasks, .failed hblock⟩
  · exact ⟨_, _, _, rfl, hasks, .absent hblock⟩
  · cases block with
    | phase0 | altair | bellatrix | capella =>
        exact ⟨_, _, _, rfl, hasks, .bare hblock fun _ _ _ =>
          by simp only [ne_eq, reduceCtorEq, not_false_eq_true]⟩
    | deneb signed held =>
        cases withSidecars with
        | false =>
            exact ⟨_, _, _, rfl, hasks, .bare hblock fun h => absurd h Bool.false_ne_true⟩
        | true =>
            -- The sidecars are asked for under the identifier of the block, which by
            -- then may name another one.
            simp only [if_true]
            rw [carry_bind, carry_onFetchFault, carry_ask, hcalls]
            have hasks := hasks.trans (asks_asked s₁ (.sidecars blockId)
              (service.node.sidecars (s.calls ++ [.block blockId]) blockId))
            cases hsidecars :
              (service.node.sidecars (s.calls ++ [.block blockId]) blockId).result with
            | error t => exact ⟨_, _, _, rfl, hasks, .unattached rfl hblock hsidecars⟩
            | ok sidecars => exact ⟨_, _, _, rfl, hasks, .attached rfl hblock hsidecars⟩

end Service

end Beacon
