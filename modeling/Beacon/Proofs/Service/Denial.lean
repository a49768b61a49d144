import Beacon.Proofs.Failure.Ordinary
import Beacon.Service.Stream

/-!
# Who Says that There Is No Block

When a service fails for want of a block, its node has said that there is none.

The failure that there is no block is one of its own kind, with a status of its own, and
nothing else may pass for it. A node's replies and feeds never fail with it (`Candid`).
What a service makes of them fails with it only where a block was asked for and the reply
was that there is none (`Denied`). To show it, every piece of work is shown to add to the
calls and to have such a reply among them when it fails so (`Blames`). Work may be put
together from pieces: what was denied once stays denied, because calls are never taken
back.

## Main definitions

* `Service.Denied`: Among some calls is one for a block that there is not.
* `Node.Candid`: No reply of a node fails for want of a block.
* `Service.Blames`: Work that fails for want of a block was denied one.

## Theorems

* `Service.blames_bind`, `Service.blames_catch`: How work is put together.
* `Service.blames_handle`: Handling an event.
* `Service.blames_follow`: Following a feed.
* `Service.blames_run`, `Service.denied_of_absent`: A whole run.
-/

namespace Beacon

open Outcome

/-- No reply of a node, and no feed, fails for want of a block. -/
structure Node.Candid (node : Node) : Prop where
  spec : ∀ asked, FailsIn (fun t => t.isAbsence = false) (node.spec asked).result
  genesis : ∀ asked, FailsIn (fun t => t.isAbsence = false) (node.genesis asked).result
  block : ∀ asked blockId,
    FailsIn (fun t => t.isAbsence = false) (node.block asked blockId).result
  sidecars : ∀ asked blockId,
    FailsIn (fun t => t.isAbsence = false) (node.sidecars asked blockId).result
  events : ∀ asked topics t, Feed.Item.trouble t ∈ node.events asked topics →
    t.isAbsence = false

namespace Service

variable {α β : Type} {node : Node} {service : Service}

/-- Among some calls is one for a block, and the reply to it is that there is none. -/
def Denied (node : Node) (calls : List Call) : Prop :=
  ∃ before blockId, before ++ [.block blockId] <+: calls ∧
    (node.block before blockId).result = .ok none

/-- Begun in a state, work takes no call back, and if it fails for want of a block, one
    was denied. -/
structure Blames (node : Node) (act : Act α) (s : State) : Prop where
  calls : s.calls <+: (carry act s).2.calls
  denied : ∀ t, (carry act s).1 = .error t → t.isAbsence = true →
    Denied node (carry act s).2.calls

theorem Denied.mono {calls more : List Call} (h : Denied node calls) (hmore : calls <+: more) :
    Denied node more := by
  obtain ⟨before, blockId, hcalls, hnone⟩ := h
  exact ⟨before, blockId, hcalls.trans hmore, hnone⟩

/-! ### Putting work together -/

theorem blames_settle {result : Except Trouble α} {s : State}
    (h : ∀ t, result = .error t → t.isAbsence = true → Denied node s.calls) :
    Blames node (settle result) s := by
  constructor
  · simp only [carry_settle, List.prefix_rfl]
  · rw [carry_settle]
    exact h

theorem blames_pure (a : α) (s : State) : Blames node (pure a) s := by
  have hok : ∀ t, (.ok a : Except Trouble α) = .error t → t.isAbsence = true →
      Denied node s.calls := by
    intro t ht
    exact absurd ht (by simp only [reduceCtorEq, not_false_eq_true])
  exact blames_settle hok

theorem blames_throw {t : Trouble} {s : State}
    (h : t.isAbsence = true → Denied node s.calls) : Blames node (throw t : Act α) s := by
  have herror : ∀ t', (.error t : Except Trouble α) = .error t' → t'.isAbsence = true →
      Denied node s.calls := by
    intro t' ht
    rw [← Except.error.inj ht]
    exact h
  exact blames_settle herror

/-- A trouble that is none for want of a block puts the blame on nobody. -/
theorem blames_unabsent {result : Except Trouble α}
    (h : FailsIn (fun t => t.isAbsence = false) result) (s : State) :
    Blames node (settle result) s :=
  blames_settle fun t ht habsence => absurd habsence (Bool.eq_false_iff.mp (h t ht))

/-- A change that takes no call back cannot fail. -/
theorem blames_modify {f : State → State} {s : State} (hf : s.calls <+: (f s).calls) :
    Blames node (modify f : Act Unit) s := by
  constructor
  · rw [carry_modify]
    exact hf
  · rw [carry_modify]
    intro t ht
    exact absurd ht (by simp only [reduceCtorEq, not_false_eq_true])

theorem blames_say (records : List Log.Record) (s : State) : Blames node (say records) s :=
  blames_modify (List.prefix_refl s.calls)

theorem blames_emit (text : String) (s : State) : Blames node (emit text) s :=
  blames_modify (List.prefix_refl s.calls)

theorem blames_count (s : State) : Blames node count s :=
  blames_modify (List.prefix_refl s.calls)

theorem blames_setRunning (running : Bool) (s : State) : Blames node (setRunning running) s :=
  blames_modify (List.prefix_refl s.calls)

theorem blames_note (call : Call) (s : State) : Blames node (note call) s :=
  blames_modify (List.prefix_append s.calls [call])

theorem blames_get {next : State → Act α} {s : State} (h : Blames node (next s) s) :
    Blames node (get >>= next) s := by
  constructor
  · rw [carry_get]
    exact h.calls
  · rw [carry_get]
    exact h.denied

/-- What comes after work begins where it ends, and knows what came of it. -/
theorem blames_bind {act : Act α} {next : α → Act β} {s : State} (hact : Blames node act s)
    (hnext : ∀ a s', carry act s = (.ok a, s') → Blames node (next a) s') :
    Blames node (act >>= next) s := by
  obtain ⟨hcalls, hdenied⟩ := hact
  constructor
  · rw [carry_bind]
    rcases hcarry : carry act s with ⟨t | a, s'⟩ <;> rw [hcarry] at hcalls
    · exact hcalls
    · exact hcalls.trans (hnext a s' hcarry).calls
  · rw [carry_bind]
    rcases hcarry : carry act s with ⟨t | a, s'⟩ <;> rw [hcarry] at hdenied
    · intro t' ht
      obtain rfl := Except.error.inj ht
      exact hdenied t rfl
    · exact (hnext a s' hcarry).denied

/-- Work that ends well does so piece by piece. -/
theorem carry_bind_ok {act : Act α} {next : α → Act β} {s s' : State} {b : β}
    (h : carry (act >>= next) s = (.ok b, s')) :
    ∃ a s₁, carry act s = (.ok a, s₁) ∧ carry (next a) s₁ = (.ok b, s') := by
  rw [carry_bind] at h
  rcases hcarry : carry act s with ⟨t | a, s₁⟩ <;> rw [hcarry] at h
  · exact absurd (Prod.mk.inj h).1 (by simp only [reduceCtorEq, not_false_eq_true])
  · exact ⟨a, s₁, rfl, h⟩

/-- A trouble that is caught was no want of a block, or one was denied. -/
theorem blames_catch {act : Act α} {rescue : Trouble → Act α} {s : State}
    (hact : Blames node act s)
    (hrescue : ∀ t s', (t.isAbsence = true → Denied node s'.calls) → Blames node (rescue t) s') :
    Blames node (tryCatch act rescue) s := by
  obtain ⟨hcalls, hdenied⟩ := hact
  constructor
  · rw [carry_tryCatch]
    rcases hcarry : carry act s with ⟨t | a, s'⟩ <;> rw [hcarry] at hcalls hdenied
    · exact hcalls.trans (hrescue t s' (hdenied t rfl)).calls
    · exact hcalls
  · rw [carry_tryCatch]
    rcases hcarry : carry act s with ⟨t | a, s'⟩ <;> rw [hcarry] at hdenied
    · exact (hrescue t s' (hdenied t rfl)).denied
    · intro t' ht
      exact absurd ht (by simp only [reduceCtorEq, not_false_eq_true])

/-! ### Asking -/

/-- What work comes to that asks some calls. -/
theorem blames_of_asks {act : Act α} {s s' : State} {ended : Except Trouble α} {added : List Call}
    (hcarry : carry act s = (ended, s')) (hasks : Asks s added s')
    (hended : FailsIn (fun t => t.isAbsence = false) ended) : Blames node act s := by
  constructor
  · rw [hcarry, hasks.calls]
    exact List.prefix_append _ _
  · rw [hcarry]
    intro t ht habsence
    exact absurd habsence (Bool.eq_false_iff.mp (hended t ht))

/-- A failure to fetch is reworded to one that is no want of a block either. -/
theorem failsIn_reworded {result : Except Trouble α} {t : Trouble}
    {wrap : FetchFault → Failure} (h : FailsIn (fun t => t.isAbsence = false) result)
    (ht : result = .error t) (hwrap : ∀ fault, (wrap fault).kind.isA .empty = false) :
    FailsIn (fun t => t.isAbsence = false) (.error (t.reworded wrap) : Except Trouble β) := by
  refine failsIn_error ?_
  rw [Trouble.reworded_isAbsence hwrap]
  exact h t ht

section Candid

variable (h : service.node.Candid)
include h

theorem blames_session (request : Request) (s : State) :
    Blames service.node (service.session request) s := by
  obtain ⟨ended, added, s', hcarry, hasks, hopens⟩ := carry_session service request s
  refine blames_of_asks hcarry hasks ?_
  cases hopens with
  | spec hreply => exact failsIn_reworded (h.spec _) hreply fun _ => rfl
  | genesis _ hreply => exact failsIn_reworded (h.genesis _) hreply fun _ => rfl
  | timing => exact failsIn_error (TimingFault.trouble_ordinary _).unabsent
  | target _ _ _ htarget =>
      exact failsIn_error (failsIn_resolved _ _ _ _ htarget).unabsent
  | opened => exact failsIn_ok _

theorem blames_fetch (blockId : Text) (withSidecars : Bool) (s : State) :
    Blames service.node (service.fetch blockId withSidecars) s := by
  obtain ⟨ended, added, s', hcarry, hasks, hfetches⟩ := carry_fetch service blockId withSidecars s
  refine blames_of_asks hcarry hasks ?_
  cases hfetches with
  | failed hreply => exact failsIn_error (h.block _ _ _ hreply)
  | unattached _ _ hreply => exact failsIn_reworded (h.sidecars _ _) hreply fun _ => rfl
  | absent | bare | attached => exact failsIn_ok _

omit h in
/-- Where no block was fetched, one was denied. -/
theorem denied_of_fetch {blockId : Text} {withSidecars : Bool} {s s' : State}
    (hnone : carry (service.fetch blockId withSidecars) s = (.ok none, s')) :
    Denied service.node s'.calls := by
  obtain ⟨ended, added, s'', hcarry, hasks, hfetches⟩ := carry_fetch service blockId withSidecars s
  obtain ⟨rfl, rfl⟩ := Prod.mk.inj (hcarry.symm.trans hnone)
  cases hfetches with
  | absent hreply =>
      rw [hasks.calls]
      exact ⟨s.calls, blockId, List.prefix_rfl, hreply⟩

omit h in
theorem blames_write (session : Session) (block : Block) (s : State) :
    Blames service.node (service.write session block) s := by
  refine blames_bind (blames_say _ s) fun _ s₁ _ => ?_
  refine blames_bind (blames_unabsent ?_ s₁) fun text s₂ _ => blames_emit text s₂
  exact fun t ht => (Renderer.failsIn_render _ _ _ t ht).unabsent

omit h in
theorem blames_separate (session : Session) {next : Act α} {s : State}
    (hnext : ∀ s, Blames service.node next s) :
    Blames service.node (do
      if session.mode.separates then emit "\n"
      next) s := by
  cases hmode : session.mode.separates with
  | false => exact hnext s
  | true => exact blames_bind (blames_emit "\n" s) fun _ s' _ => hnext s'

/-- An event cannot be handled for want of a block only if the node has denied that there
    is one. -/
theorem blames_handle (session : Session) (data : Datum) (s : State) :
    Blames service.node (service.handle session data) s := by
  unfold handle
  refine blames_bind (blames_unabsent ?_ s) fun head s₁ _ => ?_
  · unfold Service.head
    split
    · exact failsIn_ok _
    · exact failsIn_error rfl
    · exact failsIn_error rfl
  refine blames_bind (blames_say _ s₁) fun _ s₂ _ => ?_
  refine blames_bind (blames_fetch h head.blockId true s₂) fun block? s₃ hfetched => ?_
  rcases block? with _ | block
  · -- This is where the want of a block becomes a failure.
    exact blames_throw fun _ => denied_of_fetch hfetched
  · refine blames_bind (blames_write session block s₃) fun _ s₄ _ => ?_
    split
    · exact blames_emit "\n" s₄
    · exact blames_pure () s₄

/-- Whatever the policy is, it does not put the blame on somebody else. -/
theorem blames_attempt (session : Session) (data : Datum) (s : State) :
    Blames service.node (service.attempt session data) s := by
  unfold attempt
  refine blames_catch ?_ fun t s' hdenied => ?_
  · exact blames_bind (blames_handle h session data s) fun _ s' _ => blames_count s'
  · split
    · unfold recover
      split
      · exact blames_say _ s'
      · exact blames_throw hdenied
    · exact blames_throw hdenied

theorem blames_follow (session : Session) (feed : Feed)
    (hfeed : ∀ t, Feed.Item.trouble t ∈ feed → t.isAbsence = false) (s : State) :
    Blames service.node (service.follow session feed) s := by
  induction feed generalizing s with
  | nil => exact blames_pure () s
  | cons item rest ih =>
      have hrest := ih fun t ht => hfeed t (List.mem_cons_of_mem _ ht)
      cases item with
      | stop => exact blames_bind (blames_setRunning false s) fun _ s' _ => hrest s'
      | look =>
          refine blames_get ?_
          exact blames_bind (blames_note _ s) fun _ s' _ => hrest s'
      | log record => exact blames_bind (blames_say _ s) fun _ s' _ => hrest s'
      | trouble t =>
          refine blames_throw fun habsence => ?_
          exact absurd habsence (Bool.eq_false_iff.mp (hfeed t List.mem_cons_self))
      | event event =>
          refine blames_get ?_
          by_cases hrunning : s.running = true
          · rw [if_pos hrunning]
            by_cases htopic : event.topic = ↑HeadEvent.topic
            · rw [if_pos htopic]
              exact blames_bind (blames_attempt h session event.data s) fun _ s' _ => hrest s'
            · rw [if_neg htopic]
              exact hrest s
          · rw [if_neg hrunning]
            exact blames_pure () s

theorem blames_stream (session : Session) (s : State) :
    Blames service.node (service.stream session) s := by
  unfold stream
  refine blames_bind (blames_setRunning true s) fun _ s₁ _ => ?_
  refine blames_bind (blames_catch ?_ fun t s₂ hdenied => ?_) fun _ s₃ _ =>
    blames_setRunning false s₃
  · unfold subscribe
    refine blames_get ?_
    refine blames_bind (blames_note _ s₁) fun _ s₂ _ => ?_
    exact blames_follow h session _ (h.events s₁.calls _) s₂
  · -- What the feed failed for is thrown again, and calls that were made stay made.
    have hset : Blames service.node (setRunning false) s₂ := blames_setRunning false s₂
    refine blames_bind hset fun _ s₃ hs₃ => blames_throw fun habsence => ?_
    have hcalls := hset.calls
    rw [hs₃] at hcalls
    exact (hdenied habsence).mono hcalls

/-- A run fails for want of a block only if the node has denied that there is one. -/
theorem blames_run (request : Request) (s : State) :
    Blames service.node (service.run request) s := by
  unfold run
  refine blames_bind (blames_session h request s) fun session s₁ _ => ?_
  refine blames_bind (blames_fetch h session.blockId _ s₁) fun block? s₂ hfetched => ?_
  split
  · exact blames_pure _ s₂
  · rcases block? with _ | block
    · exact blames_throw fun _ => denied_of_fetch hfetched
    · refine blames_bind (blames_write session block s₂) fun _ s₃ _ => ?_
      split
      · exact blames_separate session
          (fun s => blames_bind (blames_stream h session s) fun _ s' _ => blames_pure _ s')
      · exact blames_pure _ s₃

omit h in
/-- A run ends without a block only if the node has denied that there is one. -/
theorem denied_of_absent {request : Request} {s s' : State}
    (habsent : carry (service.run request) s = (.ok .absent, s')) :
    Denied service.node s'.calls := by
  unfold run at habsent
  obtain ⟨session, s₁, -, habsent⟩ := carry_bind_ok habsent
  obtain ⟨block?, s₂, hfetched, habsent⟩ := carry_bind_ok habsent
  -- Whoever writes a block out ends with that, whatever a stream has come to.
  have hrendered {t : State} (h : carry (pure .rendered : Act Outcome) t = (.ok .absent, s')) :
      False := absurd (Except.ok.inj (Prod.mk.inj h).1) (by decide)
  split at habsent
  · -- Whoever is quiet says that there is no block exactly if none was fetched.
    obtain ⟨hended, rfl⟩ := Prod.mk.inj habsent
    rcases block? with _ | block
    · exact denied_of_fetch hfetched
    · have hpresent : Outcome.present = .absent := Except.ok.inj hended
      exact absurd hpresent (by decide)
  · rcases block? with _ | block
    · exact absurd (Prod.mk.inj habsent).1 (by simp only [reduceCtorEq, not_false_eq_true])
    · obtain ⟨_, s₃, -, habsent⟩ := carry_bind_ok habsent
      simp only at habsent
      split at habsent
      · split at habsent
        · obtain ⟨_, _, -, habsent⟩ := carry_bind_ok habsent
          obtain ⟨_, _, -, habsent⟩ := carry_bind_ok habsent
          exact (hrendered habsent).elim
        · obtain ⟨_, _, -, habsent⟩ := carry_bind_ok habsent
          exact (hrendered habsent).elim
      · exact (hrendered habsent).elim

end Candid

end Service

end Beacon
