import Beacon.Proofs.Service.Changing

/-!
# Work Side by Side

Two services that differ in their node only, at work side by side. They are begun in
states that are related in some way, and the question is whether they end the same
way, in states that are related again.

What relates the states is left open. It has to bear that the same is said, written
or counted at both, which is all that a service does by itself. Whatever else happens
to it comes from its node, so all that is to be shown of two nodes is that asking
them for a block and for sidecars keeps the relation. From that the work on an event
keeps it.

## Main definitions

* `Mirrors`: Two pieces of work end the same way and keep a relation.
* `Even`: The relation bears what a service does by itself.
* `Paired`: Two nodes that keep the relation.

## Theorems

* `mirrors_bind`, `mirrors_catch`: Work that is put together.
* `mirrors_attempt`: The work on an event.
-/

namespace Beacon

namespace Service

variable {α β : Type} {R : State → State → Prop}

/-- Begun in related states, the two pieces of work end the same way, in related
    states. -/
def Mirrors (R : State → State → Prop) (act act' : Act α) : Prop :=
  ∀ s s' : State, R s s' →
    (carry act' s').1 = (carry act s).1 ∧ R (carry act s).2 (carry act' s').2

/-- Related states stay related when the same is said, written or counted at both. -/
structure Even (R : State → State → Prop) : Prop where
  say : ∀ {s s' : State} (records : List Log.Record), R s s' →
    R { s with logs := s.logs ++ records } { s' with logs := s'.logs ++ records }
  emit : ∀ {s s' : State} (text : String), R s s' →
    R { s with output := s.output ++ text } { s' with output := s'.output ++ text }
  count : ∀ {s s' : State}, R s s' →
    R { s with rendered := s.rendered + 1 } { s' with rendered := s'.rendered + 1 }

/-- Related states stay related, and nobody learns of a difference, when one of them
    asks the one node and the other the other for blocks and sidecars. -/
structure Paired (R : State → State → Prop) (node node' : Node) : Prop where
  block : ∀ blockId, Mirrors R (ask (.block blockId) (node.block · blockId))
    (ask (.block blockId) (node'.block · blockId))
  sidecars : ∀ blockId, Mirrors R (ask (.sidecars blockId) (node.sidecars · blockId))
    (ask (.sidecars blockId) (node'.sidecars · blockId))

/-! ### Putting work together -/

theorem mirrors_bind {act act' : Act α} {next next' : α → Act β} (hact : Mirrors R act act')
    (hnext : ∀ a, Mirrors R (next a) (next' a)) :
    Mirrors R (act >>= next) (act' >>= next') := by
  intro s s' hs
  obtain ⟨hsame, hends⟩ := hact s s' hs
  rw [carry_bind, carry_bind]
  rcases hleft : carry act s with ⟨result, u⟩
  rcases hright : carry act' s' with ⟨result', u'⟩
  rw [hleft, hright] at hsame hends
  obtain rfl : result' = result := hsame
  cases result' with
  | error t => exact ⟨rfl, hends⟩
  | ok a => exact hnext a u u' hends

theorem mirrors_catch {act act' : Act α} {rescue rescue' : Trouble → Act α}
    (hact : Mirrors R act act') (hrescue : ∀ t, Mirrors R (rescue t) (rescue' t)) :
    Mirrors R (tryCatch act rescue) (tryCatch act' rescue') := by
  intro s s' hs
  obtain ⟨hsame, hends⟩ := hact s s' hs
  rw [carry_tryCatch, carry_tryCatch]
  rcases hleft : carry act s with ⟨result, u⟩
  rcases hright : carry act' s' with ⟨result', u'⟩
  rw [hleft, hright] at hsame hends
  obtain rfl : result' = result := hsame
  cases result' with
  | error t => exact hrescue t u u' hends
  | ok a => exact ⟨rfl, hends⟩

theorem mirrors_settle (result : Except Trouble α) :
    Mirrors R (settle result) (settle result) := by
  intro s s' hs
  rw [carry_settle, carry_settle]
  exact ⟨rfl, hs⟩

theorem mirrors_pure (a : α) : Mirrors R (pure a) (pure a) := mirrors_settle (.ok a)

theorem mirrors_throw (t : Trouble) : Mirrors R (throw t : Act α) (throw t) :=
  mirrors_settle (.error t)

theorem mirrors_say (hR : Even R) (records : List Log.Record) :
    Mirrors R (say records) (say records) := fun _ _ hs => ⟨rfl, hR.say records hs⟩

theorem mirrors_emit (hR : Even R) (text : String) : Mirrors R (emit text) (emit text) :=
  fun _ _ hs => ⟨rfl, hR.emit text hs⟩

theorem mirrors_count (hR : Even R) : Mirrors R count count := fun _ _ hs => ⟨rfl, hR.count hs⟩

theorem mirrors_onFetchFault {act act' : Act α} {wrap : FetchFault → Failure}
    (hact : Mirrors R act act') :
    Mirrors R (onFetchFault act wrap) (onFetchFault act' wrap) := by
  refine mirrors_catch hact fun t => ?_
  rcases t with f | b
  · cases f <;> exact mirrors_throw _
  · exact mirrors_throw _

/-! ### The work of two services -/

variable {service : Service} {node : Node}

theorem mirrors_fetch (h : Paired R service.node node) (blockId : Text) (withSidecars : Bool) :
    Mirrors R (service.fetch blockId withSidecars)
      (Service.fetch { service with node := node } blockId withSidecars) := by
  refine mirrors_bind (h.block blockId) fun block? => ?_
  rcases block? with _ | block
  · exact mirrors_pure none
  · cases block with
    | phase0 | altair | bellatrix | capella => exact mirrors_pure _
    | deneb signed held =>
        cases withSidecars with
        | false => exact mirrors_pure _
        | true =>
            exact mirrors_bind (mirrors_onFetchFault (h.sidecars blockId)) fun _ =>
              mirrors_pure _

theorem mirrors_write (hR : Even R) (session : Session) (block : Block) :
    Mirrors R (service.write session block)
      (Service.write { service with node := node } session block) :=
  mirrors_bind (mirrors_say hR _) fun _ =>
    mirrors_bind (mirrors_settle _) fun text => mirrors_emit hR text

theorem mirrors_handle (hR : Even R) (h : Paired R service.node node) (session : Session)
    (data : Datum) :
    Mirrors R (service.handle session data)
      (Service.handle { service with node := node } session data) := by
  refine mirrors_bind (mirrors_settle _) fun head => mirrors_bind (mirrors_say hR _) fun _ => ?_
  refine mirrors_bind (mirrors_fetch h head.blockId true) fun block? => ?_
  rcases block? with _ | block
  · exact mirrors_throw _
  · refine mirrors_bind (mirrors_write hR session block) fun _ => ?_
    split
    · exact mirrors_emit hR "\n"
    · exact mirrors_pure ()

/-- Services that differ only in nodes that keep the relation do the same about an
    event, whatever their policy is. -/
theorem mirrors_attempt (hR : Even R) (h : Paired R service.node node) (session : Session)
    (data : Datum) :
    Mirrors R (service.attempt session data)
      (Service.attempt { service with node := node } session data) := by
  have hhandled := mirrors_bind (mirrors_handle hR h session data) fun _ => mirrors_count hR
  refine mirrors_catch hhandled fun t => ?_
  rcases t with f | b
  · simp only [recover]
    cases service.policy with
    | logAndContinue => exact mirrors_say hR _
    | raise => exact mirrors_throw _
  · exact mirrors_throw _

end Service

end Beacon
