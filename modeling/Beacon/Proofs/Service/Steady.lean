import Beacon.Proofs.Service.Effect
import Beacon.Service.Stream

/-!
# Events against a Steady Node

What handling one head event comes to when the node never changes: a block or a
failure for each identifier, and sidecars or a failure for each identifier. Then
the whole of it is a function of the event's data. `Session.shown` says what is
written for the event or what goes wrong, whatever the point at which it goes
wrong, and `Session.reaction` says what is left behind.

Every step that may fail stands before the first step that writes. That is why a
failure leaves nothing written behind it: the `Session.page` of an event that is
not shown is empty, and the questions that were asked are all its effect.

## Main definitions

* `Holdings`: What a node that never changes has to give.
* `Holdings.fetched`, `Holdings.asked`: A block with its sidecars, and what is
  asked to get it.
* `Holds`: A node gives what its holdings say.
* `Session.shownAt`, `Session.shown`: What is written for a block or for a head
  event, or what goes wrong.
* `Session.page`: What a shown block adds to the output.
* `Session.reaction`: What is left behind by a head event.

## Theorems

* `does_fetch`: What fetching a block comes to.
* `does_show`, `does_handle`: What showing a block comes to, and what handling a
  head event comes to.
* `reaction_ok`, `reaction_error`: The steps that a reaction is made of.
* `does_attempt`: A head event with which nothing worse than a failure goes wrong
  is dealt with.
* `does_attempt_breakdown`: A breakdown is handed on.
-/

namespace Beacon

namespace Service

open Effect

/-- What a node that never changes has to give for each identifier. -/
structure Holdings where
  /-- A block, or that there is none, or a failure. -/
  block : Text → Except Failure (Option Block)
  /-- The sidecars of a block, or a failure. -/
  sidecars : Text → Except Failure (List Value)

/-- A failure to fetch as another failure, and any other failure as it is. -/
def rewrapped (wrap : FetchFault → Failure) : Failure → Failure
  | .fetch fault => wrap fault
  | failure => failure

namespace Holdings

/-- The block of an identifier, a Deneb block with its sidecars. -/
def fetched (holdings : Holdings) (blockId : Text) : Except Failure (Option Block) :=
  match holdings.block blockId with
  | .ok (some (.deneb signed _)) =>
    ((holdings.sidecars blockId).mapError
        (rewrapped fun fault => .fetch (.blobs fault.message))).map
      fun sidecars => some (.deneb signed sidecars)
  | answer => answer

/-- What is asked for the block of an identifier: the block, and the sidecars of
    a Deneb block under the same identifier. -/
def asked (holdings : Holdings) (blockId : Text) : List Call :=
  match holdings.block blockId with
  | .ok (some (.deneb _ _)) => [.block blockId, .sidecars blockId]
  | _ => [.block blockId]

end Holdings

/-- A node gives what its holdings say, whatever was asked before. -/
structure Holds (node : Node) (holdings : Holdings) : Prop where
  block : ∀ blockId before,
    Gives (node.block before blockId) ((holdings.block blockId).mapError .failure)
  sidecars : ∀ blockId before,
    Gives (node.sidecars before blockId) ((holdings.sidecars blockId).mapError .failure)

end Service

namespace Session

open Service

/-- What is written of the block of an identifier, or what goes wrong with it. -/
def shownAt (session : Session) (zone : Zone) (holdings : Holdings) (blockId : Text) :
    Except Trouble String :=
  match holdings.fetched blockId with
  | .error failure => .error (.failure failure)
  | .ok none => .error (.failure (.empty (some blockId)))
  | .ok (some block) => (session.renderer zone).render block session.mode

/-- What is written for the data of a head event, or what goes wrong with it. -/
def shown (session : Session) (zone : Zone) (holdings : Holdings) (data : Datum) :
    Except Trouble String :=
  match Service.head data with
  | .error t => .error t
  | .ok head => session.shownAt zone holdings head.blockId

/-- What is asked for the data of a head event. Data that is no head event names
    no block to ask for. -/
def asked (holdings : Holdings) (data : Datum) : List Call :=
  match Service.head data with
  | .error _ => []
  | .ok head => holdings.asked head.blockId

/-- What follows a block on a stream. -/
def separator (session : Session) : String := if session.mode = .text then "\n" else ""

/-- What a shown block adds to the output of a stream. -/
def page (session : Session) : Except Trouble String → Effect
  | .ok text => .ofOutput (text ++ session.separator)
  | .error _ => .nothing

/-- The warning that a head event was not written out. -/
def warning (t : Trouble) : Log.Record :=
  Log.warning .service ("Failed to output block: " ++ t.message)

/-- What is left behind by a head event with which nothing worse than a failure
    goes wrong. -/
def reaction (session : Session) (zone : Zone) (holdings : Holdings) (data : Datum) : Effect :=
  match session.shown zone holdings data with
  | .ok text => ⟨asked holdings data, text ++ session.separator, 1, []⟩
  | .error t => ⟨asked holdings data, "", 0, [warning t]⟩

end Session

namespace Service

open Effect

variable {running : Bool} {service : Service} {holdings : Holdings}

/-- A failure to fetch is caught and thrown again as another failure. -/
theorem does_onFetchFault {α : Type} {act : Act α} {wrap : FetchFault → Failure}
    {answer : Except Failure α} {e : Effect} (h : Does running act (answer.mapError .failure) e) :
    Does running (onFetchFault act wrap) ((answer.mapError (rewrapped wrap)).mapError .failure)
      e := by
  unfold onFetchFault
  cases answer with
  | ok a => exact does_catch h
  | error failure =>
      rw [← andThen_nothing e]
      refine does_catch_error h ?_
      cases failure <;> exact does_throw _

/-- Fetching a block comes to what is held. -/
theorem does_fetch (hnode : Holds service.node holdings) (blockId : Text) :
    Does running (service.fetch blockId true) ((holdings.fetched blockId).mapError .failure)
      (ofCalls (holdings.asked blockId)) := by
  have hblock : Does running (ask (.block blockId) (service.node.block · blockId))
      ((holdings.block blockId).mapError .failure) (ofCalls [.block blockId]) :=
    does_ask (hnode.block blockId)
  have hsidecars : Does running (ask (.sidecars blockId) (service.node.sidecars · blockId))
      ((holdings.sidecars blockId).mapError .failure) (ofCalls [.sidecars blockId]) :=
    does_ask (hnode.sidecars blockId)
  unfold fetch Holdings.fetched Holdings.asked
  rcases hanswer : holdings.block blockId with failure | _ | block <;> rw [hanswer] at hblock
  · exact does_bind_error hblock
  · rw [← andThen_nothing (ofCalls _)]
    exact does_bind hblock (does_pure none)
  · cases block with
    | phase0 | altair | bellatrix | capella =>
        rw [← andThen_nothing (ofCalls _)]
        exact does_bind hblock (does_pure _)
    | deneb signed held =>
        -- The sidecars are asked for second, and only their failure is worded anew.
        change Does running _ _ (ofCalls ([.block blockId] ++ [.sidecars blockId]))
        rw [ofCalls_append]
        refine does_bind hblock ?_
        have hwrapped : Does running (onFetchFault _ fun fault => .fetch (.blobs fault.message)) _
            _ := does_onFetchFault hsidecars
        cases hheld : holdings.sidecars blockId with
        | error failure =>
            rw [hheld] at hwrapped
            exact does_bind_error hwrapped
        | ok sidecars =>
            rw [hheld] at hwrapped
            rw [← andThen_nothing (ofCalls _)]
            exact does_bind hwrapped (does_pure _)

theorem renderer_quiet (block : Block) (mode : Mode) : Quiet (Renderer.log block mode) := by
  unfold Renderer.log
  split
  · exact quiet_singleton rfl
  · exact quiet_nil

/-- A block that is rendered is written out whole. -/
theorem does_write {session : Session} {block : Block} {text : String}
    (h : (session.renderer service.zone).render block session.mode = .ok text) :
    Does running (service.write session block) (.ok ()) (ofOutput text) := by
  unfold write
  rw [h]
  exact does_bind_quiet (does_say_quiet (renderer_quiet block session.mode))
    (does_bind_quiet (does_pure text) (does_emit text))

/-- Of a block that is not rendered nothing is written. -/
theorem does_write_error {session : Session} {block : Block} {t : Trouble}
    (h : (session.renderer service.zone).render block session.mode = .error t) :
    Does running (service.write session block) (.error t) nothing := by
  unfold write
  rw [h]
  exact does_bind_quiet (does_say_quiet (renderer_quiet block session.mode))
    (does_bind_error (does_throw t))

theorem does_separate (session : Session) :
    Does running (if session.mode.separates then emit "\n" else pure ()) (.ok ())
      (ofOutput session.separator) := by
  unfold Mode.separates Session.separator
  by_cases h : session.mode = .text
  · rw [if_pos h, if_pos (decide_eq_true h)]
    exact does_emit "\n"
  · rw [if_neg h, if_neg (by rw [decide_eq_false h]; exact Bool.false_ne_true)]
    exact does_pure ()

/-- A block that is fetched is written out if it can be, and otherwise nothing of
    it is. -/
theorem does_show (hnode : Holds service.node holdings) (session : Session) (blockId : Text) :
    Does running (do
        match ← service.fetch blockId true with
        | none => throw (.failure (.empty (some blockId)))
        | some block =>
          service.write session block
          if session.mode.separates then emit "\n")
      ((session.shownAt service.zone holdings blockId).map fun _ => ())
      ((ofCalls (holdings.asked blockId)).andThen
        (session.page (session.shownAt service.zone holdings blockId))) := by
  have hfetch : Does running (service.fetch blockId true) _ _ := does_fetch hnode blockId
  unfold Session.shownAt
  generalize holdings.fetched blockId = answer at hfetch ⊢
  rcases answer with failure | _ | block
  · rw [Session.page, andThen_nothing]
    exact does_bind_error hfetch
  · exact does_bind hfetch (does_throw _)
  · refine does_bind hfetch ?_
    simp only []
    cases hrender : (session.renderer service.zone).render block session.mode with
    | error t => exact does_bind_error (does_write_error hrender)
    | ok text =>
        rw [Session.page, ofOutput_append]
        exact does_bind (does_write hrender) (does_separate session)

/-- A head event is written out if its block can be shown, and otherwise nothing
    is written. -/
theorem does_handle (hnode : Holds service.node holdings) (session : Session) (data : Datum) :
    Does running (service.handle session data)
      ((session.shown service.zone holdings data).map fun _ => ())
      ((ofCalls (Session.asked holdings data)).andThen
        (session.page (session.shown service.zone holdings data))) := by
  unfold Session.shown Session.asked handle
  cases Service.head data with
  | error t => exact does_bind_error (does_throw t)
  | ok head =>
      refine does_bind_quiet (does_pure head) ?_
      refine does_bind_quiet (does_say_quiet (quiet_singleton rfl)) ?_
      exact does_show hnode session head.blockId

theorem does_count : Does running count (.ok ()) { nothing with rendered := 1 } :=
  fun _ _ => ⟨_, rfl, ⟨rfl, (List.append_nil _).symm, String.append_empty.symm, rfl,
    (List.append_nil _).symm⟩⟩

/-- A head event that is shown is asked for, written out and counted. -/
theorem reaction_ok {session : Session} {zone : Zone} {data : Datum} {text : String}
    (h : session.shown zone holdings data = .ok text) :
    session.reaction zone holdings data = ((ofCalls (Session.asked holdings data)).andThen
      (ofOutput (text ++ session.separator))).andThen { nothing with rendered := 1 } := by
  rw [Session.reaction, h]
  simp only [ofCalls, ofOutput, nothing, andThen, List.append_nil, String.empty_append,
    String.append_empty, Nat.zero_add]

/-- A head event that is not shown is asked for and warned of. -/
theorem reaction_error {session : Session} {zone : Zone} {data : Datum} {t : Trouble}
    (h : session.shown zone holdings data = .error t) :
    session.reaction zone holdings data = (ofCalls (Session.asked holdings data)).andThen
      (ofLogs [Session.warning t]) := by
  rw [Session.reaction, h]
  simp only [ofCalls, ofLogs, nothing, andThen, List.append_nil, String.append_empty,
    List.nil_append, Nat.add_zero]
  rfl

/-- Under the policy that goes on, a head event with which nothing worse than a
    failure goes wrong is dealt with: written out and counted, or warned of. -/
theorem does_attempt (hnode : Holds service.node holdings)
    (hpolicy : service.policy = .logAndContinue) (session : Session) (data : Datum)
    (hfailure : ∀ t, session.shown service.zone holdings data = .error t →
      ∃ failure, t = .failure failure) :
    Does running (service.attempt session data) (.ok ())
      (session.reaction service.zone holdings data) := by
  have hhandle : Does running (service.handle session data) _ _ := does_handle hnode session data
  unfold attempt
  cases hshown : session.shown service.zone holdings data with
  | error t =>
      rw [hshown, Session.page, andThen_nothing] at hhandle
      rw [reaction_error hshown]
      obtain ⟨failure, rfl⟩ := hfailure t hshown
      -- The policy turns the failure into a warning.
      have hrecover : Does running (service.recover failure) (.ok ())
          (ofLogs [Session.warning (.failure failure)]) := by
        unfold recover
        rw [hpolicy]
        exact does_say _
      exact does_catch_error (does_bind_error hhandle) hrecover
  | ok text =>
      rw [hshown] at hhandle
      rw [reaction_ok hshown]
      exact does_catch (does_bind hhandle does_count)

/-- A breakdown is handed on, under every policy. -/
theorem does_attempt_breakdown (hnode : Holds service.node holdings) (session : Session)
    (data : Datum) (b : Breakdown)
    (h : session.shown service.zone holdings data = .error (.breakdown b)) :
    Does running (service.attempt session data) (.error (.breakdown b))
      (ofCalls (Session.asked holdings data)) := by
  have hhandle : Does running (service.handle session data) _ _ := does_handle hnode session data
  rw [h, Session.page, andThen_nothing] at hhandle
  rw [← andThen_nothing (ofCalls _)]
  exact does_catch_error (does_bind_error hhandle) (does_throw _)

end Service

end Beacon
