import Beacon.Proofs.Command.Status
import Beacon.Proofs.Event.Delivery
import Beacon.Proofs.Service.Denial

/-!
# When There Is Said to Be No Block

Which responses of a node come to the report that there is no block.

A client has one reply for it, and two kinds of responses get it: a response whose status
says that nothing is there, and a success whose body says nothing, that is the JSON `null`.
The first is how nodes answer. The second is no answer that a node should give, and it
would be a failure to fetch like every other body without data, but in between the status
and the block `null` stands for what is absent (`Client.json`).

Every other response comes to a block that was read, or to a trouble that is not the want of
one. So whenever a run reports that there is no block, in whichever mode, a request for a
block had one of the two responses.

## Main definitions

* `Http.Response.Denies`: A response gets the reply that there is no block.
* `Command.DeniedTo`: A request for a block got such a response.

## Theorems

* `Client.candid`: The replies of a client never fail for want of a block.
* `Client.block_cases`: What a client replies about a block.
* `Command.absence_of_response`: Which responses are reported as no block.
* `Command.absence_of_null`: A success that is reported as no block.
-/

namespace Beacon

open Outcome

/-- A whole response gets the reply that there is no block: its status says that nothing is
    there, or it is a success and its body says nothing. -/
def Http.Response.Denies (response : Http.Response) : Prop :=
  response.broken = none ∧ (response.status = 404 ∨
    response.isSuccess = true ∧ Content.read response.body = .ok .null)

namespace Frame

/-- What a frame delivers is no failure for want of a block. -/
theorem item?_unabsent {run : List Text} {t : Trouble} (h : item? run = some (.trouble t)) :
    t.isAbsence = false := by
  cases hdata : data? run with
  | none =>
      rw [item?_of_none run hdata] at h
      exact absurd h (Option.some_ne_none _).symm
  | some data =>
      rw [item?_of_some run data hdata, Option.some.injEq] at h
      split at h
      · exact absurd h (by simp only [reduceCtorEq, not_false_eq_true])
      · exact absurd h (by simp only [reduceCtorEq, not_false_eq_true])
      · rw [← Feed.Item.trouble.inj h]
        rfl
      · rw [← Feed.Item.trouble.inj h]
        rfl

/-- A stream breaks off by the trouble it is given, or by one of its frames. -/
theorem feed_unabsent {lines : List Text} {broken : Option Trouble} {t : Trouble}
    (hbroken : ∀ t ∈ broken, t.isAbsence = false) (h : .trouble t ∈ feed lines broken) :
    t.isAbsence = false := by
  have hframes (rows : List (List Text)) (h : .trouble t ∈ rows.filterMap item?) :
      t.isAbsence = false := by
    obtain ⟨run, -, hrun⟩ := List.mem_filterMap.mp h
    exact item?_unabsent hrun
  cases broken with
  | none =>
      rw [feed_eq] at h
      exact hframes _ h
  | some t' =>
      rw [feed_broken, List.mem_append, List.mem_singleton] at h
      rcases h with h | h
      · exact hframes _ h
      · rw [Feed.Item.trouble.inj h]
        exact hbroken t' rfl

end Frame

namespace Client

variable {client : Client}

theorem delivered_unabsent {topics : List Text} {request : Http.Request}
    {response : Http.Response} {t : Trouble}
    (h : .trouble t ∈ delivered topics request response) : t.isAbsence = false := by
  unfold delivered at h
  split at h
  · rw [Feed.Item.trouble.inj (List.mem_singleton.mp h)]
    rfl
  split at h
  · rw [Feed.Item.trouble.inj (List.mem_singleton.mp h)]
    rfl
  · refine Frame.feed_unabsent (fun t ht => ?_) h
    obtain ⟨fault, -, rfl⟩ := Option.mem_map.mp ht
    exact trouble_isAbsence _ fault

theorem events_unabsent {before : List Call} {topics : List Text} {t : Trouble}
    (h : .trouble t ∈ client.events before topics) : t.isAbsence = false := by
  unfold Client.events at h
  rcases List.mem_cons.mp h with h | h
  · exact absurd h (by simp only [reduceCtorEq, not_false_eq_true])
  split at h
  · rw [Feed.Item.trouble.inj (List.mem_singleton.mp h)]
    rfl
  split at h
  · rw [Feed.Item.trouble.inj (List.mem_singleton.mp h)]
    exact trouble_isAbsence _ _
  · exact delivered_unabsent h

/-- The replies of a client, and its feeds, never fail for want of a block. -/
theorem candid (client : Client) : client.node.Candid where
  spec asked := (client.record_reports asked _).unabsent
  genesis asked := (client.record_reports asked _).unabsent
  block asked blockId := (client.block_reports asked blockId).unabsent
  sidecars asked blockId := (client.sidecars_reports asked blockId).unabsent
  events _ _ _ := events_unabsent

/-- A client replies that there is no block if a whole response to its request says so. -/
theorem denies_iff (before : List Call) (blockId : Text) :
    client.Denies before blockId ↔ ∃ request response,
      client.lookUp (blockPath blockId) = .ok request ∧ request.url.isTyped = true ∧
        client.transport (client.requests before) request = .ok response ∧ response.Denies := by
  have habsent (response : Http.Response) : response.isAbsent = true ↔ response.status = 404 := by
    rw [Http.Response.isAbsent, decide_eq_true_eq]
  constructor
  · rintro ⟨request, response, ⟨hsent, htyped, hcame, hwhole⟩, hsays⟩
    exact ⟨request, response, hsent, htyped, hcame, hwhole, hsays.imp (habsent response).mp id⟩
  · rintro ⟨request, response, hsent, htyped, hcame, hwhole, hsays⟩
    exact ⟨request, response, ⟨hsent, htyped, hcame, hwhole⟩, hsays.imp (habsent response).mpr id⟩

/-- A client replies about a block that there is none, or it has read one, or it is in a
    trouble that is not the want of one. -/
theorem block_cases (client : Client) (before : List Call) (blockId : Text) :
    (client.block before blockId).result = .ok none ∨
      (∃ block, (client.block before blockId).result = .ok (some block) ∧
        client.Offers before blockId block) ∨
      ∃ t, (client.block before blockId).result = .error t ∧ t.isAbsence = false := by
  rcases hreply : (client.block before blockId).result with t | _ | block
  · exact .inr (.inr ⟨t, rfl, (client.block_reports before blockId).unabsent t hreply⟩)
  · exact .inl rfl
  · exact .inr (.inl ⟨block, rfl, (client.block_some_iff before blockId block).mp hreply⟩)

end Client

namespace Command

open Service

/-- A request for a block, after some others, was answered that there is none. -/
def DeniedTo (client : Client) (requests : List Http.Request) : Prop :=
  ∃ before blockId request response, client.lookUp (Client.blockPath blockId) = .ok request ∧
    client.requests before ++ [request] <+: requests ∧
    client.transport (client.requests before) request = .ok response ∧ response.Denies

/-- A block that was denied to a service was denied to its client in a response. -/
theorem deniedTo_of_denied {client : Client} {calls : List Call}
    (h : Denied client.node calls) : DeniedTo client (client.requests calls) := by
  obtain ⟨before, blockId, ⟨more, rfl⟩, hnone⟩ := h
  have hdenies := (client.block_none_iff before blockId).mp hnone
  obtain ⟨request, response, hsent, -, hcame, hresponse⟩ :=
    (Client.denies_iff before blockId).mp hdenies
  refine ⟨before, blockId, request, response, hsent, ?_, hcame, hresponse⟩
  have hrequest : client.request? (.block blockId) = some request := by
    rw [Client.request?, hsent]
    rfl
  have hrequests := client.requests_append before (.block blockId)
  rw [hrequest, Option.toList_some] at hrequests
  rw [← hrequests]
  refine ⟨client.requests more, ?_⟩
  exact List.filterMap_append.symm

/-- A run with the status of absence was denied a block. -/
theorem deniedTo_of_absence {o : Options} {zone : Zone} {transport : Http.Transport}
    (h : (run o zone transport).status = .ok absence) :
    ∃ client, o.connection.client transport = .ok client ∧
      DeniedTo client (run o zone transport).requests := by
  -- Without a request or a client nothing is asked, and the status is that of a failure.
  cases hrequest : o.request with
  | error fault =>
      have hstatus : (run o zone transport).status
          = statusOf (.error (.failure (.usage fault))) := by
        unfold run
        rw [hrequest]
        rfl
      exact absurd (hstatus.symm.trans h) (statusOf_ordinary (Trouble.ordinary_failure rfl)).2
  | ok request =>
      cases hclient : o.connection.client transport with
      | error fault =>
          have hstatus : (run o zone transport).status
              = statusOf (.error (.breakdown (.location fault))) := by
            unfold run
            rw [hrequest]
            simp only [hclient]
            rfl
          have hkind : (Breakdown.location fault).kind ≠ .interrupt := fault.kind_ne_interrupt
          exact absurd (hstatus.symm.trans h)
            (statusOf_ordinary (Trouble.ordinary_breakdown hkind)).2
      | ok client =>
          rcases hcarry : carry ((serving client zone).run request) .fresh with ⟨ended, s⟩
          rw [run_of_carry hrequest hclient hcarry] at h ⊢
          refine ⟨client, rfl, deniedTo_of_denied ?_⟩
          -- The run ended without a block, or it failed for want of one.
          rcases (statusOf_absence_iff ended).mp h with rfl | ⟨t, rfl, habsence⟩
          · exact denied_of_absent hcarry
          · have hcandid : (serving client zone).node.Candid := client.candid
            have hdenied := (blames_run hcandid request .fresh).denied
            rw [hcarry] at hdenied
            exact hdenied t rfl habsence

/-- Which responses are reported as there being no block. When there is a response to the
    request for a block, the client replies that there is none exactly if the response is
    whole and its status is 404, or it is a success and its body is the JSON `null`; every
    other reply is a block that was read, or a trouble that is not the want of one. So if an
    event cannot be handled for want of a block, if a run of a service ends without one or
    fails for want of one, and if the status of the command is that of absence, there was
    such a response to a request for a block. -/
theorem absence_of_response (client : Client) (before : List Call) (blockId : Text)
    (request : Http.Request) (response : Http.Response)
    (hsent : client.lookUp (Client.blockPath blockId) = .ok request)
    (htyped : request.url.isTyped = true)
    (hcame : client.transport (client.requests before) request = .ok response) :
    ((client.block before blockId).result = .ok none ↔ response.Denies) ∧
    ((client.block before blockId).result = .ok none ∨
      (∃ block, (client.block before blockId).result = .ok (some block) ∧
        client.Offers before blockId block) ∨
      ∃ t, (client.block before blockId).result = .error t ∧ t.isAbsence = false) ∧
    (∀ (zone : Zone) (policy : EventPolicy) (session : Session) (data : Datum) (s s' : State)
        (t : Trouble), carry (handle ⟨client.node, zone, policy⟩ session data) s = (.error t, s') →
      t.isAbsence = true → DeniedTo client (client.requests s'.calls)) ∧
    (∀ (zone : Zone) (policy : EventPolicy) (asked : Request) (s s' : State)
        (ended : Except Trouble Outcome),
      carry (Service.run ⟨client.node, zone, policy⟩ asked) s = (ended, s') →
      (ended = .ok .absent ∨ ∃ t, ended = .error t ∧ t.isAbsence = true) →
      DeniedTo client (client.requests s'.calls)) ∧
    ∀ (o : Options) (zone : Zone) (transport : Http.Transport),
      (run o zone transport).status = .ok absence →
      ∃ client, o.connection.client transport = .ok client ∧
        DeniedTo client (run o zone transport).requests := by
  refine ⟨?_, client.block_cases before blockId, ?_, ?_, fun o zone transport h =>
    deniedTo_of_absence h⟩
  · rw [client.block_none_iff, Client.denies_iff]
    constructor
    · rintro ⟨request', response', hsent', -, hcame', hdenies⟩
      obtain rfl := Except.ok.inj (hsent.symm.trans hsent')
      obtain rfl := Except.ok.inj (hcame.symm.trans hcame')
      exact hdenies
    · intro hdenies
      exact ⟨request, response, hsent, htyped, hcame, hdenies⟩
  · intro zone policy session data s s' t hcarry habsence
    have hcandid : (Service.mk client.node zone policy).node.Candid := client.candid
    have hdenied := (blames_handle hcandid session data s).denied
    rw [hcarry] at hdenied
    exact deniedTo_of_denied (hdenied t rfl habsence)
  · intro zone policy asked s s' ended hcarry hended
    have hcandid : (Service.mk client.node zone policy).node.Candid := client.candid
    have hdenied := (blames_run hcandid asked s).denied
    rcases hended with rfl | ⟨t, rfl, habsence⟩
    · exact deniedTo_of_denied (denied_of_absent hcarry)
    · rw [hcarry] at hdenied
      exact deniedTo_of_denied (hdenied t rfl habsence)

/-- A node without the block that is asked for, which says so by its status. -/
theorem absence_of_not_found :
    let base : Url := ⟨"http".toList, [], "localhost", some 5052, [], none, none⟩
    let response : Http.Response := ⟨404, [], none⟩
    let client : Client := ⟨"http://localhost:5052", base, fun _ _ => .ok response⟩
    (∃ request, client.lookUp (Client.blockPath "head") = .ok request ∧
        request.url.isTyped = true ∧
        client.transport (client.requests []) request = .ok response) ∧
      (client.block [] "head").result = .ok none ∧
      ∃ client, plainQuiet.connection.client (replying 404 .null) = .ok client ∧
        DeniedTo client (run plainQuiet .universal (replying 404 .null)).requests := by
  intro base response client
  obtain ⟨request, hsent, htyped⟩ : ∃ request,
      client.lookUp (Client.blockPath "head") = .ok request ∧ request.url.isTyped = true :=
    Http.exists_typed (by decide +kernel)
  have hstatus : (run plainQuiet .universal (replying 404 .null)).status = .ok absence :=
    ok_of_toOption (by decide +kernel)
  obtain ⟨hnone, -, -, -, hrun⟩ :=
    absence_of_response client [] "head" request response hsent htyped rfl
  exact ⟨⟨request, hsent, htyped, rfl⟩, hnone.mpr ⟨rfl, .inl rfl⟩, hrun _ _ _ hstatus⟩

/-- A node whose response to every request for a block is a success with the body `null`. Its
    status is not 404, but the client replies that there is no block, and the status of a
    quiet run is that of absence. -/
theorem absence_of_null :
    let base : Url := ⟨"http".toList, [], "localhost", some 5052, [], none, none⟩
    let response : Http.Response := ⟨200, written .null, none⟩
    let client : Client := ⟨"http://localhost:5052", base, fun _ _ => .ok response⟩
    response.status ≠ 404 ∧ (client.block [] "head").result = .ok none ∧
      (∀ requests request, ∃ response, replying 200 .null requests request = .ok response ∧
        response.status ≠ 404) ∧
      (run plainQuiet .universal (replying 200 .null)).status = .ok absence := by
  intro base response client
  have hcontent : Content.read response.body = .ok .null := by rfl
  have hdenies : client.Denies [] "head" := by
    obtain ⟨request, hsent, htyped⟩ : ∃ request,
        client.lookUp (Client.blockPath "head") = .ok request ∧ request.url.isTyped = true :=
      Http.exists_typed (by decide +kernel)
    exact ⟨request, response, ⟨hsent, htyped, rfl, rfl⟩, .inr ⟨rfl, hcontent⟩⟩
  refine ⟨by decide, (client.block_none_iff [] "head").mpr hdenies, fun requests request => ?_,
    ok_of_toOption (by decide +kernel)⟩
  unfold replying
  split <;> exact ⟨_, rfl, by decide⟩

end Command

end Beacon
