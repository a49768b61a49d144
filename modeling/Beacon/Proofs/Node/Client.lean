import Beacon.Node.Client
import Beacon.Proofs.Failure.Ordinary

/-!
# What a Client Makes of Responses

When a node over HTTP is taken to have a block, when it is taken to have none, and
when its reply is an interruption of the program.

A reply is got in several steps: the location is put together, the transport is
asked, the response is judged, and what it holds is read. `Client.Answers` says that
the first two were taken without a mishap. From there on a block is there if the
response is a success that holds one, and none is there if the status says so or if
the response is a success that holds nothing.

An interruption is told from everything else by its kind. Only the transport can
bring it up, either in place of a response or in the middle of one; whatever else
goes wrong on the way to a reply is `Trouble.Ordinary`. So a reply is an interruption
exactly if its request was interrupted. This carries over from the replies to the
requests that were sent: when no request was interrupted before, the reply to the
last one tells whether the last one was.

## Main definitions

* `Http.cut`: Why no whole response came, if none did.
* `Http.BreaksOff`: The last of some requests is interrupted.
* `Client.Interrupts`: The request at a path is interrupted.
* `Client.Reports`: A result tells whether that is so.
* `Client.Answers`: There is a whole response at a path.
* `Client.Offers`, `Client.Denies`: There is a block at an identifier, or none.

## Theorems

* `Client.record_reports`, `Client.block_reports`, `Client.sidecars_reports`: A reply
  is an interruption if its request is.
* `Client.breaksOff_snoc`: Whether the last request is interrupted.
* `Client.block_some_iff`, `Client.block_none_iff`: What a reply about a block says.
-/

namespace Beacon

open Outcome

namespace Http

/-- Whether a fault is an interruption of the program. -/
def Fault.isInterruption : Fault → Bool
  | .network _ => false
  | .other kind _ => kind = .interrupt
  | .interrupted => true

/-- Why no whole response came, if none did. -/
def cut : Except Fault Response → Option Fault
  | .error fault => some fault
  | .ok response => response.broken

/-- The last of some requests that were sent is interrupted. -/
def BreaksOff (transport : Transport) (requests : List Request) : Prop :=
  ∃ before request fault, requests = before ++ [request] ∧
    cut (transport before request) = some fault ∧ fault.isInterruption = true

/-- A request that was put together to a location that responses can be filed under. -/
theorem exists_typed {x : Except UrlFault Request}
    (h : x.toOption.map (fun request => request.url.isTyped) = some true) :
    ∃ request, x = .ok request ∧ request.url.isTyped = true := by
  cases x with
  | error fault =>
      exact absurd h (by simp only [Except.toOption, Option.map_none, reduceCtorEq,
        not_false_eq_true])
  | ok request => exact ⟨request, rfl, Option.some.inj h⟩

theorem not_breaksOff_nil (transport : Transport) : ¬BreaksOff transport [] := by
  rintro ⟨before, request, fault, hrequests, -⟩
  exact absurd hrequests.symm (List.append_ne_nil_of_right_ne_nil _ (List.cons_ne_nil _ _))

theorem breaksOff_append (transport : Transport) (before : List Request) (request : Request) :
    BreaksOff transport (before ++ [request]) ↔
      ∃ fault, cut (transport before request) = some fault ∧ fault.isInterruption = true := by
  constructor
  · rintro ⟨before', request', fault, hrequests, hfault⟩
    obtain ⟨rfl, hsingle⟩ := List.append_inj' hrequests rfl
    obtain rfl : request = request' := List.singleton_inj.mp hsingle
    exact ⟨fault, hfault⟩
  · rintro ⟨fault, hfault⟩
    exact ⟨before, request, fault, rfl, hfault⟩

end Http

variable {α β : Type}

namespace Client

variable {client : Client} {before : List Call} {path blockId : Text}

theorem failsIn_failed (fault : FetchFault) :
    FailsIn Trouble.Ordinary (failed fault : Except Trouble α) :=
  failsIn_error (Trouble.ordinary_failure rfl)

theorem misplaced_ordinary (path : Text) (fault : UrlFault) : (misplaced path fault).Ordinary := by
  unfold misplaced
  split
  · exact Trouble.ordinary_failure rfl
  · exact Trouble.ordinary_breakdown fault.kind_ne_interrupt

theorem refused_ordinary (wrap : Fault → FetchFault) (fault : Fault) :
    (refused wrap fault).Ordinary := by
  unfold refused
  split
  · exact Trouble.ordinary_failure rfl
  · exact Trouble.ordinary_breakdown fault.kind_ne_interrupt

theorem failsIn_content (path : Text) (body : Bytes) :
    FailsIn Trouble.Ordinary (content path body) := by
  unfold content
  split
  · exact failsIn_ok _
  · exact failsIn_error (Trouble.ordinary_breakdown
      (by simp only [Breakdown.kind, ne_eq, reduceCtorEq, not_false_eq_true]))
  · exact failsIn_failed _

theorem failsIn_data (path : Text) (answer : Datum) :
    FailsIn Trouble.Ordinary (data path answer) := by
  unfold data
  split
  · exact failsIn_ok _
  · exact failsIn_failed _

theorem failsIn_blockOf (path : Text) (answer : Datum) :
    FailsIn Trouble.Ordinary (blockOf path answer) := by
  unfold blockOf
  refine failsIn_bind (failsIn_data path answer) fun d _ => ?_
  split
  · split
    · exact failsIn_ok _
    · exact failsIn_error (Trouble.ordinary_failure rfl)
    · exact failsIn_error (refused_ordinary _ _)
  · exact failsIn_failed _

/-- A response that came whole is judged to be something, or an ordinary trouble. -/
theorem failsIn_judge {response : Http.Response} (h : response.broken = none) (path : Text)
    (mayBeAbsent : Bool) (request : Http.Request) :
    FailsIn Trouble.Ordinary (judge path mayBeAbsent request response) := by
  unfold judge
  rw [h]
  simp only []
  split
  · exact failsIn_failed _
  split
  · exact failsIn_ok _
  split
  · exact failsIn_failed _
  · exact failsIn_content _ _

/-- A missing or broken response is an interruption if its fault is one, and never
    the failure that there is no block. -/
theorem trouble_isInterruption (wrap : Text → FetchFault) (fault : Http.Fault) :
    (trouble wrap fault).isInterruption = fault.isInterruption := by
  cases fault <;> rfl

theorem trouble_isAbsence (wrap : Text → FetchFault) (fault : Http.Fault) :
    (trouble wrap fault).isAbsence = false := by
  cases fault <;> rfl

/-- The request at a path is interrupted. -/
def Interrupts (client : Client) (before : List Call) (path : Text) : Prop :=
  ∃ request fault, client.lookUp path = .ok request ∧
    Http.cut (client.transport (client.requests before) request) = some fault ∧
    fault.isInterruption = true

/-- A result is an interruption exactly if the request at a path is, and it is never
    the failure that there is no block. -/
structure Reports (client : Client) (before : List Call) (path : Text)
    (result : Except Trouble α) : Prop where
  interrupted : Interrupted result ↔ client.Interrupts before path
  unabsent : FailsIn (fun t => t.isAbsence = false) result

/-- An ordinary result reports that there was no interruption. -/
theorem reports_of_failsIn {result : Except Trouble α} (h : FailsIn Trouble.Ordinary result)
    (hpath : ¬client.Interrupts before path) : client.Reports before path result where
  interrupted := iff_of_false (not_interrupted_of_failsIn h) hpath
  unabsent t ht := (h t ht).unabsent

/-- What is done with a result can add nothing but ordinary troubles. -/
theorem Reports.bind {x : Except Trouble α} {f : α → Except Trouble β}
    (hx : client.Reports before path x) (hf : ∀ a, FailsIn Trouble.Ordinary (f a)) :
    client.Reports before path (x >>= f) := by
  cases x with
  | error t =>
      refine ⟨Iff.trans ?_ hx.interrupted, failsIn_error (hx.unabsent t rfl)⟩
      rw [interrupted_error]
      exact interrupted_error t
  | ok a =>
      refine reports_of_failsIn (hf a) fun hpath => ?_
      exact not_interrupted_ok a (hx.interrupted.mpr hpath)

theorem json_reports (client : Client) (before : List Call) (path : Text) (mayBeAbsent : Bool) :
    client.Reports before path (client.json before path mayBeAbsent).result := by
  unfold json Reply.saying
  cases hlook : client.lookUp path with
  | error fault =>
      refine reports_of_failsIn (failsIn_error (misplaced_ordinary path fault)) ?_
      rintro ⟨request, _, hrequest, -⟩
      exact absurd (hlook.symm.trans hrequest) (by simp only [reduceCtorEq, not_false_eq_true])
  | ok request =>
      -- Whether the request is interrupted is a matter of its own fault.
      have hpath : client.Interrupts before path ↔ ∃ fault,
          Http.cut (client.transport (client.requests before) request) = some fault ∧
            fault.isInterruption = true := by
        unfold Interrupts
        simp only [hlook, Except.ok.injEq, exists_and_left, exists_eq_left']
      have hreports (wrap : Text → FetchFault) (fault : Http.Fault)
          (hcut : Http.cut (client.transport (client.requests before) request) = some fault) :
          client.Reports before path (.error (trouble wrap fault) : Except Trouble Datum) := by
        refine ⟨?_, failsIn_error (trouble_isAbsence wrap fault)⟩
        rw [hpath, hcut, interrupted_error, trouble_isInterruption]
        simp only [Option.some.injEq, exists_eq_left']
      simp only []
      cases hcame : client.transport (client.requests before) request with
      | error fault => exact hreports _ fault (by rw [hcame, Http.cut])
      | ok response =>
          simp only []
          cases hbroken : response.broken with
          | some fault =>
              rw [judge, hbroken]
              exact hreports _ fault (by rw [hcame, Http.cut, hbroken])
          | none =>
              refine reports_of_failsIn (failsIn_judge hbroken _ _ _) ?_
              rw [hpath, hcame, Http.cut, hbroken]
              simp only [reduceCtorEq, false_and, exists_false, not_false_eq_true]

theorem andThen_result (r : Reply α) (f : α → Reply β) :
    (r.andThen f).result = r.result >>= fun a => (f a).result := by
  unfold Reply.andThen
  cases r.result <;> rfl

theorem record_reports (client : Client) (before : List Call) (path : Text) :
    client.Reports before path (client.record before path).result := by
  unfold record
  rw [andThen_result]
  exact (client.json_reports before path false).bind fun answer => failsIn_data path answer

theorem block_reports (client : Client) (before : List Call) (blockId : Text) :
    client.Reports before (blockPath blockId) (client.block before blockId).result := by
  unfold Client.block
  rw [andThen_result]
  refine (client.json_reports before _ true).bind fun answer => ?_
  -- All that is left to be done is to read the response, and nothing is sent for it.
  split
  · exact failsIn_ok none
  · have hblock := failsIn_blockOf (blockPath blockId) answer
    split
    · rename_i t ht
      exact failsIn_error (hblock t ht)
    · exact failsIn_ok _

theorem sidecars_reports (client : Client) (before : List Call) (blockId : Text) :
    client.Reports before (sidecarsPath blockId) (client.sidecars before blockId).result := by
  unfold Client.sidecars
  rw [andThen_result]
  refine (client.json_reports before _ true).bind fun answer => ?_
  split
  · exact failsIn_ok []
  · have hsidecars : FailsIn Trouble.Ordinary (do
        let d ← data (sidecarsPath blockId) answer
        (sidecarsOf d).mapError (refused (.sidecars (sidecarsPath blockId))) :
          Except Trouble (List Value)) := by
      refine failsIn_bind (failsIn_data _ answer) fun d _ => ?_
      cases sidecarsOf d with
      | ok sidecars => exact failsIn_ok sidecars
      | error fault => exact failsIn_error (refused_ordinary _ fault)
    split
    · rename_i t ht
      exact failsIn_error (hsidecars t ht)
    · exact failsIn_ok _

/-! ### The last request -/

theorem requests_append (client : Client) (calls : List Call) (call : Call) :
    client.requests (calls ++ [call]) = client.requests calls ++ (client.request? call).toList := by
  unfold requests
  rw [List.filterMap_append, List.filterMap_cons]
  cases client.request? call <;> rfl

/-- When no request was interrupted so far, the last one is interrupted exactly if
    the one that a further call makes is. -/
theorem breaksOff_snoc {calls : List Call} {call : Call}
    (hcall : client.request? call = (client.lookUp path).toOption)
    (hcalls : ¬Http.BreaksOff client.transport (client.requests calls)) :
    Http.BreaksOff client.transport (client.requests (calls ++ [call]))
      ↔ client.Interrupts calls path := by
  unfold Interrupts
  rw [requests_append, hcall]
  cases client.lookUp path with
  | error fault =>
      refine iff_of_false ?_ ?_
      · simp only [Except.toOption, Option.toList_none, List.append_nil]
        exact hcalls
      · rintro ⟨request, _, hrequest, -⟩
        exact absurd hrequest (by simp only [reduceCtorEq, not_false_eq_true])
  | ok request =>
      simp only [Except.toOption, Option.toList_some, Except.ok.injEq, exists_and_left,
        exists_eq_left']
      exact Http.breaksOff_append _ _ _

/-! ### Blocks -/

/-- There is a whole response at a path. -/
structure Answers (client : Client) (before : List Call) (path : Text) (request : Http.Request)
    (response : Http.Response) : Prop where
  sent : client.lookUp path = .ok request
  typed : request.url.isTyped = true
  came : client.transport (client.requests before) request = .ok response
  whole : response.broken = none

/-- There is a block at an identifier: the response is a success, and it holds the
    name of a known fork and data that is valid for it. -/
def Offers (client : Client) (before : List Call) (blockId : Text) (block : Block) : Prop :=
  ∃ request response answer version d, client.Answers before (blockPath blockId) request response ∧
    response.isSuccess = true ∧ Content.read response.body = .ok answer ∧
    answer.field? "version" = some (.text version) ∧ answer.field? "data" = some d ∧
    Block.read version d = .ok block

/-- There is no block at an identifier: the status of the response says so, or it
    is a success that holds nothing. -/
def Denies (client : Client) (before : List Call) (blockId : Text) : Prop :=
  ∃ request response, client.Answers before (blockPath blockId) request response ∧
    (response.isAbsent = true ∨
      response.isSuccess = true ∧ Content.read response.body = .ok .null)

theorem content_ok_iff {path : Text} {body : Bytes} {d : Datum} :
    content path body = .ok d ↔ Content.read body = .ok d := by
  unfold content
  cases Content.read body with
  | ok d' => simp only [Except.ok.injEq]
  | error fault =>
      cases fault <;> simp only [failed, reduceCtorEq]

/-- A response that something may be absent from is judged to hold a datum if it
    came whole and says that nothing is there, or holds the datum. -/
theorem judge_ok_iff (path : Text) (request : Http.Request) (response : Http.Response) (d : Datum) :
    judge path true request response = .ok d ↔
      response.broken = none ∧ request.url.isTyped = true ∧
        (response.isAbsent = true ∧ d = .null ∨
          response.isSuccess = true ∧ Content.read response.body = .ok d) := by
  unfold judge
  cases response.broken with
  | some fault => simp only [reduceCtorEq, false_and]
  | none =>
      cases request.url.isTyped with
      | false => simp only [Bool.not_false, if_true, failed, reduceCtorEq, Bool.false_eq_true,
          false_and, and_false]
      | true =>
          simp only [Bool.not_true, Bool.false_eq_true, if_false, Bool.true_and, true_and]
          cases habsent : response.isAbsent with
          | true =>
              -- A status of absence is none of success.
              have hfailure : response.isSuccess = false := by
                rw [Http.Response.isAbsent, decide_eq_true_eq] at habsent
                rw [Http.Response.isSuccess, habsent]
                rfl
              simp only [if_true, Except.ok.injEq, true_and, hfailure, Bool.false_eq_true,
                false_and, or_false, eq_comm]
          | false =>
              cases response.isSuccess with
              | false => simp only [Bool.false_eq_true, if_false, Bool.not_false, if_true, failed,
                  reduceCtorEq, false_and, or_false]
              | true => simp only [Bool.false_eq_true, if_false, Bool.not_true, false_and, true_and,
                  false_or, content_ok_iff]

theorem json_ok_iff (client : Client) (before : List Call) (path : Text) (d : Datum) :
    (client.json before path true).result = .ok d ↔
      ∃ request response, client.Answers before path request response ∧
        (response.isAbsent = true ∧ d = .null ∨
          response.isSuccess = true ∧ Content.read response.body = .ok d) := by
  unfold json Reply.saying
  constructor
  · intro h
    cases hsent : client.lookUp path with
    | error fault =>
        rw [hsent] at h
        exact absurd h (by simp only [Reply.silent, reduceCtorEq, not_false_eq_true])
    | ok request =>
        rw [hsent] at h
        cases hcame : client.transport (client.requests before) request with
        | error fault =>
            simp only [hcame] at h
            exact absurd h (by simp only [Reply.silent, reduceCtorEq, not_false_eq_true])
        | ok response =>
            simp only [hcame] at h
            obtain ⟨hwhole, htyped, hsays⟩ := (judge_ok_iff path request response d).mp h
            exact ⟨request, response, ⟨hsent, htyped, hcame, hwhole⟩, hsays⟩
  · rintro ⟨request, response, hanswers, hsays⟩
    simp only [hanswers.sent, hanswers.came]
    exact (judge_ok_iff path request response d).mpr ⟨hanswers.whole, hanswers.typed, hsays⟩

theorem data_ok_iff {path : Text} {answer d : Datum} :
    data path answer = .ok d ↔ answer.field? "data" = some d := by
  unfold data
  cases answer.field? "data" with
  | none => simp only [failed, reduceCtorEq]
  | some d' => simp only [Except.ok.injEq, Option.some.injEq]

/-- Data that has to be there came in a response. -/
theorem came_of_record_ok {d : Datum} (h : (client.record before path).result = .ok d) :
    ∃ request response, client.transport (client.requests before) request = .ok response := by
  rw [record, andThen_result] at h
  obtain ⟨answer, hanswer, -⟩ := bind_eq_ok_iff.mp h
  unfold json Reply.saying at hanswer
  cases hsent : client.lookUp path with
  | error fault =>
      rw [hsent] at hanswer
      exact absurd hanswer (by simp only [Reply.silent, reduceCtorEq, not_false_eq_true])
  | ok request =>
      simp only [hsent] at hanswer
      cases hcame : client.transport (client.requests before) request with
      | error fault =>
          rw [hcame] at hanswer
          exact absurd hanswer (by simp only [Reply.silent, reduceCtorEq, not_false_eq_true])
      | ok response => exact ⟨request, response, hcame⟩

theorem blockOf_ok_iff {path version : Text} {answer : Datum} {block : Block} :
    blockOf path answer = .ok (version, block) ↔
      ∃ d, answer.field? "version" = some (.text version) ∧ answer.field? "data" = some d ∧
        Block.read version d = .ok block := by
  unfold blockOf
  constructor
  · intro h
    obtain ⟨d, hdata, h⟩ := bind_eq_ok_iff.mp h
    split at h
    · rename_i version' hversion
      split at h
      · rename_i block' hread
        obtain ⟨rfl, rfl⟩ := Prod.mk.inj (Except.ok.inj h)
        exact ⟨d, hversion, data_ok_iff.mp hdata, hread⟩
      · exact absurd h (by simp only [reduceCtorEq, not_false_eq_true])
      · exact absurd h (by simp only [reduceCtorEq, not_false_eq_true])
    · exact absurd h (by simp only [failed, reduceCtorEq, not_false_eq_true])
  · rintro ⟨d, hversion, hdata, hread⟩
    refine bind_eq_ok_iff.mpr ⟨d, data_ok_iff.mpr hdata, ?_⟩
    rw [hversion]
    simp only [hread]
    rfl

/-- The reply is a block exactly if there is one at the identifier. -/
theorem block_some_iff (client : Client) (before : List Call) (blockId : Text) (block : Block) :
    (client.block before blockId).result = .ok (some block) ↔
      client.Offers before blockId block := by
  unfold Client.block Offers
  rw [andThen_result, bind_eq_ok_iff]
  constructor
  · rintro ⟨answer, hanswer, h⟩
    split at h
    · exact absurd (Except.ok.inj h) (by simp only [reduceCtorEq, not_false_eq_true])
    · split at h
      · exact absurd h (by simp only [Reply.silent, reduceCtorEq, not_false_eq_true])
      · rename_i hnull _ version block' hblock
        obtain ⟨d, hversion, hdata, hread⟩ := blockOf_ok_iff.mp hblock
        obtain rfl : block' = block := Option.some.inj (Except.ok.inj h)
        obtain ⟨request, response, hanswers, ⟨-, rfl⟩ | hsuccess⟩ :=
          (client.json_ok_iff before _ answer).mp hanswer
        · -- A status of absence counts as nothing, and no block is read out of it.
          exact absurd rfl hnull
        · exact ⟨request, response, answer, version, d, hanswers, hsuccess.1, hsuccess.2,
            hversion, hdata, hread⟩
  · rintro ⟨request, response, answer, version, d, hanswers, hsuccess, hcontent, hversion, hdata,
      hread⟩
    refine ⟨answer, (client.json_ok_iff before _ answer).mpr
      ⟨request, response, hanswers, Or.inr ⟨hsuccess, hcontent⟩⟩, ?_⟩
    have hblock : blockOf (blockPath blockId) answer = .ok (version, block) :=
      blockOf_ok_iff.mpr ⟨d, hversion, hdata, hread⟩
    split
    · exact absurd hdata (by simp only [Datum.field?, reduceCtorEq, not_false_eq_true])
    · rw [hblock]
      rfl

/-- The reply is that there is no block exactly if there is none at the
    identifier. -/
theorem block_none_iff (client : Client) (before : List Call) (blockId : Text) :
    (client.block before blockId).result = .ok none ↔ client.Denies before blockId := by
  unfold Client.block Denies
  rw [andThen_result, bind_eq_ok_iff]
  constructor
  · rintro ⟨answer, hanswer, h⟩
    split at h
    · obtain ⟨request, response, hanswers, hsays⟩ := (client.json_ok_iff before _ _).mp hanswer
      exact ⟨request, response, hanswers, hsays.imp And.left id⟩
    · split at h
      · exact absurd h (by simp only [Reply.silent, reduceCtorEq, not_false_eq_true])
      · exact absurd (Except.ok.inj h) (by simp only [reduceCtorEq, not_false_eq_true])
  · rintro ⟨request, response, hanswers, hsays⟩
    refine ⟨.null, (client.json_ok_iff before _ _).mpr ⟨request, response, hanswers, ?_⟩, rfl⟩
    exact hsays.imp (fun habsent => ⟨habsent, rfl⟩) id

end Client

end Beacon
