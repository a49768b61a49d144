import Beacon.Proofs.Datum.RoundTrip
import Beacon.Proofs.Node.Client
import Beacon.Proofs.Ssz.Reading

/-!
# Failures at the Boundary

What comes out of a client when nothing is known of what comes in.

A node may answer anything at all: any status, any bytes in the body, any JSON in
the bytes, anything in place of the record, the data and the name of the fork that
are due. Two things are taken for granted. The transport fails only in the way that
networks fail, and parsing JSON does not go too deep to come back. Then every call
ends in a result or in a failure to fetch, except that a fork which is not known is
reported under a failure of its own, and that one only by a whole response that
holds data next to the name.

There are four ways out of a call, one after the other: the location, the response,
its JSON and the data in it. Each of them turns its faults into failures to fetch
for faults of certain kinds only, so for each of them it has to be seen that there
are no faults of other kinds. For the data this is `Schema.failsIn_read`.

## Main definitions

* `Trouble.IsFetch`: A trouble is a failure to fetch.
* `Http.Orderly`: A transport fails only in the way that networks fail.
* `Client.Locates`: A path makes a location.
* `Client.Misnames`: A response names a fork that is not known.

## Theorems

* `Client.json_failsIn`: Getting JSON fails only to fetch it.
* `Client.blockOf_failsIn`, `Client.sidecarsOf_failsIn`: So does reading it.
* `Client.calls_failsIn`: Every call ends in a result or in a failure that is
  foreseen for it.
-/

namespace Beacon

open Outcome

/-- A trouble is a failure to fetch. -/
def Trouble.IsFetch (t : Trouble) : Prop := ∃ fault, t = .failure (.fetch fault)

theorem Trouble.isFetch_fetch (fault : FetchFault) : IsFetch (.failure (.fetch fault)) :=
  ⟨fault, rfl⟩

open Trouble (IsFetch isFetch_fetch)

/-- A transport fails only in the way that networks fail, and no response of it holds
    JSON that is nested too deep to be parsed. -/
structure Http.Orderly (transport : Http.Transport) : Prop where
  faults : ∀ {before request fault}, Http.cut (transport before request) = some fault →
    ∃ message, fault = .network message
  bodies : ∀ {before request response}, transport before request = .ok response →
    ∀ opened, Content.read response.body ≠ .error (.tooDeep opened)

namespace Client

variable {client : Client} {before : List Call} {path blockId : Text}

/-- A path makes a location under the base of a client. That some part of it cannot
    be written down is another matter. -/
def Locates (client : Client) (path : Text) : Prop :=
  ∀ fault, client.lookUp path = .error fault → fault.kind ≠ .location

/-- The response at an identifier is a success that holds data next to the name of a
    fork, and no fork of that name is known. -/
def Misnames (client : Client) (before : List Call) (blockId version : Text) : Prop :=
  ∃ request response answer d, client.Answers before (blockPath blockId) request response ∧
    response.isSuccess = true ∧ Content.read response.body = .ok answer ∧
    answer.field? "version" = some (.text version) ∧ answer.field? "data" = some d ∧
    Fork.ofName? version.legible = none

/-! ### Getting a response -/

theorem isFetch_misplaced {fault : UrlFault} (h : fault.kind ≠ .location) (path : Text) :
    (misplaced path fault).IsFetch := by
  have hvalue : fault.kind.isA .value = true := by
    cases fault with
    | charset _ => rfl
    | label fault => cases fault <;> rfl
    | _ => exact absurd rfl h
  unfold misplaced
  rw [if_pos hvalue]
  exact isFetch_fetch _

/-- Judging a response fails only to fetch what is at the path. -/
theorem judge_failsIn {transport : Http.Transport} (horderly : Http.Orderly transport)
    {requests : List Http.Request} {request : Http.Request} {response : Http.Response}
    (hcame : transport requests request = .ok response) (path : Text) (mayBeAbsent : Bool) :
    FailsIn IsFetch (judge path mayBeAbsent request response) := by
  unfold judge
  cases hbroken : response.broken with
  | some fault =>
      obtain ⟨message, rfl⟩ := horderly.faults
        (show Http.cut (transport requests request) = some fault by rw [hcame, Http.cut, hbroken])
      exact failsIn_error (isFetch_fetch _)
  | none =>
      simp only []
      split
      · exact failsIn_error (isFetch_fetch _)
      split
      · exact failsIn_ok _
      split
      · exact failsIn_error (isFetch_fetch _)
      unfold content
      split
      · exact failsIn_ok _
      · rename_i opened hdeep
        exact absurd hdeep (horderly.bodies hcame opened)
      · exact failsIn_error (isFetch_fetch _)

/-- Getting the JSON at a path fails only to fetch it. -/
theorem json_failsIn (horderly : Http.Orderly client.transport) (hpath : client.Locates path)
    (before : List Call) (mayBeAbsent : Bool) :
    FailsIn IsFetch (client.json before path mayBeAbsent).result := by
  unfold json Reply.saying
  cases hlook : client.lookUp path with
  | error fault => exact failsIn_error (isFetch_misplaced (hpath fault hlook) path)
  | ok request =>
      simp only []
      cases hcame : client.transport (client.requests before) request with
      | error fault =>
          obtain ⟨message, rfl⟩ := horderly.faults (by rw [hcame, Http.cut])
          exact failsIn_error (isFetch_fetch _)
      | ok response => exact judge_failsIn horderly hcame path mayBeAbsent

/-! ### Reading what is in it -/

theorem data_failsIn (path : Text) (answer : Datum) : FailsIn IsFetch (data path answer) := by
  unfold data
  split
  · exact failsIn_ok _
  · exact failsIn_error (isFetch_fetch _)

/-- Data that was refused is a failure to fetch. -/
theorem isFetch_refused (wrap : Fault → FetchFault) {fault : Fault} (h : fault.OfData) :
    (refused wrap fault).IsFetch := by
  have hkind : (fault.kind.isA .validation || fault.kind.isA .ssz) = true := h
  unfold refused
  rw [if_pos hkind]
  exact isFetch_fetch _

/-- Reading a block out of an answer fails to fetch it, or for want of a fork of the
    name that stands next to the data. -/
theorem blockOf_failsIn (path : Text) (answer : Datum) :
    FailsIn (fun t => t.IsFetch ∨ ∃ version d, t = .failure (.unknownVersion (.text version)) ∧
      answer.field? "version" = some (.text version) ∧ answer.field? "data" = some d ∧
      Fork.ofName? version.legible = none) (blockOf path answer) := by
  unfold blockOf
  refine failsIn_bind (fun t ht => .inl (data_failsIn path answer t ht)) fun d hd => ?_
  split
  · rename_i version hversion
    cases hread : Block.read version d with
    | ok block => exact failsIn_ok _
    | error fault =>
        unfold Block.read at hread
        split at hread
        · rename_i hname
          obtain rfl := Except.error.inj hread
          exact failsIn_error (.inr ⟨version, d, rfl, hversion, data_ok_iff.mp hd, hname⟩)
        · rename_i fork _
          split at hread
          · exact absurd hread (by simp only [reduceCtorEq, not_false_eq_true])
          · rename_i fault' hfault
            obtain rfl := Except.error.inj hread
            have hdata := Schema.failsIn_read _ d (Schema.signedBlock_wellFormed fork) fault' hfault
            exact failsIn_error (.inl (isFetch_refused _ hdata))
  · exact failsIn_error (.inl (isFetch_fetch _))

theorem sidecarsFrom_failsIn (n : Nat) (items : List Datum) :
    FailsIn Fault.OfData (sidecarsFrom n items) := by
  induction items generalizing n with
  | nil => exact failsIn_ok []
  | cons d rest ih =>
      have hsidecar := Schema.failsIn_read _ d Schema.blobSidecar_wellFormed
      exact Fault.ofData_collect (Fault.ofData_under hsidecar) (ih (n + 1))

/-- Reading sidecars only refuses data. -/
theorem sidecarsOf_failsIn (d : Datum) : FailsIn Fault.OfData (sidecarsOf d) := by
  unfold sidecarsOf
  split
  · exact sidecarsFrom_failsIn 0 _
  · exact sidecarsFrom_failsIn 0 _
  · exact failsIn_error (Fault.ofData_invalid _)

/-! ### Calls -/

theorem record_failsIn (horderly : Http.Orderly client.transport) (hpath : client.Locates path)
    (before : List Call) : FailsIn IsFetch (client.record before path).result := by
  unfold record
  rw [andThen_result]
  exact failsIn_bind (json_failsIn horderly hpath before false) fun answer _ =>
    data_failsIn path answer

theorem sidecars_failsIn (horderly : Http.Orderly client.transport)
    (hpath : client.Locates (sidecarsPath blockId)) (before : List Call) :
    FailsIn IsFetch (client.sidecars before blockId).result := by
  unfold Client.sidecars
  rw [andThen_result]
  refine failsIn_bind (json_failsIn horderly hpath before true) fun answer _ => ?_
  split
  · exact failsIn_ok []
  have hsidecars : FailsIn IsFetch (do
      let d ← data (sidecarsPath blockId) answer
      (sidecarsOf d).mapError (refused (.sidecars (sidecarsPath blockId))) :
        Except Trouble (List Value)) := by
    refine failsIn_bind (data_failsIn _ answer) fun d _ => ?_
    exact failsIn_mapError (sidecarsOf_failsIn d) fun fault => isFetch_refused _
  split
  · rename_i t ht
    exact failsIn_error (hsidecars t ht)
  · exact failsIn_ok _

theorem block_failsIn (horderly : Http.Orderly client.transport)
    (hpath : client.Locates (blockPath blockId)) (before : List Call) :
    FailsIn (fun t => t.IsFetch ∨ ∃ version, t = .failure (.unknownVersion (.text version)) ∧
      client.Misnames before blockId version) (client.block before blockId).result := by
  unfold Client.block
  rw [andThen_result]
  refine failsIn_bind (fun t ht => .inl (json_failsIn horderly hpath before true t ht))
    fun answer hanswer => ?_
  split
  · exact failsIn_ok none
  rename_i hsome
  split
  · rename_i t ht
    refine failsIn_error ((blockOf_failsIn _ answer t ht).imp_right ?_)
    rintro ⟨version, d, rfl, hversion, hdata, hname⟩
    obtain ⟨request, response, hanswers, ⟨-, rfl⟩ | ⟨hsuccess, hcontent⟩⟩ :=
      (client.json_ok_iff before _ answer).mp hanswer
    · exact absurd rfl hsome
    · exact ⟨version, rfl, request, response, answer, d, hanswers, hsuccess, hcontent, hversion,
        hdata, hname⟩
  · exact failsIn_ok _

/-- A fork that is not known is reported by its name. -/
theorem block_of_misnames {version : Text} (h : client.Misnames before blockId version) :
    (client.block before blockId).result = .error (.failure (.unknownVersion (.text version))) := by
  obtain ⟨request, response, answer, d, hanswers, hsuccess, hcontent, hversion, hdata, hname⟩ := h
  have hjson := (client.json_ok_iff before _ answer).mpr
    ⟨request, response, hanswers, .inr ⟨hsuccess, hcontent⟩⟩
  have hblock : blockOf (blockPath blockId) answer
      = .error (.failure (.unknownVersion (.text version))) := by
    rw [blockOf, data_ok_iff.mpr hdata, ok_bind, hversion]
    simp only [Block.read, hname]
  unfold Client.block
  rw [andThen_result, hjson, ok_bind]
  split
  · exact absurd hdata (by simp only [Datum.field?, reduceCtorEq, not_false_eq_true])
  · rw [hblock]
    rfl

/-- Whatever an orderly transport brings, every call at a location ends in a result or
    in a failure to fetch. There is one exception: a block of a fork that is not known
    has a failure of its own, and it has it exactly if a whole response is a success
    that holds data next to a name that is none of a fork. -/
theorem calls_failsIn (client : Client) (horderly : Http.Orderly client.transport)
    (before : List Call) (blockId : Text) :
    (client.Locates specPath → FailsIn IsFetch (client.spec before).result) ∧
    (client.Locates genesisPath → FailsIn IsFetch (client.genesis before).result) ∧
    (client.Locates (sidecarsPath blockId) →
      FailsIn IsFetch (client.sidecars before blockId).result) ∧
    (client.Locates (blockPath blockId) →
      FailsIn (fun t => t.IsFetch ∨ ∃ version, t = .failure (.unknownVersion (.text version)) ∧
        client.Misnames before blockId version) (client.block before blockId).result) ∧
    ∀ version, client.Misnames before blockId version → (client.block before blockId).result
      = .error (.failure (.unknownVersion (.text version))) := by
  refine ⟨?_, ?_, ?_, ?_, ?_⟩
  · exact fun hpath => record_failsIn horderly hpath before
  · exact fun hpath => record_failsIn horderly hpath before
  · exact fun hpath => sidecars_failsIn horderly hpath before
  · exact fun hpath => block_failsIn horderly hpath before
  · exact fun version => block_of_misnames

/-- A path that was put together to a request makes a location. -/
theorem locates_of_lookUp (h : (client.lookUp path).toOption.isSome = true) :
    client.Locates path := by
  intro fault hfault
  rw [hfault] at h
  exact absurd h Bool.false_ne_true

/-- A node that replies to everything with data that is an empty list, under the name
    of a fork that came later. It has a configuration and a genesis of a sort, there
    are no sidecars, and the block is reported to be of a fork that is not known. -/
theorem calls_failsIn_later_fork :
    let answer : Datum := .record [("data", .list []), ("version", .text "osaka")]
    let body : Bytes := answer.write.map fun c => UInt8.ofNat c.toNat
    let transport : Http.Transport := fun _ _ => .ok ⟨200, body, none⟩
    let base : Url := ⟨"http".toList, [], "localhost", some 5052, [], none, none⟩
    let client : Client := ⟨"http://localhost:5052", base, transport⟩
    Http.Orderly client.transport ∧ client.Locates specPath ∧ client.Locates genesisPath ∧
      client.Locates (sidecarsPath "head") ∧ client.Locates (blockPath "head") ∧
      client.Misnames [] "head" "osaka" ∧
      FailsIn IsFetch (client.spec []).result ∧ FailsIn IsFetch (client.genesis []).result ∧
      FailsIn IsFetch (client.sidecars [] "head").result ∧
      FailsIn (fun t => t.IsFetch ∨ ∃ version, t = .failure (.unknownVersion (.text version)) ∧
        client.Misnames [] "head" version) (client.block [] "head").result ∧
      (client.block [] "head").result = .error (.failure (.unknownVersion (.text "osaka"))) := by
  intro answer body transport base client
  have htextual : Datum.Textual Datum.maxDepth answer := by
    refine .record (by decide) ?_ ?_
    · rintro field (_ | ⟨_, _ | ⟨_, ⟨⟩⟩⟩)
      exacts [⟨"data", rfl⟩, ⟨"version", rfl⟩]
    · rintro field (_ | ⟨_, _ | ⟨_, ⟨⟩⟩⟩)
      exacts [.list fun d hd => absurd hd List.not_mem_nil, .text "osaka"]
  have htext : Content.text? (Content.coding body).1 (Content.coding body).2
      = some (Text.ofString answer.compact) := by
    decide +kernel
  have hcontent : Content.read body = .ok answer := by
    simp only [Content.read, htext, Datum.parse_eq_parseWithin, Datum.parseWithin_compact htextual]
  have horderly : Http.Orderly client.transport := by
    constructor
    · intro before request fault hcut
      exact absurd hcut (by simp only [client, transport, Http.cut, reduceCtorEq,
        not_false_eq_true])
    · intro before request response hcame opened
      rw [← Except.ok.inj hcame, hcontent]
      simp only [ne_eq, reduceCtorEq, not_false_eq_true]
  have hspec : client.Locates specPath := locates_of_lookUp (by decide +kernel)
  have hgenesis : client.Locates genesisPath := locates_of_lookUp (by decide +kernel)
  have hsidecars : client.Locates (sidecarsPath "head") := locates_of_lookUp (by decide +kernel)
  have hblock : client.Locates (blockPath "head") := locates_of_lookUp (by decide +kernel)
  have htyped : (client.lookUp (blockPath "head")).toOption.map (fun request =>
      request.url.isTyped) = some true := by
    decide +kernel
  have hmisnames : client.Misnames [] "head" "osaka" := by
    cases hlook : client.lookUp (blockPath "head") with
    | error fault =>
        rw [hlook] at htyped
        exact absurd htyped (by simp only [Except.toOption, Option.map_none, reduceCtorEq,
          not_false_eq_true])
    | ok request =>
        rw [hlook] at htyped
        have hanswers : client.Answers [] (blockPath "head") request ⟨200, body, none⟩ :=
          ⟨hlook, Option.some.inj htyped, rfl, rfl⟩
        exact ⟨request, _, answer, .list [], hanswers, rfl, hcontent, rfl, rfl, by decide⟩
  obtain ⟨hs, hg, hc, hb, hm⟩ := calls_failsIn client horderly [] "head"
  exact ⟨horderly, hspec, hgenesis, hsidecars, hblock, hmisnames, hs hspec, hg hgenesis,
    hc hsidecars, hb hblock, hm "osaka" hmisnames⟩

end Client

end Beacon
