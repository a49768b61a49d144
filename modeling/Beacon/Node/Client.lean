import Beacon.Datum.Content
import Beacon.Event.Frame
import Beacon.Http.Exchange
import Beacon.Node.Basic
import Beacon.Text.Lines

/-!
# Nodes over HTTP

A node that is asked over the standard HTTP interface of beacon nodes. Every
call is one request, at a location under the node's base.

A request is only sent if its location can be written down and its host can be
told. What a response is worth is decided in this order: whether there is one at
all, whether it is complete, whether its location has the form that responses
are filed under, whether its status tells that there is nothing there, whether
its status is success, and whether its body is JSON. Where nothing is allowed to
be there, `null` stands for it; a body that says `null` says the same. Only then
the data is looked at.

An event subscription is read as lines of UTF-8 text for as long as it lasts.

## Main definitions

* `Client`: How a node is reached.
* `Client.request?`: The request of a call.
* `Client.json`: The JSON at a path.
* `Client.spec`, `Client.genesis`, `Client.block`, `Client.sidecars`,
  `Client.events`: The calls.
* `Client.node`: The node that is reached.
-/

namespace Beacon

/-- How a node is reached. -/
structure Client where
  /-- The base location as it was given, without slashes at its end. -/
  address : Text
  /-- The base location. -/
  base : Url
  /-- How requests are carried. -/
  transport : Http.Transport

/-- A text without slashes at its end. -/
def Client.trimmed (address : Text) : Text :=
  (address.reverse.dropWhile (· = .char '/')).reverse

/-- A client for the node at an address. -/
def Client.make (address : Text) (transport : Http.Transport) : Except UrlFault Client := do
  let address := trimmed address
  let base ← (← Url.read address).asBase
  pure ⟨address, base, transport⟩

namespace Reply

/-- What follows from a reply. -/
def andThen {α β : Type} (r : Reply α) (f : α → Reply β) : Reply β :=
  match r.result with
  | .error t => ⟨.error t, r.logs, r.stops⟩
  | .ok a =>
    let next := f a
    ⟨next.result, r.logs ++ next.logs, r.stops || next.stops⟩

/-- A reply with something said before it. -/
def saying {α : Type} (record : Log.Record) (r : Reply α) : Reply α :=
  ⟨r.result, record :: r.logs, r.stops⟩

end Reply

namespace Client

/-! ### Requests -/

/-- The path of the configuration. -/
def specPath : String := "/eth/v1/config/spec"

/-- The path of the genesis. -/
def genesisPath : String := "/eth/v1/beacon/genesis"

/-- The path of a block. -/
def blockPath (blockId : Text) : Text := "/eth/v2/beacon/blocks/" ++ blockId

/-- The path of the sidecars of a block. -/
def sidecarsPath (blockId : Text) : Text := "/eth/v1/beacon/blob_sidecars/" ++ blockId

/-- The path of the events. -/
def eventsPath : String := "/eth/v1/events"

/-- The request for what is at a path. -/
def lookUp (client : Client) (path : Text) : Except UrlFault Http.Request := do
  let url ← client.base.under (← Url.read path)
  url.checkHost
  pure ⟨url, "application/json"⟩

/-- The topics of a subscription as one text. -/
def joined (topics : List Text) : Text := Text.join "," topics

/-- The request for a subscription. -/
def subscription (client : Client) (topics : List Text) : Except UrlFault Http.Request := do
  let url ← client.base.under (← Url.read eventsPath)
  let value ← (Percent.form (joined topics)).mapError .charset
  let url ← url.withQuery ("topics=".toList ++ value)
  url.checkHost
  pure ⟨url, "text/event-stream"⟩

/-- The request of a call, if it makes one. -/
def request? (client : Client) : Call → Option Http.Request
  | .spec => (client.lookUp specPath).toOption
  | .genesis => (client.lookUp genesisPath).toOption
  | .block blockId => (client.lookUp (blockPath blockId)).toOption
  | .sidecars blockId => (client.lookUp (sidecarsPath blockId)).toOption
  | .events topics => (client.subscription topics).toOption
  | .look _ _ => none

/-- The requests of calls, in order. -/
def requests (client : Client) (calls : List Call) : List Http.Request :=
  calls.filterMap client.request?

/-! ### Responses -/

/-- How much of a body is shown. -/
def shownLength : Nat := 200

/-- The start of a body, for show. Whatever a response may say of its charset, the body
    is read as UTF-8, with a replacement for what is none. -/
def excerpt (body : Bytes) : String := String.ofList ((Utf8.decode body).take shownLength)

/-- A failure to fetch. -/
def failed {α : Type} (fault : FetchFault) : Except Trouble α := .error (.failure (.fetch fault))

/-- The trouble with a response that is missing or cut off, `wrap` telling what
    a failing network means. -/
def trouble (wrap : Text → FetchFault) : Http.Fault → Trouble
  | .network message => .failure (.fetch (wrap message))
  | .other kind message => .breakdown (.stated kind message)
  | .interrupted => .breakdown .interrupted

/-- The trouble with a location at a path. That some part of it cannot be written
    down, or the host cannot be told, passes for an answer that is not JSON. -/
def misplaced (path : Text) (fault : UrlFault) : Trouble :=
  if fault.kind.isA .value then .failure (.fetch (.notJson path))
  else .breakdown (.location fault)

/-- The JSON in a body at a path. -/
def content (path : Text) (body : Bytes) : Except Trouble Datum :=
  match Content.read body with
  | .ok d => .ok d
  | .error (.tooDeep opened) => .error (.breakdown (.nesting opened))
  | .error _ => failed (.notJson path)

/-- What a response says at a path. -/
def judge (path : Text) (mayBeAbsent : Bool) (request : Http.Request)
    (response : Http.Response) : Except Trouble Datum :=
  match response.broken with
  | some fault => .error (trouble (.network request.url.text) fault)
  | none =>
    if !request.url.isTyped then failed (.notJson path)
    else if mayBeAbsent && response.isAbsent then .ok .null
    else if !response.isSuccess then failed (.status response.status (excerpt response.body))
    else content path response.body

/-- What is said about a response. -/
def remark (path : Text) (mayBeAbsent : Bool) (request : Http.Request)
    (response : Http.Response) : List Log.Record :=
  if response.broken.isNone && request.url.isTyped && mayBeAbsent && response.isAbsent then
    [Log.debug .client ("GET " ++ path ++ ": not found")]
  else []

/-- The JSON at a path, `null` standing for what is absent where something may
    be. -/
def json (client : Client) (before : List Call) (path : Text) (mayBeAbsent : Bool) :
    Reply Datum :=
  .saying (Log.debug .client ("GET " ++ client.address ++ path)) <|
    match client.lookUp path with
    | .error fault => .silent (.error (misplaced path fault))
    | .ok request => match client.transport (client.requests before) request with
      | .error fault => .silent (.error (trouble (.network request.url.text) fault))
      | .ok response =>
        ⟨judge path mayBeAbsent request response, remark path mayBeAbsent request response, false⟩

/-- The data in an answer. -/
def data (path : Text) (answer : Datum) : Except Trouble Datum :=
  match answer.field? "data" with
  | some d => .ok d
  | none => failed (.noData path)

/-- A fault of what an answer holds: a failure if it is a fault of the node's
    data, and a breakdown otherwise. -/
def refused (wrap : Fault → FetchFault) (fault : Fault) : Trouble :=
  if fault.kind.isA .validation || fault.kind.isA .ssz then .failure (.fetch (wrap fault))
  else .breakdown (.fault fault)

/-! ### Calls -/

/-- The data of an answer that has to be there. -/
def record (client : Client) (before : List Call) (path : Text) : Reply Datum :=
  (client.json before path false).andThen fun answer => .silent (data path answer)

/-- The configuration. -/
def spec (client : Client) (before : List Call) : Reply Datum := client.record before specPath

/-- The genesis. -/
def genesis (client : Client) (before : List Call) : Reply Datum :=
  client.record before genesisPath

/-- The block in an answer, and the name of its fork as the answer gives it. -/
def blockOf (path : Text) (answer : Datum) : Except Trouble (Text × Block) := do
  let d ← data path answer
  match answer.field? "version" with
  | some (.text version) => match Block.read version d with
    | .ok block => pure (version, block)
    | .error (.unknownVersion version) => .error (.failure (.unknownVersion (.text version)))
    | .error (.invalid fault) => .error (refused (.block version path) fault)
  | _ => failed (.noVersion path)

/-- The block of an identifier, if there is one. -/
def block (client : Client) (before : List Call) (blockId : Text) : Reply (Option Block) :=
  let path := blockPath blockId
  (client.json before path true).andThen fun
    | .null => .silent (.ok none)
    | answer => match blockOf path answer with
      | .error t => .silent (.error t)
      | .ok (version, block) =>
        .saying (Log.debug .client ("Fetched " ++ version ++ " block " ++ blockId))
          (.silent (.ok (some block)))

/-- The sidecars in data, from the one of index `n` on. -/
def sidecarsFrom (n : Nat) : List Datum → Except Fault (List Value)
  | [] => .ok []
  | d :: rest =>
    Fault.collect List.cons (Fault.under (.index n) (Sidecar.read d)) (sidecarsFrom (n + 1) rest)

/-- The sidecars in data. -/
def sidecarsOf : Datum → Except Fault (List Value)
  | .list items => sidecarsFrom 0 items
  | .tuple items => sidecarsFrom 0 items
  | _ => .error (Fault.problem .notList)

/-- The sidecars of the block of an identifier. A block that is not there has
    none. -/
def sidecars (client : Client) (before : List Call) (blockId : Text) : Reply (List Value) :=
  let path := sidecarsPath blockId
  (client.json before path true).andThen fun
    | .null => .silent (.ok [])
    | answer => match (do
        let d ← data path answer
        (sidecarsOf d).mapError (refused (.sidecars path)) : Except Trouble (List Value)) with
      | .error t => .silent (.error t)
      | .ok sidecars =>
        .saying
          (Log.debug .client (s!"Fetched {sidecars.length} blob sidecars for " ++ blockId))
          (.silent (.ok sidecars))

/-- The lines of a body, with the line that its end completes if it is all
    there. The body is read as UTF-8, the charset of every stream of events. -/
def lines (body : Bytes) (isWhole : Bool) : List Text :=
  let (cs, pending) := Utf8.decodeFrom none body
  let lines :=
    if isWhole then
      let (lines, state) := Lines.feed .start (cs ++ Utf8.flush pending)
      lines ++ Lines.flush state
    else (Lines.feed .start cs).1
  lines.map Text.ofString

/-- What a response to a subscription delivers. -/
def delivered (topics : List Text) (request : Http.Request) (response : Http.Response) : Feed :=
  if !request.url.isTyped then
    [.trouble (.breakdown (.stated .value
      s!"unknown url type: {Quoted.text request.url.text}"))]
  else if response.isError then
    [.trouble (.failure (.fetch (.subscription response.status (joined topics))))]
  else Frame.feed (lines response.body response.broken.isNone)
    (response.broken.map (trouble .broken))

/-- What a subscription to topics delivers. -/
def events (client : Client) (before : List Call) (topics : List Text) : Feed :=
  .log (Log.debug .client
    ("Subscribing to " ++ joined topics ++ " events at " ++ client.address)) ::
    match client.subscription topics with
    | .error fault => [.trouble (.breakdown (.location fault))]
    | .ok request => match client.transport (client.requests before) request with
      | .error fault => [.trouble (trouble .broken fault)]
      | .ok response => delivered topics request response

/-- The node that is reached. -/
def node (client : Client) : Node where
  spec := client.spec
  genesis := client.genesis
  block := client.block
  sidecars := client.sidecars
  events := client.events

end Client

end Beacon
