import Beacon.Event.Head
import Beacon.Service.Session

/-!
# Streams and Runs

A run carries out one request. It fetches the block that is asked for and
writes it out; a quiet run only tells whether there is one. When a stream is
asked for, the block of every new head follows, until the events end or the
service is stopped.

Whether the service is stopped is looked at when an event arrives, so that an
event whose handling has begun is always finished. Events of other topics are
passed over. A failure to handle an event is logged or ends the stream, as the
service's policy has it; what is no failure but a breakdown always ends it.

## Main definitions

* `Outcome`: How a run ends when nothing goes wrong.
* `Service.handle`: What is done about one head event.
* `Service.follow`: What is done about a feed.
* `Service.stream`, `Service.run`: A stream and a run.
-/

namespace Beacon

/-- How a run ends when nothing goes wrong. -/
inductive Outcome
  /-- The block was written out, and the stream, if there was one, has ended. -/
  | rendered
  /-- There is a block. -/
  | present
  /-- There is no block. -/
  | absent
  deriving DecidableEq, Repr

namespace Outcome

/-- The name of an outcome. -/
def name : Outcome → String
  | rendered => "rendered"
  | present => "exists"
  | absent => "absent"

end Outcome

namespace Service

/-- The head event that data describes. -/
def head : Datum → Except Trouble HeadEvent := fun data =>
  match HeadEvent.read data with
  | .ok head => .ok head
  | .error (.invalid details) => .error (.failure (.fetch (.headEvent details)))
  | .error fault => .error (.breakdown (.fault fault))

/-- Writes out the block of a head event. -/
def handle (service : Service) (session : Session) (data : Datum) : Act Unit := do
  let head ← settle (Service.head data)
  say [Log.debug .service s!"Head event for slot {Decimal.text head.slot}: {head.blockId}"]
  match ← service.fetch head.blockId true with
  | none => throw (.failure (.empty (some head.blockId)))
  | some block =>
    service.write session block
    if session.mode.separates then emit "\n"

/-- Counts an event as written out. -/
def count : Act Unit := modify fun s => { s with rendered := s.rendered + 1 }

/-- What is done about a failure to handle an event. -/
def recover (service : Service) (failure : Failure) : Act Unit :=
  match service.policy with
  | .logAndContinue => say [Log.warning .service ("Failed to output block: " ++ failure.message)]
  | .raise => throw (.failure failure)

/-- Handles a head event and counts it, or does what is done about a
    failure. -/
def attempt (service : Service) (session : Session) (data : Datum) : Act Unit :=
  tryCatch (do service.handle session data; count) fun
    | .failure failure => service.recover failure
    | t => throw t

/-- Handles what a feed delivers, one item after the other, up to the first
    event that finds the service stopped. -/
def follow (service : Service) (session : Session) : Feed → Act Unit
  | [] => pure ()
  | .stop :: rest => do
    stop
    service.follow session rest
  | .look :: rest => do
    let s ← get
    note (.look s.running s.rendered)
    service.follow session rest
  | .log record :: rest => do
    say [record]
    service.follow session rest
  | .trouble t :: _ => throw t
  | .event event :: rest => do
    if (← get).running then
      if event.topic = ↑HeadEvent.topic then service.attempt session event.data
      service.follow session rest

/-- Subscribes to head events and handles them. -/
def subscribe (service : Service) (session : Session) : Act Unit := do
  let topics := [Text.ofString HeadEvent.topic]
  let feed := service.node.events (← get).calls topics
  note (.events topics)
  service.follow session feed

/-- Writes out the block of every head event until the events end or the
    service is stopped. However it ends, the service is not running after. -/
def stream (service : Service) (session : Session) : Act Unit := do
  setRunning true
  tryCatch (service.subscribe session) fun t => do
    setRunning false
    throw t
  setRunning false

/-- Carries out a request. -/
def run (service : Service) (request : Request) : Act Outcome := do
  let session ← service.session request
  let block? ← service.fetch session.blockId (!request.quiet)
  if request.quiet then
    pure (if block?.isSome then .present else .absent)
  else match block? with
    | none => throw (.failure (.empty (some session.blockId)))
    | some block =>
      service.write session block
      if request.stream then
        if session.mode.separates then emit "\n"
        service.stream session
      pure .rendered

end Service

end Beacon
