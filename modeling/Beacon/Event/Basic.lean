import Beacon.Failure.Basic
import Beacon.Log

/-!
# Events and Feeds

An event of a node has a topic and data. A feed is what a subscription
delivers, in order, up to its end: events, what is said on the way, the
trouble that breaks it, and what happens to its reader meanwhile, who may be
told to stop and may be looked at.

A reader takes a feed item by item and never reaches what comes after a
trouble.

## Main definitions

* `Event`: A topic and data.
* `Feed.Item`, `Feed`: What a subscription delivers.
* `Feed.read`: Everything a patient reader gets out of a feed.
-/

namespace Beacon

/-- An event of a node. -/
structure Event where
  /-- What it is about. -/
  topic : Text
  /-- What it says. -/
  data : Datum
  deriving Repr

namespace Feed

/-- One thing that a subscription delivers. -/
inductive Item
  /-- An event. -/
  | event (e : Event)
  /-- Something said on the way. -/
  | log (r : Log.Record)
  /-- The reader is told to stop. -/
  | stop
  /-- The reader is looked at. -/
  | look
  /-- The subscription breaks. -/
  | trouble (t : Trouble)
  deriving Repr

end Feed

/-- What a subscription delivers, in order. -/
abbrev Feed := List Feed.Item

namespace Feed

/-- What a reader gets out of a feed. -/
structure Result where
  /-- The events, in order. -/
  events : List Event
  /-- The trouble that broke it. -/
  broken : Option Trouble
  /-- What was said on the way. -/
  logs : List Log.Record

/-- Everything that a reader who never stops gets out of a feed. -/
def read : Feed → Result
  | [] => ⟨[], none, []⟩
  | .trouble t :: _ => ⟨[], some t, []⟩
  | .event e :: rest =>
    let r := read rest
    ⟨e :: r.events, r.broken, r.logs⟩
  | .log record :: rest =>
    let r := read rest
    ⟨r.events, r.broken, record :: r.logs⟩
  | _ :: rest => read rest

end Feed

end Beacon
