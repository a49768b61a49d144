import Beacon.Report.Render
import Beacon.Service.Request
import Beacon.Service.State

/-!
# Sessions

A request bound to the timing of the network it is about. The timing is read
from the node when the session begins and stays what it is; a request that
names its block by a time has the time resolved then, so that from there on
every block has an identifier.

Fetching a block fetches the sidecars of a Deneb block too, unless it is only
asked whether there is a block. A block is rendered as a whole before anything
of it is written, so that a failure leaves no part of it behind.

## Main definitions

* `Service`: A node and how to work with it.
* `Session`: A request bound to a network.
* `Service.timing`, `Service.session`: Beginning a session.
* `Service.fetch`, `Service.write`: Getting a block and writing it out.
-/

namespace Beacon

/-- What is done when an event of a stream cannot be handled. -/
inductive EventPolicy
  /-- The failure is logged, and the stream goes on. -/
  | logAndContinue
  /-- The stream ends with the failure. -/
  | raise
  deriving DecidableEq, Repr

/-- A node and how to work with it. -/
structure Service where
  /-- The node. -/
  node : Node
  /-- The local zone. -/
  zone : Zone
  /-- What is done about events that cannot be handled. -/
  policy : EventPolicy

/-- A request bound to a network. -/
structure Session where
  /-- The request. -/
  request : Request
  /-- The timing of the network. -/
  timing : Timing
  /-- What names the block that is asked for, times being resolved. -/
  blockId : Text
  deriving DecidableEq, Repr

namespace Session

/-- The output mode of a session. -/
def mode (session : Session) : Mode := session.request.mode

/-- What blocks are rendered against. -/
def renderer (session : Session) (zone : Zone) : Renderer :=
  ⟨zone, session.timing, session.request.verbose⟩

end Session

namespace Service

/-- The timing of the node's network. -/
def timing (service : Service) : Act Timing := do
  let spec ← onFetchFault (ask .spec service.node.spec) fun fault =>
    .config (.unreachable "configuration" fault.message)
  let genesis ← onFetchFault (ask .genesis service.node.genesis) fun fault =>
    .config (.unreachable "genesis" fault.message)
  match Timing.ofNode spec genesis with
  | .ok timing => pure timing
  | .error fault => throw fault.trouble

/-- The identifier of the block that a target names. -/
def identifier (service : Service) (timing : Timing) : Target → Act Text
  | .identifier blockId => pure blockId
  | .moment expression => match timing.resolve service.zone expression with
    | .ok resolution => do
      say resolution.log
      pure resolution.identifier
    | .error fault => throw fault.trouble

/-- A session for a request. -/
def session (service : Service) (request : Request) : Act Session := do
  let timing ← service.timing
  let blockId ← service.identifier timing request.target
  pure ⟨request, timing, blockId⟩

/-- The block of an identifier, if there is one. A Deneb block is given its
    sidecars unless they are not wanted. -/
def fetch (service : Service) (blockId : Text) (withSidecars : Bool) : Act (Option Block) := do
  match ← ask (.block blockId) (service.node.block · blockId) with
  | some (.deneb signed held) =>
    if withSidecars then
      let sidecars ← onFetchFault (ask (.sidecars blockId) (service.node.sidecars · blockId))
        fun fault => .fetch (.blobs fault.message)
      pure (some (.deneb signed sidecars))
    else pure (some (.deneb signed held))
  | block => pure block

/-- Writes a block out, all of it or nothing. -/
def write (service : Service) (session : Session) (block : Block) : Act Unit := do
  say (Renderer.log block session.mode)
  let text ← settle ((session.renderer service.zone).render block session.mode)
  emit text

end Service

end Beacon
