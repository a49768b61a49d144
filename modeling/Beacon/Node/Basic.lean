import Beacon.Block.Basic
import Beacon.Event.Basic

/-!
# Nodes

What can be asked of a beacon node: its configuration, its genesis, a block, the
blob sidecars of a block, and a subscription to events. An answer is a result
or a trouble, together with what was said about getting it.

A node changes while it is asked. Its answers are therefore functions of
everything that was asked before, which leaves it free to answer the same
question differently every time. It may also happen that someone tells the
asking service to stop while it waits, and an answer says whether that
happened.

## Main definitions

* `Call`: One thing asked of a node.
* `Reply`: What comes back.
* `Node`: The answers of a node.
-/

namespace Beacon

/-- One thing that passes between a service and its node. -/
inductive Call
  /-- The configuration is asked for. -/
  | spec
  /-- The genesis is asked for. -/
  | genesis
  /-- A block is asked for. -/
  | block (blockId : Text)
  /-- The sidecars of a block are asked for. -/
  | sidecars (blockId : Text)
  /-- A subscription to events of these topics is asked for. -/
  | events (topics : List Text)
  /-- The node's side looks at the service and sees this. -/
  | look (running : Bool) (rendered : Nat)
  deriving DecidableEq, Repr

/-- What comes back from a node. -/
structure Reply (α : Type) where
  /-- What was asked for, or the trouble in its place. -/
  result : Except Trouble α
  /-- What was said about getting it. -/
  logs : List Log.Record
  /-- Whether the asking service was told to stop meanwhile. -/
  stops : Bool

namespace Reply

/-- A reply about which nothing is said. -/
def silent {α : Type} (result : Except Trouble α) : Reply α := ⟨result, [], false⟩

end Reply

/-- The answers of a node, each a function of what was asked before. -/
structure Node where
  /-- The configuration. -/
  spec : List Call → Reply Datum
  /-- The genesis. -/
  genesis : List Call → Reply Datum
  /-- The block of an identifier, if there is one. -/
  block : List Call → Text → Reply (Option Block)
  /-- The sidecars of the block of an identifier. -/
  sidecars : List Call → Text → Reply (List Value)
  /-- What a subscription to topics delivers. -/
  events : List Call → List Text → Feed

end Beacon
