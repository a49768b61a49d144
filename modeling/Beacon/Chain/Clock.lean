import Beacon.Chain.Timing
import Beacon.Time.Expression
import Beacon.Log

/-!
# Slots, Epochs and Time

The arithmetic between Unix seconds, slots and epochs. Slots are integers: a
moment before genesis lies in a negative slot, and every division rounds down.

A time expression is resolved to the slot its moment lies in, and the slot's
decimal text is what names the block to the node. A moment before genesis is
resolved too, with a warning.

## Main definitions

* `Timing.slotAt`, `Timing.epochOf`, `Timing.startOf`: Between time, slots and
  epochs.
* `Timing.localStart`: The local date and time at which a slot starts.
* `Timing.resolve`: The slot of a time expression.
* `Resolution.identifier`: What names the block of the slot.
-/

namespace Beacon

namespace Timing

/-- The slot that a moment lies in. -/
def slotAt (t : Timing) (seconds : Int) : Int :=
  (seconds - t.genesisTime).fdiv t.secondsPerSlot

/-- The epoch of a slot. -/
def epochOf (t : Timing) (slot : Int) : Int := slot.fdiv t.slotsPerEpoch

/-- The moment at which a slot starts. -/
def startOf (t : Timing) (slot : Int) : Int := t.genesisTime + slot * t.secondsPerSlot

/-- The local date and time at which a slot starts. -/
def localStart (t : Timing) (z : Zone) (slot : Int) : Except ClockFault DateTime :=
  z.toLocal (t.startOf slot)

end Timing

/-- A time expression with the moment it names and the slot that lies in. -/
structure Resolution where
  /-- The expression. -/
  expression : Text
  /-- The Unix seconds it names. -/
  seconds : Int
  /-- The slot of that moment. -/
  slot : Int
  deriving DecidableEq, Repr

namespace Resolution

/-- What names the block of the slot to the node. -/
def identifier (r : Resolution) : String := Decimal.signed r.slot

/-- What is said about a resolution. -/
def log (r : Resolution) : List Log.Record :=
  (if r.slot < 0 then
    [Log.warning .resolver
      ("Time " ++ r.expression ++ s!" is before genesis; resolved to slot {r.identifier}")]
  else []) ++
  [Log.debug .resolver
    ("Resolved time " ++ r.expression
      ++ s!" ({Decimal.signed r.seconds}) to slot {r.identifier}")]

end Resolution

namespace Timing

/-- The slot of a time expression. -/
def resolve (t : Timing) (z : Zone) (expression : Text) : Except TimeFault Resolution :=
  (Time.parse z expression).map fun seconds => ⟨expression, seconds, t.slotAt seconds⟩

end Timing

end Beacon
