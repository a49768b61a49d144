import Beacon.Event.Basic
import Beacon.Fork.Scalar
import Beacon.Ssz.Reading
import Beacon.Text.Ascii

/-!
# Head Events

The event that announces a new head of the chain. It names the slot, the block
and the state of the new head, and says whether an epoch began with it. Its
data may hold more, which is passed over, because newer nodes extend it.

A truth value is read with some generosity: besides the two values themselves,
the numbers zero and one, and the usual words for yes and no in any case.

## Main definitions

* `HeadEvent`: What a head event says.
* `HeadEvent.read`: A head event from data.
* `HeadEvent.blockId`: What names the new head to the node.
-/

namespace Beacon

/-- What a head event says. -/
structure HeadEvent where
  /-- The slot of the new head. -/
  slot : Nat
  /-- The root of the new head block. -/
  block : Bytes
  /-- The root of the state after it. -/
  state : Bytes
  /-- Whether an epoch began with it. -/
  epochTransition : Bool
  deriving DecidableEq, Repr

namespace HeadEvent

/-- The topic of head events. -/
def topic : String := "head"

/-- The words for no. -/
def noWords : List String := ["0", "off", "f", "false", "n", "no"]

/-- The words for yes. -/
def yesWords : List String := ["1", "on", "t", "true", "y", "yes"]

/-- The truth value of a word. -/
def truthOfWord (cs : List Char) : Except Fault Bool :=
  let word := String.ofList (cs.map Ascii.lower)
  if noWords.contains word then .ok false
  else if yesWords.contains word then .ok true
  else .error (Fault.problem .unclearBool)

/-- A truth value from data. -/
def truth : Datum → Except Fault Bool
  | .bool b => .ok b
  | .int n =>
    if n = 0 then .ok false else if n = 1 then .ok true
    else .error (Fault.problem .unclearBool)
  | .real x =>
    if x.isZero then .ok false else if x.isOne then .ok true
    else .error (Fault.problem .notBool)
  | .text t => if t.isBroken then .error (Fault.problem .brokenText) else truthOfWord t.chars
  | .bytes bs => truthOfWord (bs.map fun b => Char.ofNat b.toNat)
  | _ => .error (Fault.problem .notBool)

/-- A root from data. -/
def root (d : Datum) : Except Fault Bytes :=
  match Schema.bytes32.read d with
  | .ok (.bytes bs) => .ok bs
  | .ok _ => .error (.foreign Schema.bytes32.name)
  | .error fault => .error fault

/-- A field that may be missing. -/
def optional {α : Type} (name : String) (absent : α) (check : Datum → Except Fault α)
    (given : List (Text × Datum)) : Except Fault α :=
  match given.lookup ↑name with
  | some d => Fault.under (.field name) (check d)
  | none => .ok absent

/-- A head event from data. -/
def read : Datum → Except Fault HeadEvent
  | .record given =>
    Fault.collect (fun (slot, block) (state, transition) => ⟨slot, block, state, transition⟩)
      (Fault.collect Prod.mk (Fault.required "slot" (Number.read "Uint64" 64) given)
        (Fault.required "block" root given))
      (Fault.collect Prod.mk (Fault.required "state" root given)
        (optional "epoch_transition" false truth given))
  | _ => .error (Fault.problem (.notRecord "HeadEvent"))

/-- What names the new head block to the node: its root as lowercase hex. -/
def blockId (h : HeadEvent) : String := Hex.marked h.block

end HeadEvent

end Beacon
