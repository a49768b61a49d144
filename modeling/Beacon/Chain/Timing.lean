import Beacon.Ssz.Reading

/-!
# The Timing of a Network

The three parameters that relate slots to time: when slot zero began, how long
a slot lasts, and how many slots an epoch has. The two divisors are positive,
and a timing carries the proofs.

The node states them in two answers, under names of its own. The names are
looked up first, the genesis time before the other two, and only then are the
three values checked, all of them.

## Main definitions

* `Timing`: The timing of a network.
* `TimingFault`: Why a node's answers give no timing.
* `Timing.read`: A timing from data under its own field names.
* `Timing.ofNode`: A timing from a node's answers.
-/

namespace Beacon

/-- The timing of a network. -/
structure Timing where
  /-- Unix time at which slot zero began. -/
  genesisTime : Nat
  /-- Length of a slot in seconds. -/
  secondsPerSlot : Nat
  /-- Number of slots in an epoch. -/
  slotsPerEpoch : Nat
  /-- A slot takes time. -/
  secondsPerSlot_pos : 0 < secondsPerSlot
  /-- An epoch has slots. -/
  slotsPerEpoch_pos : 0 < slotsPerEpoch
  deriving DecidableEq, Repr

/-- Why a node's answers give no timing. -/
inductive TimingFault
  /-- A name is not there. -/
  | lacks (key : String)
  /-- The values were refused. -/
  | invalid (details : List Detail)
  /-- An answer, of this type, is nothing in which names are looked up. -/
  | unnamed (given : Datum)
  deriving Repr

namespace Timing

/-- The number of bits a parameter has. -/
def bits : Nat := 64

/-- A parameter from data. -/
def number (d : Datum) : Except Fault Nat := Number.read "Uint64" bits d

/-- A parameter from data that has to be positive. -/
def positive (d : Datum) : Except Fault { n : Nat // 0 < n } := do
  let n ← number d
  if h : 0 < n then pure ⟨n, h⟩ else .error (Fault.problem (.refused .notPositive))

/-- The names of the parameters. -/
def names : List String := ["genesis_time", "seconds_per_slot", "slots_per_epoch"]

/-- A timing from fields under its own names. -/
def ofFields (given : List (Text × Datum)) : Except Fault Timing :=
  let divisors := Fault.collect Prod.mk (Fault.required "seconds_per_slot" positive given)
    (Fault.required "slots_per_epoch" positive given)
  Fault.closed names given
    (Fault.collect (fun genesis (perSlot, perEpoch) =>
        ⟨genesis, perSlot.1, perEpoch.1, perSlot.2, perEpoch.2⟩)
      (Fault.required "genesis_time" number given) divisors)

/-- A timing from data under its own field names. -/
def read : Datum → Except Fault Timing
  | .record given => ofFields given
  | _ => .error (Fault.problem (.notRecord "NetworkTiming"))

/-- What stands under a name in a node's answer. -/
def lookUp (key : String) : Datum → Except TimingFault Datum
  | .record fields => match fields.lookup ↑key with
    | some d => .ok d
    | none => .error (.lacks key)
  | d => .error (.unnamed d)

/-- A timing from a node's configuration and its genesis. -/
def ofNode (spec genesis : Datum) : Except TimingFault Timing := do
  let genesisTime ← lookUp "genesis_time" genesis
  let perSlot ← lookUp "SECONDS_PER_SLOT" spec
  let perEpoch ← lookUp "SLOTS_PER_EPOCH" spec
  match ofFields [("genesis_time", genesisTime), ("seconds_per_slot", perSlot),
      ("slots_per_epoch", perEpoch)] with
  | .ok t => pure t
  | .error fault => .error (.invalid fault.details)

end Timing

end Beacon
