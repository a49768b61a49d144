import Beacon.Ssz.Presentation

/-!
# Values with Their Types

A value together with its type, as a caller holds it: what it equals, what it
is found under in a set, and what it is made of.

Equality is not the same question for every type. Two numbers are equal when
they are the same number, whatever their widths, and two fixed byte strings
when they hold the same bytes, whatever their names. Any other two values are
equal when they are of one type and have the same contents. Sets look values up
by a key, and there a fixed byte string is kept apart by its type.

Members are numbered from zero, and negative numbers count from the end. A
slice takes members from a start up to a stop by a step, and bounds that are
too large are drawn in rather than refused.

## Main definitions

* `Typed`: A value with its type.
* `Typed.equals`, `Typed.key`: Equality, and the key in a set.
* `Typed.members?`: What a value is made of.
* `Members.get`, `Members.slice`: One member, and a slice of them.
-/

namespace Beacon

/-- A value with its type. -/
structure Typed where
  /-- The type. -/
  type : Schema
  /-- The value. -/
  value : Value
  deriving DecidableEq, Repr

/-- What a value is found under in a set. -/
inductive SetKey
  | number (n : Nat)
  | bytes (type : Schema) (bs : Bytes)
  | whole (type : Schema) (value : Value)
  deriving DecidableEq

/-- What a value is made of. -/
inductive Member
  | value (t : Typed)
  | bit (b : Bool)
  | byte (b : UInt8)

namespace Typed

/-- Whether two values are equal. -/
def equals : Typed → Typed → Bool
  | ⟨.uint _ _, .uint m⟩, ⟨.uint _ _, .uint n⟩ => m = n
  | ⟨.bytes _ _, .bytes a⟩, ⟨.bytes _ _, .bytes b⟩ => a = b
  | a, b => a = b

/-- What a value is found under in a set. -/
def key : Typed → SetKey
  | ⟨.uint _ _, .uint n⟩ => .number n
  | ⟨.bytes name length, .bytes bs⟩ => .bytes (.bytes name length) bs
  | ⟨type, value⟩ => .whole type value

/-- The size of the set of two values. -/
def distinct (a b : Typed) : Nat := if a.equals b ∧ a.key = b.key then 1 else 2

/-- What a value is made of. A number has no parts, and those of a container
    are its fields. -/
def members? : Typed → Option (List Member)
  | ⟨.bytes _ _, .bytes bs⟩ => some (bs.map .byte)
  | ⟨.byteList _ _, .bytes bs⟩ => some (bs.map .byte)
  | ⟨.bitvector _ _, .bits bits⟩ => some (bits.map .bit)
  | ⟨.bitlist _ _, .bits bits⟩ => some (bits.map .bit)
  | ⟨.vector _ element _, .row vs⟩ => some (vs.map fun v => .value ⟨element, v⟩)
  | ⟨.list _ element _, .row vs⟩ => some (vs.map fun v => .value ⟨element, v⟩)
  | _ => none

/-- The number of bits set in a bit string. -/
def countSet? : Typed → Option Nat
  | ⟨.bitvector _ _, .bits bits⟩ => some (bits.count true)
  | ⟨.bitlist _ _, .bits bits⟩ => some (bits.count true)
  | _ => none

/-- The contents of a byte string. -/
def contents? : Typed → Option Bytes
  | ⟨.bytes _ _, .bytes bs⟩ => some bs
  | ⟨.byteList _ _, .bytes bs⟩ => some bs
  | _ => none

/-- Setting any field of a value is refused. -/
def assign (name : Text) : Fault := .invalid [⟨[.field name], .frozen⟩]

end Typed

namespace Members

/-- The member at a place, negative places counting from the end. -/
def get {α : Type} (xs : List α) (place : Int) : Option α :=
  match place with
  | .ofNat n => xs[n]?
  | .negSucc n => if n < xs.length then xs[xs.length - 1 - n]? else none

/-- A bound of a slice of `length` members drawn in to lie between `low` and
    `high`; a negative one counts from the end. -/
def bound (length : Nat) (low high : Int) (given : Int) : Int :=
  let place := if given < 0 then given + length else given
  max low (min high place)

/-- The places `start`, `start + step`, … on the near side of `stop`, of which
    there are at most `fuel`. -/
def places (step stop : Int) : (fuel : Nat) → (start : Int) → List Int
  | 0, _ => []
  | fuel + 1, start =>
    if (0 < step ∧ start < stop) ∨ (step < 0 ∧ stop < start) then
      start :: places step stop fuel (start + step)
    else []

/-- The members from `start` up to `stop` by `step`. A step of zero gives no
    slice. -/
def slice {α : Type} (xs : List α) (start stop step : Option Int) : Option (List α) :=
  let length := xs.length
  let step := step.getD 1
  if step = 0 then none
  else
    let low : Int := if step < 0 then -1 else 0
    let high : Int := if step < 0 then length - 1 else length
    let first := (start.map (bound length low high)).getD (if step < 0 then high else low)
    let last := (stop.map (bound length low high)).getD (if step < 0 then low else high)
    some ((places step last length first).filterMap (get xs))

end Members

end Beacon
