import Beacon.Bytes.Basic
import Beacon.Ssz.Schema

/-!
# SSZ Values

A value is a number, a byte string, a bit string or a row of values; the type
it belongs to is told apart from it. Nothing in a value repeats what its type
says: the value of a container is the row of its fields' values in their
order, without names.

A value belongs to a type when it respects every bound of it at every depth.
That is `Schema.Admits`, and it is what each way of building a value has to
establish.

## Main definitions

* `Value`: A value.
* `Schema.Admits`: A value belongs to a type.
-/

namespace Beacon

/-- A value of some SSZ type. -/
inductive Value
  | uint (n : Nat)
  | bytes (bs : Bytes)
  | bits (bs : List Bool)
  | row (items : List Value)
  deriving Repr, Inhabited

namespace Value

mutual

/-- Whether two values are the same. -/
def same : Value → Value → Bool
  | .uint m, .uint n => m = n
  | .bytes a, .bytes b => a = b
  | .bits a, .bits b => a = b
  | .row a, .row b => sameRows a b
  | _, _ => false
termination_by structural v => v

/-- Whether two rows hold the same values in the same order. -/
def sameRows : List Value → List Value → Bool
  | [], [] => true
  | v :: vs, w :: ws => same v w && sameRows vs ws
  | _, _ => false
termination_by structural vs => vs

end

mutual

/-- `same` finds out equality. -/
theorem same_iff : ∀ v w : Value, same v w = true ↔ v = w
  | .uint m, .uint n => by simp [same]
  | .bytes a, .bytes b => by simp [same]
  | .bits a, .bits b => by simp [same]
  | .row a, .row b => by simp [same, sameRows_iff a b]
  | .uint _, .bytes _ | .uint _, .bits _ | .uint _, .row _
  | .bytes _, .uint _ | .bytes _, .bits _ | .bytes _, .row _
  | .bits _, .uint _ | .bits _, .bytes _ | .bits _, .row _
  | .row _, .uint _ | .row _, .bytes _ | .row _, .bits _ => by simp [same]

/-- `sameRows` finds out equality. -/
theorem sameRows_iff : ∀ vs ws : List Value, sameRows vs ws = true ↔ vs = ws
  | [], [] => by simp [sameRows]
  | v :: vs, w :: ws => by simp [sameRows, same_iff v w, sameRows_iff vs ws]
  | [], _ :: _ | _ :: _, [] => by simp [sameRows]

end

instance : DecidableEq Value := fun v w =>
  decidable_of_iff (same v w = true) (same_iff v w)

end Value

namespace Schema

mutual

/-- A value belongs to a type: it is of the type's shape and respects the
    type's bounds, and so does every value in it. -/
def Admits : Schema → Value → Prop
  | .uint _ bits, .uint n => n < Nat.pow 2 bits
  | .bytes _ length, .bytes bs => bs.length = length
  | .byteList _ limit, .bytes bs => bs.length ≤ limit
  | .bitvector _ length, .bits bs => bs.length = length
  | .bitlist _ limit, .bits bs => bs.length ≤ limit
  | .vector _ element length, .row vs => vs.length = length ∧ ∀ v ∈ vs, element.Admits v
  | .list _ element limit, .row vs => vs.length ≤ limit ∧ ∀ v ∈ vs, element.Admits v
  | .container _ fields, .row vs => AdmitsAll fields vs
  | _, _ => False

/-- The values of a row belong to the types of the fields, one each. -/
def AdmitsAll : Fields → List Value → Prop
  | .nil, [] => True
  | .cons _ type rest, v :: vs => type.Admits v ∧ AdmitsAll rest vs
  | _, _ => False

end

end Schema

end Beacon
