import Beacon.Ssz.Presentation
import Beacon.Ssz.Typed

/-!
# Values that Know Their Types

A value as a program holds it has a type at every depth: the whole has one, and so
does each element and each field inside. Where types are all that a value was built by,
these are the types that are declared for the places, and nothing is gained by keeping
them. But a program may put a value that it has already where a value is due, and that
value brings a type of its own. It may be one that is derived from the declared type.

A type is derived from another one when a program says so. It is of the same kind, but
it may set bounds of its own: each fork derives its execution payload from the one before
and adds fields to it.

## Main definitions

* `Instance`: A value with its type, as are the values inside it.
* `Instance.value`, `Instance.typed`: The value alone, and with its own type only.
* `Schema.instantiate`: A value with the types that its type declares.
* `Instance.show`: The value as a person is shown it.
* `Classes`: Which types are derived from which.
-/

namespace Beacon

/-- A value with its type, as are the values inside it. -/
inductive Instance
  | uint (type : Schema) (n : Nat)
  | bytes (type : Schema) (bs : Bytes)
  | bits (type : Schema) (bs : List Bool)
  | row (type : Schema) (items : List Instance)
  deriving Repr, Inhabited

namespace Instance

/-- The type of a value. -/
def type : Instance → Schema
  | .uint type _ => type
  | .bytes type _ => type
  | .bits type _ => type
  | .row type _ => type

mutual

/-- A value without its types. -/
def value : Instance → Value
  | .uint _ n => .uint n
  | .bytes _ bs => .bytes bs
  | .bits _ bs => .bits bs
  | .row _ items => .row (values items)
termination_by structural x => x

/-- The values of a row without their types. -/
def values : List Instance → List Value
  | [] => []
  | x :: xs => x.value :: values xs
termination_by structural xs => xs

end

/-- A value with its own type only. -/
def typed (x : Instance) : Typed := ⟨x.type, x.value⟩

mutual

/-- A value with the names of its types, as it is shown. -/
def «show» : Instance → String
  | .uint type n => type.name ++ "(" ++ Decimal.text n ++ ")"
  | .bytes (.byteList name _) bs => name ++ "(" ++ Quoted.bytes bs ++ ")"
  | .bytes type bs => type.name ++ "(" ++ Hex.text bs ++ ")"
  | .bits type bs => type.name ++ "(" ++ Schema.showRow (bs.map Schema.showBit) ++ ")"
  | .row (.container name fields) items =>
    name ++ "(" ++ String.intercalate ", " (showFields fields items) ++ ")"
  | .row type items => type.name ++ "(" ++ Schema.showRow (showItems items) ++ ")"
termination_by structural x => x

/-- The items of a row as they are shown. -/
def showItems : List Instance → List String
  | [] => []
  | x :: xs => x.show :: showItems xs
termination_by structural xs => xs

/-- The fields of a container, each with its name before it. -/
def showFields : Fields → List Instance → List String
  | .cons name _ rest, x :: xs => (name ++ "=" ++ x.show) :: showFields rest xs
  | _, _ => []
termination_by structural _ xs => xs

end

end Instance

namespace Schema

mutual

/-- A value with the types that its type declares for what is inside it. -/
def instantiate : Schema → Value → Instance
  | .vector name element length, .row vs =>
    .row (.vector name element length) (vs.map element.instantiate)
  | .list name element limit, .row vs =>
    .row (.list name element limit) (vs.map element.instantiate)
  | .container name fields, .row vs => .row (.container name fields) (instantiateAll fields vs)
  | s, .uint n => .uint s n
  | s, .bytes bs => .bytes s bs
  | s, .bits bs => .bits s bs
  | s, .row _ => .row s []

/-- The values of a container's fields, each with the type of its field. -/
def instantiateAll : Fields → List Value → List Instance
  | .cons _ type rest, v :: vs => type.instantiate v :: instantiateAll rest vs
  | _, _ => []

end

end Schema

/-- The types that a program declares, as far as they do not say it themselves. -/
structure Classes where
  /-- Whether a type is another one or is derived from it. -/
  isA : Schema → Schema → Bool
  /-- Every type is itself. -/
  refl : ∀ s, isA s s = true
  /-- Whether a type of sequences names its element type a second time, in its annotation.
      Then its elements are looked at a second time. -/
  annotated : Schema → Bool

end Beacon
