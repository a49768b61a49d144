import Beacon.Ssz.Typed

/-!
# Reaching into Containers

A part of a container is reached by a path of field names. What stands there is
then taken for what its type says it is: a number, bytes, bits or the items of
a sequence. A path that leads nowhere, or to something else, gives the empty
answer of its kind, so that a report on a block is a plain function of it.

## Main definitions

* `Typed.field?`, `Typed.at?`: A field, and what a path leads to.
* `Typed.number`, `Typed.content`, `Typed.bitsAt`, `Typed.items`: What stands
  at the end of a path.
-/

namespace Beacon

namespace Fields

/-- The value of the field of a name. -/
def find? (name : String) : Fields → List Value → Option Typed
  | .cons n type rest, v :: vs => if n = name then some ⟨type, v⟩ else find? name rest vs
  | _, _ => none

end Fields

namespace Typed

/-- A field of a container. -/
def field? (name : String) : Typed → Option Typed
  | ⟨.container _ fields, .row vs⟩ => fields.find? name vs
  | _ => none

/-- What a path of field names leads to. -/
def at? : List String → Typed → Option Typed
  | [], t => some t
  | name :: path, t => (t.field? name).bind (at? path)

/-- The number a path leads to. -/
def number (t : Typed) (path : List String) : Nat :=
  match t.at? path with
  | some ⟨_, .uint n⟩ => n
  | _ => 0

/-- The bytes a path leads to. -/
def content (t : Typed) (path : List String) : Bytes :=
  match t.at? path with
  | some ⟨_, .bytes bs⟩ => bs
  | _ => []

/-- The bits a path leads to. -/
def bitsAt (t : Typed) (path : List String) : List Bool :=
  match t.at? path with
  | some ⟨_, .bits bits⟩ => bits
  | _ => []

/-- The items of the sequence a path leads to. -/
def items (t : Typed) (path : List String) : List Typed :=
  match t.at? path with
  | some ⟨.list _ element _, .row vs⟩ => vs.map (Typed.mk element)
  | some ⟨.vector _ element _, .row vs⟩ => vs.map (Typed.mk element)
  | _ => []

/-- What a path leads to, or the value itself if it leads nowhere. -/
def part (t : Typed) (path : List String) : Typed :=
  (t.at? path).getD t

end Typed

end Beacon
