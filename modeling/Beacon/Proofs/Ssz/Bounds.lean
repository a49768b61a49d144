import Beacon.Ssz.Typed

/-!
# Bounds at Every Depth

What it means for a value to belong to its type, seen from inside.

A value that belongs to its type keeps to all bounds at every depth, and this is one
statement about a type and a value. Seen from inside it is a statement about many of
them: each part of the value has a type, the type that is declared for the place where
it stands, and keeps to the bounds of that type. Bits are truth values in every part,
since bit strings hold nothing else.

## Main definitions

* `Typed.InBounds`: A value keeps to the bounds of its own type.
* `Schema.parts`: All parts of a value, with their types.

## Theorems

* `Schema.admits_iff_parts`: A value belongs to its type if all of its parts keep to
  their bounds.
-/

namespace Beacon

/-- A value has the shape of its type and keeps to the type's own bounds. Of what is
    inside it, only the number counts. -/
def Typed.InBounds : Typed → Prop
  | ⟨.uint _ bits, .uint n⟩ => n < Nat.pow 2 bits
  | ⟨.bytes _ length, .bytes bs⟩ => bs.length = length
  | ⟨.byteList _ limit, .bytes bs⟩ => bs.length ≤ limit
  | ⟨.bitvector _ length, .bits bs⟩ => bs.length = length
  | ⟨.bitlist _ limit, .bits bs⟩ => bs.length ≤ limit
  | ⟨.vector _ _ length, .row vs⟩ => vs.length = length
  | ⟨.list _ _ limit, .row vs⟩ => vs.length ≤ limit
  | ⟨.container _ fields, .row vs⟩ => vs.length = fields.toList.length
  | _ => False

namespace Schema

mutual

/-- All parts of a value with their types, the whole first. -/
def parts : Schema → Value → List Typed
  | .vector name element length, .row vs =>
    ⟨.vector name element length, .row vs⟩ :: vs.flatMap element.parts
  | .list name element limit, .row vs =>
    ⟨.list name element limit, .row vs⟩ :: vs.flatMap element.parts
  | .container name fields, .row vs => ⟨.container name fields, .row vs⟩ :: fieldParts fields vs
  | s, v => [⟨s, v⟩]

/-- All parts of the values of a container's fields. -/
def fieldParts : Fields → List Value → List Typed
  | .cons _ type rest, v :: vs => type.parts v ++ fieldParts rest vs
  | _, _ => []

end

mutual

/-- A value belongs to its type exactly if all of its parts keep to the bounds of
    theirs. -/
theorem admits_iff_parts : ∀ (s : Schema) (v : Value),
    s.Admits v ↔ ∀ part ∈ s.parts v, part.InBounds
  | .vector name element length, .row vs => by
      rw [Admits, parts, List.forall_mem_cons, List.forall_mem_flatMap]
      exact and_congr Iff.rfl (forall₂_congr fun v _ => admits_iff_parts element v)
  | .list name element limit, .row vs => by
      rw [Admits, parts, List.forall_mem_cons, List.forall_mem_flatMap]
      exact and_congr Iff.rfl (forall₂_congr fun v _ => admits_iff_parts element v)
  | .container name fields, .row vs => by
      rw [Admits, parts, List.forall_mem_cons]
      exact admitsAll_iff_parts fields vs
  | .uint _ _, v | .bytes _ _, v | .byteList _ _, v | .bitvector _ _, v | .bitlist _ _, v
  | .unfinished _ _, v => by
      simp only [parts, List.forall_mem_singleton]
      cases v <;> exact Iff.rfl
  | .vector _ _ _, .uint _ | .vector _ _ _, .bytes _ | .vector _ _ _, .bits _
  | .list _ _ _, .uint _ | .list _ _ _, .bytes _ | .list _ _ _, .bits _
  | .container _ _, .uint _ | .container _ _, .bytes _ | .container _ _, .bits _ => by
      simp only [parts, List.forall_mem_singleton]
      exact Iff.rfl

theorem admitsAll_iff_parts : ∀ (fields : Fields) (vs : List Value),
    AdmitsAll fields vs ↔
      vs.length = fields.toList.length ∧ ∀ part ∈ fieldParts fields vs, part.InBounds
  | .nil, [] => ⟨fun _ => ⟨rfl, fun _ hpart => absurd hpart List.not_mem_nil⟩, fun _ => trivial⟩
  | .nil, _ :: vs => ⟨False.elim, fun h => absurd h.1 (Nat.succ_ne_zero vs.length)⟩
  | .cons _ _ rest, [] =>
      ⟨False.elim, fun h => absurd h.1.symm (Nat.succ_ne_zero rest.toList.length)⟩
  | .cons name type rest, v :: vs => by
      rw [AdmitsAll, fieldParts, Fields.toList, List.length_cons, List.length_cons,
        Nat.add_right_cancel_iff, List.forall_mem_append, admits_iff_parts type v,
        admitsAll_iff_parts rest vs]
      exact and_left_comm

end

end Schema

end Beacon
