import Beacon.Proofs.Ssz.Complete

/-!
# Blank Values

Every finished type has a value: the one with zeros for its numbers, bytes and
fixed bits, and with nothing in its lists. Where a law speaks of all values of a
type, this is the value that shows it not to speak of none.

## Main definitions

* `Schema.blank`: The blank value of a type.

## Theorems

* `Schema.blank_admitted`: The blank value of a well-formed type belongs to it.
-/

namespace Beacon

namespace Schema

mutual

/-- The blank value of a type. An unfinished type has no value, and what is given
    for it is of no meaning. -/
def blank : Schema → Value
  | .uint _ _ => .uint 0
  | .bytes _ length => .bytes (Bytes.zeros length)
  | .byteList _ _ => .bytes []
  | .bitvector _ length => .bits (List.replicate length false)
  | .bitlist _ _ => .bits []
  | .vector _ element length => .row (List.replicate length element.blank)
  | .list _ _ _ => .row []
  | .container _ fields => .row (blanks fields)
  | .unfinished _ _ => .row []

/-- The blank values of all fields. -/
def blanks : Fields → List Value
  | .nil => []
  | .cons _ type rest => type.blank :: blanks rest

end

mutual

/-- The blank value of a well-formed type belongs to it. -/
theorem blank_admitted : ∀ s : Schema, s.every whole = true → s.Admits s.blank
  | .uint _ bits, _ => Nat.pow_pos (by decide)
  | .bytes _ length, _ => Bytes.length_zeros length
  | .byteList _ limit, _ => Nat.zero_le limit
  | .bitvector _ length, _ => List.length_replicate
  | .bitlist _ limit, _ => Nat.zero_le limit
  | .vector _ element length, h => by
      simp only [every, Bool.and_eq_true] at h
      refine ⟨List.length_replicate, fun v hv => ?_⟩
      rw [List.eq_of_mem_replicate hv]
      exact blank_admitted element h.2
  | .list _ _ limit, _ => ⟨Nat.zero_le limit, fun _ hv => absurd hv List.not_mem_nil⟩
  | .container _ fields, h => by
      simp only [every, Bool.and_eq_true] at h
      exact blanks_admitted fields h.2
  | .unfinished _ _, h => absurd h (by simp only [every, whole, Bool.false_eq_true,
      not_false_eq_true])

theorem blanks_admitted : ∀ fields : Fields, everyField whole fields = true →
    AdmitsAll fields (blanks fields)
  | .nil, _ => trivial
  | .cons _ type rest, h => by
      simp only [everyField, Bool.and_eq_true] at h
      exact ⟨blank_admitted type h.1, blanks_admitted rest h.2⟩

end

end Schema

end Beacon
