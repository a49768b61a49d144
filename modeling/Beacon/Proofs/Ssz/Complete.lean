import Beacon.Fork.Basic
import Beacon.Proofs.Outcome
import Beacon.Ssz.Size
import Beacon.Ssz.Value

/-!
# Well-Formed Types

Which types the laws of encoding, decoding and rooting speak of.

A condition on a type is nearly always a condition on every type nested in it,
so nesting is walked once: `every` asks a question of a type and of all its
parts, and each condition is that walk with its own question. `whole` asks for
a finished definition and for numbers that fill whole bytes. `dense` asks that
no sequence has elements of no size: bytes cannot be cut into such elements,
and their number could not be told from the bytes.

The sizes of a type come in two forms. `fixedness` and `size` may fail, since
an unfinished type lacks what they ask for, while `isFixed` and `fixedSize`
are plain functions. A well-formed type has nothing missing, and for it the
two forms agree; that is what lets the laws speak of the plain ones only.

## Main definitions

* `every`: A question asked of a type and of everything nested in it.
* `WellFormed`: A finished type whose numbers fill whole bytes.
* `Dense`: No sequence has elements of size zero.
* `decideAdmits`: Whether a value belongs to a type can be found out.

## Theorems

* `isFixed_of_fixedness`: Whatever can be told of fixedness is `isFixed`.
* `fixedness_of_whole`: A well-formed type tells whether it is of fixed size.
* `size_of_whole`: A well-formed type of fixed size knows its size.
* `measured_of_whole`: A well-formed type lacks nothing its size depends on.
* `signedBlock_wellFormed`: The signed block of every fork is well-formed.
-/

namespace Beacon

namespace Schema

open Outcome

mutual

/-- Whether a question is answered with yes by a type and by every type nested
    in it. -/
def every (p : Schema → Bool) : Schema → Bool
  | .vector name element length => p (.vector name element length) && element.every p
  | .list name element limit => p (.list name element limit) && element.every p
  | .container name fields => p (.container name fields) && everyField p fields
  | s => p s

/-- Whether the question is answered with yes throughout the types of all
    fields. -/
def everyField (p : Schema → Bool) : Fields → Bool
  | .nil => true
  | .cons _ type rest => type.every p && everyField p rest

end

/-- Whether a type, its parts aside, is finished, and if it is of numbers,
    whether these fill one or more whole bytes. -/
def whole : Schema → Bool
  | .uint _ bits => 0 < bits && bits % 8 = 0
  | .unfinished _ _ => false
  | _ => true

/-- Whether a type, its parts aside, is no sequence of elements of size zero. -/
def dense : Schema → Bool
  | .vector _ element _ => !(element.isFixed && element.fixedSize = 0)
  | .list _ element _ => !(element.isFixed && element.fixedSize = 0)
  | _ => true

/-- A finished type whose numbers fill whole bytes, at every depth. -/
def WellFormed (s : Schema) : Prop := s.every whole = true

/-- No sequence, at any depth, has elements of size zero. -/
def Dense (s : Schema) : Prop := s.every dense = true

instance (s : Schema) : Decidable s.WellFormed := inferInstanceAs (Decidable (_ = true))

instance (s : Schema) : Decidable s.Dense := inferInstanceAs (Decidable (_ = true))

mutual

/-- Whether a value belongs to a type can be found out. -/
def decideAdmits : ∀ (s : Schema) (v : Value), Decidable (s.Admits v)
  | .uint _ bits, .uint n => inferInstanceAs (Decidable (n < Nat.pow 2 bits))
  | .bytes _ length, .bytes bs => inferInstanceAs (Decidable (bs.length = length))
  | .byteList _ limit, .bytes bs => inferInstanceAs (Decidable (bs.length ≤ limit))
  | .bitvector _ length, .bits bs => inferInstanceAs (Decidable (bs.length = length))
  | .bitlist _ limit, .bits bs => inferInstanceAs (Decidable (bs.length ≤ limit))
  | .vector _ element length, .row vs =>
      have := decideAdmits element
      inferInstanceAs (Decidable (vs.length = length ∧ ∀ v ∈ vs, element.Admits v))
  | .list _ element limit, .row vs =>
      have := decideAdmits element
      inferInstanceAs (Decidable (vs.length ≤ limit ∧ ∀ v ∈ vs, element.Admits v))
  | .container _ fields, .row vs => decideAdmitsAll fields vs
  | .uint _ _, .bytes _ | .uint _ _, .bits _ | .uint _ _, .row _
  | .bytes _ _, .uint _ | .bytes _ _, .bits _ | .bytes _ _, .row _
  | .byteList _ _, .uint _ | .byteList _ _, .bits _ | .byteList _ _, .row _
  | .bitvector _ _, .uint _ | .bitvector _ _, .bytes _ | .bitvector _ _, .row _
  | .bitlist _ _, .uint _ | .bitlist _ _, .bytes _ | .bitlist _ _, .row _
  | .vector _ _ _, .uint _ | .vector _ _ _, .bytes _ | .vector _ _ _, .bits _
  | .list _ _ _, .uint _ | .list _ _ _, .bytes _ | .list _ _ _, .bits _
  | .container _ _, .uint _ | .container _ _, .bytes _ | .container _ _, .bits _
  | .unfinished _ _, _ => isFalse id

def decideAdmitsAll : ∀ (fields : Fields) (vs : List Value), Decidable (AdmitsAll fields vs)
  | .nil, [] => isTrue trivial
  | .cons _ type rest, v :: vs =>
      have := decideAdmits type v
      have := decideAdmitsAll rest vs
      inferInstanceAs (Decidable (type.Admits v ∧ AdmitsAll rest vs))
  | .nil, _ :: _ | .cons _ _ _, [] => isFalse id

end

instance (s : Schema) (v : Value) : Decidable (s.Admits v) := decideAdmits s v

mutual

/-- What can be told of a type's fixedness is what `isFixed` says. -/
theorem isFixed_of_fixedness : ∀ (s : Schema) (b : Bool), s.fixedness = .ok b → s.isFixed = b
  | .vector _ element _, b, h => by
      rw [isFixed]
      exact isFixed_of_fixedness element b (by rwa [fixedness] at h)
  | .container _ fields, b, h => by
      rw [isFixed]
      exact areFixed_of_fieldFixedness fields b (by rwa [fixedness] at h)
  | .unfinished _ (.vectorOf element), b, h => by
      rw [isFixed]
      exact isFixed_of_fixedness element b (by rwa [fixedness] at h)
  | .unfinished _ (.vector _), b, h => by
      rw [fixedness] at h
      exact absurd h (by simp only [reduceCtorEq, not_false_eq_true])
  | .uint _ _, b, h | .bytes _ _, b, h | .byteList _ _, b, h | .bitvector _ _, b, h
  | .bitlist _ _, b, h | .list _ _ _, b, h | .unfinished _ .bytes, b, h
  | .unfinished _ .byteList, b, h | .unfinished _ .bitvector, b, h
  | .unfinished _ .bitlist, b, h | .unfinished _ (.list _), b, h
  | .unfinished _ (.listOf _), b, h => by
      simpa only [fixedness, Except.ok.injEq] using h

theorem areFixed_of_fieldFixedness :
    ∀ (fields : Fields) (b : Bool), fieldFixedness fields = .ok b → areFixed fields = b
  | .nil, b, h => by simpa only [fieldFixedness, areFixed, Except.ok.injEq] using h
  | .cons _ type rest, b, h => by
      rw [fieldFixedness] at h
      obtain ⟨fixed, hfixed, hrest⟩ := bind_eq_ok_iff.mp h
      have htype := isFixed_of_fixedness type fixed hfixed
      rw [areFixed, htype]
      cases fixed with
      | true => exact areFixed_of_fieldFixedness rest b hrest
      | false => exact Except.ok.inj hrest

end

mutual

/-- A well-formed type tells whether it is of fixed size. -/
theorem fixedness_of_whole : ∀ s : Schema, s.every whole = true → s.fixedness = .ok s.isFixed
  | .vector _ element _, h => by
      simp only [every, Bool.and_eq_true] at h
      rw [fixedness, isFixed]
      exact fixedness_of_whole element h.2
  | .container _ fields, h => by
      simp only [every, Bool.and_eq_true] at h
      rw [fixedness, isFixed]
      exact fieldFixedness_of_whole fields h.2
  | .unfinished _ _, h => absurd h (by simp only [every, whole, Bool.false_eq_true,
      not_false_eq_true])
  | .uint _ _, _ | .bytes _ _, _ | .byteList _ _, _ | .bitvector _ _, _ | .bitlist _ _, _
  | .list _ _ _, _ => rfl

theorem fieldFixedness_of_whole :
    ∀ fields : Fields, everyField whole fields = true →
      fieldFixedness fields = .ok (areFixed fields)
  | .nil, _ => rfl
  | .cons _ type rest, h => by
      simp only [everyField, Bool.and_eq_true] at h
      rw [fieldFixedness, areFixed, fixedness_of_whole type h.1]
      cases type.isFixed with
      | true => exact fieldFixedness_of_whole rest h.2
      | false => rfl

end

mutual

/-- A well-formed type of fixed size knows its size. -/
theorem size_of_whole : ∀ s : Schema, s.every whole = true → s.isFixed = true →
    s.size = .ok s.fixedSize
  | .vector _ element length, h, hfix => by
      simp only [every, Bool.and_eq_true] at h
      rw [isFixed] at hfix
      rw [size, fixedness_of_whole element h.2, hfix, size_of_whole element h.2 hfix]
      rfl
  | .container _ fields, h, hfix => by
      simp only [every, Bool.and_eq_true] at h
      rw [isFixed] at hfix
      rw [size, fieldFixedness_of_whole fields h.2, hfix, fixedSize]
      exact fieldSizes_of_whole fields h.2 hfix
  | .unfinished _ _, h, _ => absurd h (by simp only [every, whole, Bool.false_eq_true,
      not_false_eq_true])
  | .uint _ _, _, _ | .bytes _ _, _, _ | .bitvector _ _, _, _ => rfl
  | .byteList _ _, _, hfix | .bitlist _ _, _, hfix | .list _ _ _, _, hfix =>
      absurd hfix (by simp only [isFixed, Bool.false_eq_true, not_false_eq_true])

theorem fieldSizes_of_whole :
    ∀ fields : Fields, everyField whole fields = true → areFixed fields = true →
      fieldSizes fields = .ok (fixedSizes fields)
  | .nil, _, _ => rfl
  | .cons _ type rest, h, hfix => by
      simp only [everyField, Bool.and_eq_true] at h
      simp only [areFixed, Bool.and_eq_true] at hfix
      rw [fieldSizes, size_of_whole type h.1 hfix.1, fieldSizes_of_whole rest h.2 hfix.2]
      rfl

end

/-- A well-formed type lacks nothing that its size depends on. -/
theorem measured_of_whole (s : Schema) (h : s.every whole = true) : s.measured = .ok () := by
  rw [measured, fixedness_of_whole s h]
  cases hfix : s.isFixed with
  | true =>
      rw [size_of_whole s h hfix]
      rfl
  | false => rfl

theorem fieldsMeasured_of_whole :
    ∀ fields : Fields, everyField whole fields = true → fieldsMeasured fields = .ok ()
  | .nil, _ => rfl
  | .cons _ type rest, h => by
      simp only [everyField, Bool.and_eq_true] at h
      rw [fieldsMeasured, measured_of_whole type h.1]
      exact fieldsMeasured_of_whole rest h.2

theorem signedBlock_wellFormed (fork : Fork) : fork.signedBlock.WellFormed := by
  cases fork <;> decide

theorem signedBlock_dense (fork : Fork) : fork.signedBlock.Dense := by
  cases fork <;> decide

theorem blobSidecar_wellFormed : Operation.blobSidecar.WellFormed := by decide

theorem blobSidecar_dense : Operation.blobSidecar.Dense := by decide

end Schema

end Beacon
