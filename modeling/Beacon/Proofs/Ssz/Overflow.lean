import Beacon.Proofs.Merkle.Reference
import Beacon.Ssz.Encoding

/-!
# What Encoding Can Fail In

A value of a well-formed type has an encoding, with one exception. Where members
of variable size take so many bytes that an offset does not fit its four, the
bytes cannot be laid out.

This is worth a module because of what that one fault is not. All other faults of
an encoding say that a value is not what its type takes it for, and a report of
them is a failure that the tool foresees. An offset that does not fit is a number
that is too wide, and such a fault is foreseen nowhere.

## Theorems

* `failsIn_layout`: Laying parts out fails only for an offset that is too wide.
* `failsIn_encode`: So does encoding a value of a well-formed type.
-/

namespace Beacon

namespace Schema

open Outcome Layout

theorem failsIn_encodeOffset (n : Nat) : FailsIn (· = .tooWide) (encodeOffset (Int.ofNat n)) := by
  rw [encodeOffset]
  exact failsIn_ite rfl

theorem failsIn_heads (start : Nat) (parts : List Part) :
    FailsIn (· = .tooWide) (heads start parts) := by
  induction parts generalizing start with
  | nil => exact failsIn_ok []
  | cons p rest ih =>
      rw [heads]
      split
      · exact failsIn_map (ih start)
      · refine failsIn_bind (failsIn_encodeOffset start) fun offset _ => ?_
        exact failsIn_bind (ih _) fun tail _ => failsIn_ok (offset ++ tail)

/-- Parts are laid out unless an offset is too wide. -/
theorem failsIn_layout (parts : List Part) : FailsIn (· = .tooWide) (Layout.encode parts) :=
  failsIn_map (failsIn_heads _ parts)

/-- The elements of a row are encoded unless one of them is not, or an offset is
    too wide. -/
theorem failsIn_encodeRow (element : Schema) (vs : List Value) (h : element.every whole = true)
    (hencode : ∀ v ∈ vs, FailsIn (· = .tooWide) (element.encode v)) :
    FailsIn (· = .tooWide) (encodeRow element vs) := by
  rw [encodeRow, fixedness_of_whole element h, ok_bind]
  refine failsIn_bind (failsIn_mapM fun v hv => ?_) fun parts _ => failsIn_layout parts
  exact failsIn_map (hencode v hv)

mutual

/-- A value of a well-formed type is encoded unless an offset is too wide. -/
theorem failsIn_encode : ∀ (s : Schema) (v : Value), s.every whole = true → s.Admits v →
    FailsIn (· = .tooWide) (s.encode v)
  | .uint name bits, .uint n, h, hadmits => by
      rw [encode_uint name bits n h hadmits]
      exact failsIn_ok _
  | .bytes _ _, .bytes bs, _, _ => failsIn_ok bs
  | .byteList _ _, .bytes bs, _, _ => failsIn_ok bs
  | .bitvector _ length, .bits bits, _, hadmits => by
      have hlen : bits.length = length := hadmits
      have hbeyond : bits.drop (8 * ((length + 7) / 8)) = [] := List.drop_of_length_le (by omega)
      rw [encode, Bits.pack, hbeyond]
      exact failsIn_ok _
  | .bitlist _ _, .bits bits, _, _ => failsIn_ok _
  | .vector name element length, .row vs, h, hadmits => by
      simp only [every, Bool.and_eq_true] at h
      rw [encode_vector]
      exact failsIn_encodeRow element vs h.2 fun v hv =>
        failsIn_encode element v h.2 (hadmits.2 v hv)
  | .list name element limit, .row vs, h, hadmits => by
      simp only [every, Bool.and_eq_true] at h
      rw [encode_list]
      exact failsIn_encodeRow element vs h.2 fun v hv =>
        failsIn_encode element v h.2 (hadmits.2 v hv)
  | .container name fields, .row vs, h, hadmits => by
      simp only [every, Bool.and_eq_true] at h
      rw [encode]
      exact failsIn_bind (failsIn_encodeAll name fields vs h.2 hadmits) fun parts _ =>
        failsIn_layout parts
  | .unfinished _ _, _, h, _ => absurd h (by simp only [every, whole, Bool.false_eq_true,
      not_false_eq_true])

theorem failsIn_encodeAll : ∀ (name : String) (fields : Fields) (vs : List Value),
    everyField whole fields = true → AdmitsAll fields vs →
    FailsIn (· = .tooWide) (encodeAll name fields vs)
  | _, .nil, [], _, _ => failsIn_ok []
  | name, .cons _ type rest, v :: vs, h, hadmits => by
      simp only [everyField, Bool.and_eq_true] at h
      rw [encodeAll, fixedness_of_whole type h.1, ok_bind]
      refine failsIn_bind (failsIn_encode type v h.1 hadmits.1) fun bs _ => ?_
      exact failsIn_bind (failsIn_encodeAll name rest vs h.2 hadmits.2) fun parts _ =>
        failsIn_ok _
  | _, .nil, _ :: _, _, hadmits => hadmits.elim
  | _, .cons _ _ _, [], _, hadmits => hadmits.elim

end

end Schema

end Beacon
