import Beacon.Proofs.Ssz.Extent
import Beacon.Ssz.Field

/-!
# The Share of a Member

What a part of a value that a path of field names leads to has to do with the size of the
whole.

A value of a container has a part at every path that its type has, so that the size of
the part can be talked about. The offsets in the part are among those in the whole. And
what the whole is smaller than its limits allow is at least what the part is smaller than
its own limits allow, because the other parts keep to theirs. So the size of a value can
be estimated by the size of its one large part.

## Main definitions

* `Schema.typeAt?`: The type that a path leads to.
* `Typed.Within`: A part of a value, as far as sizes go.

## Theorems

* `Typed.exists_at?`: A value has a part at every path of its type.
* `Typed.within_at?`: What a path leads to is within the value.
-/

namespace Beacon

open Layout

namespace Fields

/-- The type of the field of a name. -/
def type? (name : String) : Fields → Option Schema
  | .nil => none
  | .cons n type rest => if n = name then some type else type? name rest

/-- Fields of a type have values of it. -/
theorem exists_find? {name : String} {type : Schema} : ∀ {fields : Fields} {vs : List Value},
    Schema.AdmitsAll fields vs → fields.type? name = some type →
    ∃ v, fields.find? name vs = some ⟨type, v⟩
  | .cons n first rest, v :: vs, hadmits, h => by
      rw [type?] at h
      rw [find?]
      by_cases hname : n = name
      · rw [if_pos hname] at h ⊢
        rw [Option.some.inj h]
        exact ⟨v, rfl⟩
      · rw [if_neg hname] at h ⊢
        exact exists_find? hadmits.2 h
  | .nil, _, _, h => absurd h (by simp only [type?, reduceCtorEq, not_false_eq_true])

end Fields

namespace Schema

/-- The type that a path of field names leads to. -/
def typeAt? : List String → Schema → Option Schema
  | [], s => some s
  | name :: path, s => (s.fields.type? name).bind (typeAt? path)

end Schema

namespace Typed

/-- A part of a value, as far as sizes go. -/
structure Within (part t : Typed) : Prop where
  /-- The part belongs to its type. -/
  admits : part.type.Admits part.value
  /-- Its offsets are among those of the whole. -/
  pointers_subset : part.type.pointers part.value ⊆ t.type.pointers t.value
  /-- What it leaves of its limits, the whole leaves as well. -/
  span_le : t.type.span t.value + part.type.maxSpan ≤ t.type.maxSpan + part.type.span part.value

theorem Within.refl {t : Typed} (h : t.type.Admits t.value) : t.Within t :=
  ⟨h, List.Subset.refl _, Nat.le_of_eq (Nat.add_comm _ _)⟩

theorem Within.trans {inner part t : Typed} (h : inner.Within part) (hpart : part.Within t) :
    inner.Within t := by
  refine ⟨h.admits, List.Subset.trans h.pointers_subset hpart.pointers_subset, ?_⟩
  have hinner := h.span_le
  have houter := hpart.span_le
  omega

/-- The field of a name is within the fields. -/
theorem within_find? {name : String} {part : Typed} : ∀ {fields : Fields} {vs : List Value},
    Schema.AdmitsAll fields vs → fields.find? name vs = some part →
    part.type.Admits part.value ∧
      part.type.pointers part.value ⊆ Schema.fieldPointers fields vs ∧
      width (Schema.extents fields vs) + part.type.maxSpan
        ≤ Schema.maxSpans fields + part.type.span part.value
  | .cons n type rest, v :: vs, hadmits, h => by
      rw [Fields.find?] at h
      rw [Schema.fieldPointers, Schema.extents, Schema.maxSpans, width, List.map_cons, total,
        ← width]
      by_cases hname : n = name
      · rw [if_pos hname] at h
        obtain rfl := Option.some.inj h
        refine ⟨hadmits.1, List.subset_append_left _ _, ?_⟩
        have hrest := Schema.width_fields_le rest vs hadmits.2
        simp only [Extent.width]
        split <;> omega
      · rw [if_neg hname] at h
        obtain ⟨hpart, hsubset, hspan⟩ := within_find? hadmits.2 h
        refine ⟨hpart, List.Subset.trans hsubset (List.subset_append_right _ _), ?_⟩
        have hfirst := Schema.width_mono type.isFixed (Schema.span_le_maxSpan type v hadmits.1)
        omega
  | .nil, _, _, h | .cons _ _ _, [], _, h => absurd h (by simp only [Fields.find?, reduceCtorEq,
      not_false_eq_true])

/-- A field of a container is within it. -/
theorem within_field? {name : String} {t part : Typed} (hadmits : t.type.Admits t.value)
    (h : t.field? name = some part) : part.Within t := by
  obtain ⟨s, v⟩ := t
  cases s with
  | container _ fields =>
      cases v with
      | row vs =>
          have hall : Schema.AdmitsAll fields vs := hadmits
          obtain ⟨hpart, hsubset, hspan⟩ := within_find? hall h
          exact ⟨hpart, List.Subset.trans hsubset (List.subset_append_right _ _), hspan⟩
      | _ => exact hadmits.elim
  | _ => exact absurd h (by simp only [field?, reduceCtorEq, not_false_eq_true])

/-- What a path leads to is within the value. -/
theorem within_at? {path : List String} {t part : Typed} (hadmits : t.type.Admits t.value)
    (h : t.at? path = some part) : part.Within t := by
  induction path generalizing t with
  | nil =>
      obtain rfl := Option.some.inj h
      exact .refl hadmits
  | cons name path ih =>
      obtain ⟨field, hfield, hpart⟩ := Option.bind_eq_some_iff.mp h
      have hwithin := within_field? hadmits hfield
      exact (ih hwithin.admits hpart).trans hwithin

/-- A value has a part at every path of its type. -/
theorem exists_at? {path : List String} {s type : Schema} {v : Value} (hadmits : s.Admits v)
    (h : s.typeAt? path = some type) : ∃ w, (Typed.mk s v).at? path = some ⟨type, w⟩ := by
  induction path generalizing s v with
  | nil =>
      rw [Option.some.inj h]
      exact ⟨v, rfl⟩
  | cons name path ih =>
      obtain ⟨field, hfield, hrest⟩ := Option.bind_eq_some_iff.mp h
      cases s with
      | container _ fields =>
          cases v with
          | row vs =>
              obtain ⟨w, hw⟩ := Fields.exists_find? hadmits hfield
              have hwithin := within_field? (t := ⟨_, .row vs⟩) hadmits hw
              obtain ⟨u, hu⟩ := ih hwithin.admits hrest
              exact ⟨u, Option.bind_eq_some_iff.mpr ⟨_, hw, hu⟩⟩
          | _ => exact hadmits.elim
      | _ =>
          exact absurd hfield (by simp only [Schema.fields, Fields.type?, reduceCtorEq,
            not_false_eq_true])

end Typed

end Beacon
