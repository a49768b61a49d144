import Beacon.Proofs.Ssz.Bounds
import Beacon.Ssz.Instance

/-!
# The Places of a Value

Where a value stands inside another one, and what is declared for it there.

`Schema.parts` goes through a value by the types that are declared, and that is all
one can do with a value that does not know its types. An `Instance` does, and so there
are two types to each place in it: the one that is declared for the place by the value
around it, and the one of the value that stands there. As long as the two are the same
everywhere, nothing new is seen, and the places are the parts.

What stands in a place has places itself, and they are places of the whole. So a value
that is taken out of another one brings nothing with it that was not there before.

## Main definitions

* `Instance.Place`, `Instance.Place.Exact`: A place, and that the type declared for it is the one that
  stands there.
* `Instance.places`, `Instance.inner`: All places of a value, and those inside it.
* `Instance.parts`: A value and all values inside it.

## Theorems

* `Instance.inner_subset`: The places inside a part are places inside the whole.
* `Instance.parts_eq_map`: Where all places are exact, they are the parts.
* `Schema.exact_instantiate`: The types that are declared give exact places only.
-/

namespace Beacon

namespace Instance

/-- A place in a value. -/
structure Place where
  /-- The type that is declared for the place. -/
  declared : Schema
  /-- What stands there. -/
  held : Instance

/-- What stands in a place is of the very type that is declared for it. -/
def Place.Exact (place : Place) : Prop := place.held.type = place.declared

mutual

/-- All places inside a value. -/
def inner : Instance → List Place
  | .row (.vector _ element _) xs => innerRow element xs
  | .row (.list _ element _) xs => innerRow element xs
  | .row (.container _ fields) xs => innerFields fields xs
  | _ => []
termination_by structural x => x

/-- All places of the elements of a sequence. -/
def innerRow (element : Schema) : List Instance → List Place
  | [] => []
  | x :: xs => ⟨element, x⟩ :: (inner x ++ innerRow element xs)
termination_by structural xs => xs

/-- All places of the fields of a container. -/
def innerFields : Fields → List Instance → List Place
  | .cons _ type rest, x :: xs => ⟨type, x⟩ :: (inner x ++ innerFields rest xs)
  | _, _ => []
termination_by structural _ xs => xs

end

/-- All places of a value that stands where a type is declared, the whole first. -/
def places (declared : Schema) (x : Instance) : List Place := ⟨declared, x⟩ :: x.inner

/-- A value and all values inside it. -/
def parts (x : Instance) : List Instance := x :: x.inner.map Place.held

theorem innerRow_cons (element : Schema) (x : Instance) (xs : List Instance) :
    innerRow element (x :: xs) = x.places element ++ innerRow element xs := by
  rw [innerRow, places, List.cons_append]

theorem innerFields_cons (name : String) (type : Schema) (rest : Fields) (x : Instance)
    (xs : List Instance) :
    innerFields (.cons name type rest) (x :: xs) = x.places type ++ innerFields rest xs := by
  rw [innerFields, places, List.cons_append]

theorem innerRow_eq_flatMap (element : Schema) (xs : List Instance) :
    innerRow element xs = xs.flatMap (places element) := by
  induction xs with
  | nil => rfl
  | cons x xs ih => rw [innerRow_cons, List.flatMap_cons, ih]

/-! ### Places of places -/

/-- What holds of the places inside a value holds of the places of the value. -/
theorem places_subset {x : Instance} (h : ∀ place ∈ x.inner, place.held.inner ⊆ x.inner)
    (declared : Schema) :
    ∀ place ∈ x.places declared, place.held.inner ⊆ x.places declared := by
  intro place hplace
  have hinner : place.held.inner ⊆ x.inner := by
    rcases List.mem_cons.mp hplace with rfl | hplace
    · exact List.Subset.refl x.inner
    · exact h place hplace
  exact List.Subset.trans hinner (List.subset_cons_self _ _)

mutual

/-- The places inside of what stands in a place are places inside the whole. -/
theorem inner_subset : ∀ (x : Instance), ∀ place ∈ x.inner, place.held.inner ⊆ x.inner
  | .row (.vector _ element _) xs, place, h => innerRow_subset element xs place h
  | .row (.list _ element _) xs, place, h => innerRow_subset element xs place h
  | .row (.container _ fields) xs, place, h => innerFields_subset fields xs place h
  | .uint _ _, _, h | .bytes _ _, _, h | .bits _ _, _, h
  | .row (.uint _ _) _, _, h | .row (.bytes _ _) _, _, h | .row (.byteList _ _) _, _, h
  | .row (.bitvector _ _) _, _, h | .row (.bitlist _ _) _, _, h
  | .row (.unfinished _ _) _, _, h => absurd h List.not_mem_nil

theorem innerRow_subset (element : Schema) : ∀ (xs : List Instance),
    ∀ place ∈ innerRow element xs, place.held.inner ⊆ innerRow element xs
  | [], _, h => absurd h List.not_mem_nil
  | x :: xs, place, h => by
      rw [innerRow_cons] at h ⊢
      rcases List.mem_append.mp h with h | h
      · exact List.Subset.trans (places_subset (inner_subset x) element place h)
          (List.subset_append_left _ _)
      · exact List.Subset.trans (innerRow_subset element xs place h)
          (List.subset_append_right _ _)

theorem innerFields_subset : ∀ (fields : Fields) (xs : List Instance),
    ∀ place ∈ innerFields fields xs, place.held.inner ⊆ innerFields fields xs
  | .nil, xs, place, h => by
      rw [innerFields.eq_def] at h
      exact absurd h List.not_mem_nil
  | .cons _ _ _, [], _, h => absurd h List.not_mem_nil
  | .cons _ type rest, x :: xs, place, h => by
      rw [innerFields_cons] at h ⊢
      rcases List.mem_append.mp h with h | h
      · exact List.Subset.trans (places_subset (inner_subset x) type place h)
          (List.subset_append_left _ _)
      · exact List.Subset.trans (innerFields_subset rest xs place h)
          (List.subset_append_right _ _)

end

/-- What stands in a part is a part of the whole, and its places are places inside
    the whole. -/
theorem parts_subset {x y : Instance} (h : y ∈ x.parts) : y.inner ⊆ x.inner := by
  rcases List.mem_cons.mp h with rfl | h
  · exact List.Subset.refl y.inner
  · obtain ⟨place, hplace, rfl⟩ := List.mem_map.mp h
    exact inner_subset x place hplace

theorem mem_parts_self (x : Instance) : x ∈ x.parts := List.mem_cons_self

theorem mem_parts_of_mem_inner {x : Instance} {place : Place} (h : place ∈ x.inner) :
    place.held ∈ x.parts :=
  List.mem_cons_of_mem _ (List.mem_map_of_mem h)

/-- A part of a part is a part. -/
theorem parts_trans {x y z : Instance} (hy : y ∈ x.parts) (hz : z ∈ y.parts) : z ∈ x.parts := by
  rcases List.mem_cons.mp hz with rfl | hz
  · exact hy
  · obtain ⟨place, hplace, rfl⟩ := List.mem_map.mp hz
    exact mem_parts_of_mem_inner (parts_subset hy hplace)

/-! ### Exact places -/

mutual

/-- Where all places inside a value are exact, its parts are what stands in them. -/
theorem parts_eq_map : ∀ (x : Instance), (∀ place ∈ x.inner, place.Exact) →
    x.type.parts x.value = x.typed :: x.inner.map fun place => place.held.typed
  | .row (.vector name element length) xs, h => by
      rw [value, type, Schema.parts, rowParts_eq_map element xs h]
      rfl
  | .row (.list name element limit) xs, h => by
      rw [value, type, Schema.parts, rowParts_eq_map element xs h]
      rfl
  | .row (.container name fields) xs, h => by
      rw [value, type, Schema.parts, fieldParts_eq_map fields xs h]
      rfl
  | .row (.uint _ _) _, _ | .row (.bytes _ _) _, _ | .row (.byteList _ _) _, _
  | .row (.bitvector _ _) _, _ | .row (.bitlist _ _) _, _ | .row (.unfinished _ _) _, _ => rfl
  | .uint s n, _ => by cases s <;> rfl
  | .bytes s bs, _ => by cases s <;> rfl
  | .bits s bs, _ => by cases s <;> rfl

theorem rowParts_eq_map (element : Schema) : ∀ (xs : List Instance),
    (∀ place ∈ innerRow element xs, place.Exact) →
    (values xs).flatMap element.parts =
      (innerRow element xs).map fun place => place.held.typed
  | [], _ => rfl
  | x :: xs, h => by
      rw [innerRow, List.forall_mem_cons, List.forall_mem_append] at h
      obtain ⟨hexact, hx, hxs⟩ := h
      have hparts := parts_eq_map x hx
      rw [show x.type = element from hexact] at hparts
      rw [values, List.flatMap_cons, hparts, rowParts_eq_map element xs hxs, innerRow,
        List.map_cons, List.map_append, List.cons_append]

theorem fieldParts_eq_map : ∀ (fields : Fields) (xs : List Instance),
    (∀ place ∈ innerFields fields xs, place.Exact) →
    Schema.fieldParts fields (values xs) =
      (innerFields fields xs).map fun place => place.held.typed
  | .nil, xs, _ => by
      rw [innerFields.eq_def, Schema.fieldParts.eq_def]
      rfl
  | .cons _ _ _, [], _ => rfl
  | .cons name declared rest, x :: xs, h => by
      rw [innerFields, List.forall_mem_cons, List.forall_mem_append] at h
      obtain ⟨hexact, hx, hxs⟩ := h
      have hparts := parts_eq_map x hx
      rw [show x.type = declared from hexact] at hparts
      rw [values, Schema.fieldParts, hparts, fieldParts_eq_map rest xs hxs, innerFields,
        List.map_cons, List.map_append, List.cons_append]

end

end Instance

namespace Schema

open Instance (places innerRow innerFields innerRow_cons innerFields_cons)

/-- A value with the types that its type declares is of its type. -/
theorem instantiate_type (s : Schema) (v : Value) : (s.instantiate v).type = s := by
  cases v with
  | uint | bytes | bits => cases s <;> rfl
  | row vs => cases s <;> rfl

theorem exact_instantiateRow {element : Schema}
    (helement : ∀ v, ∀ place ∈ (element.instantiate v).inner, place.Exact) (vs : List Value) :
    ∀ place ∈ innerRow element (vs.map element.instantiate), place.Exact := by
  induction vs with
  | nil => exact fun place h => absurd h List.not_mem_nil
  | cons v vs ih =>
      rw [List.map_cons, innerRow_cons, List.forall_mem_append, places, List.forall_mem_cons]
      exact ⟨⟨instantiate_type element v, helement v⟩, ih⟩

mutual

/-- Where types are all that a value was built by, every place in it is exact. -/
theorem exact_instantiate : ∀ (s : Schema) (v : Value),
    ∀ place ∈ (s.instantiate v).inner, place.Exact
  | .vector _ element _, .row vs => exact_instantiateRow (exact_instantiate element) vs
  | .list _ element _, .row vs => exact_instantiateRow (exact_instantiate element) vs
  | .container _ fields, .row vs => exact_instantiateAll fields vs
  | s, .uint n | s, .bytes bs | s, .bits bs => by
      cases s <;> exact fun place h => absurd h List.not_mem_nil
  | .uint _ _, .row _ | .bytes _ _, .row _ | .byteList _ _, .row _ | .bitvector _ _, .row _
  | .bitlist _ _, .row _ | .unfinished _ _, .row _ => fun place h => absurd h List.not_mem_nil

theorem exact_instantiateAll : ∀ (fields : Fields) (vs : List Value),
    ∀ place ∈ innerFields fields (instantiateAll fields vs), place.Exact
  | .nil, _ => fun place h => absurd h List.not_mem_nil
  | .cons _ _ _, [] => fun place h => absurd h List.not_mem_nil
  | .cons _ type rest, v :: vs => by
      rw [instantiateAll, innerFields_cons, List.forall_mem_append, places, List.forall_mem_cons]
      exact ⟨⟨instantiate_type type v, exact_instantiate type v⟩, exact_instantiateAll rest vs⟩

end

theorem exact_places (s : Schema) (v : Value) : ∀ place ∈ (s.instantiate v).places s, place.Exact :=
  List.forall_mem_cons.mpr ⟨instantiate_type s v, exact_instantiate s v⟩

theorem values_map {element : Schema}
    (helement : ∀ v, element.Admits v → (element.instantiate v).value = v) {vs : List Value}
    (h : ∀ v ∈ vs, element.Admits v) : Instance.values (vs.map element.instantiate) = vs := by
  induction vs with
  | nil => rfl
  | cons v vs ih =>
      obtain ⟨hv, hvs⟩ := List.forall_mem_cons.mp h
      rw [List.map_cons, Instance.values, helement v hv, ih hvs]

mutual

/-- A value of a type is what it was before its types were put to it. -/
theorem value_instantiate : ∀ (s : Schema) (v : Value), s.Admits v → (s.instantiate v).value = v
  | .vector _ element _, .row vs, h => by
      rw [instantiate, Instance.value, values_map (value_instantiate element) h.2]
  | .list _ element _, .row vs, h => by
      rw [instantiate, Instance.value, values_map (value_instantiate element) h.2]
  | .container _ fields, .row vs, h => by
      rw [instantiate, Instance.value, values_instantiateAll fields vs h]
  | s, .uint n, _ | s, .bytes bs, _ | s, .bits bs, _ => by cases s <;> rfl
  | .uint _ _, .row _, h | .bytes _ _, .row _, h | .byteList _ _, .row _, h
  | .bitvector _ _, .row _, h | .bitlist _ _, .row _, h | .unfinished _ _, .row _, h =>
      False.elim h

theorem values_instantiateAll : ∀ (fields : Fields) (vs : List Value), AdmitsAll fields vs →
    Instance.values (instantiateAll fields vs) = vs
  | .nil, [], _ => rfl
  | .nil, _ :: _, h | .cons _ _ _, [], h => False.elim h
  | .cons _ type rest, v :: vs, h => by
      rw [instantiateAll, Instance.values, value_instantiate type v h.1,
        values_instantiateAll rest vs h.2]

end

/-- A value of a type keeps to its bounds in every place that its types give it. -/
theorem inBounds_places {s : Schema} {v : Value} (h : s.Admits v) :
    ∀ place ∈ (s.instantiate v).places s, place.held.typed.InBounds := by
  have hparts := Instance.parts_eq_map (s.instantiate v) (exact_instantiate s v)
  rw [instantiate_type, value_instantiate s v h] at hparts
  rw [admits_iff_parts, hparts, List.forall_mem_cons, List.forall_mem_map] at h
  exact List.forall_mem_cons.mpr h

end Schema

end Beacon
