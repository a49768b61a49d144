import Beacon.Proofs.Ssz.Places
import Beacon.Ssz.Input

/-!
# Values That Are Handed Over

Which values of SSZ types a program passes in, and where they go.

A value may be passed in by itself, or in a list or a record of things of any kind.
What is read is then looked at piece by piece, and the pieces of what was passed in are
all there is to look at. Iterating over a value takes that value apart, and so a piece
need not be one of the values that were handed over; but it is inside one of them.

## Main definitions

* `Input.handed`: The values that are handed over in an input.
* `Instance.partsOf`: These values and all values inside them.

## Theorems

* `Input.handed_items`, `Input.handed_fields`: What the items and the fields of an input
  hand over comes from what the input hands over.
-/

namespace Beacon

namespace Input

mutual

/-- The values of SSZ types that are handed over in an input. -/
def handed : Input → List Instance
  | .data _ => []
  | .made x => [x]
  | .list items => handedAll items
  | .tuple items => handedAll items
  | .record fields => handedFields fields
  | .thing _ items => handedAll items
termination_by structural i => i

/-- The values that are handed over in any of several items. -/
def handedAll : List Input → List Instance
  | [] => []
  | i :: rest => handed i ++ handedAll rest
termination_by structural items => items

/-- The values that are handed over in any of several fields. -/
def handedFields : List (Text × Input) → List Instance
  | [] => []
  | f :: rest => handedField f ++ handedFields rest
termination_by structural fields => fields

/-- The values that are handed over in one field. -/
def handedField : Text × Input → List Instance
  | (_, i) => handed i
termination_by structural f => f

end

theorem handedAll_eq_flatMap (items : List Input) : handedAll items = items.flatMap handed := by
  induction items with
  | nil => rfl
  | cons i rest ih => rw [handedAll, List.flatMap_cons, ih]

theorem handedFields_eq_flatMap (fields : List (Text × Input)) :
    handedFields fields = fields.flatMap fun field => field.2.handed := by
  induction fields with
  | nil => rfl
  | cons f rest ih => rw [handedFields, List.flatMap_cons, ih, handedField]

end Input

namespace Instance

/-- Several values and all values inside them. -/
def partsOf (given : List Instance) : List Instance := given.flatMap parts

theorem subset_partsOf (given : List Instance) : given ⊆ partsOf given := by
  intro x hx
  exact List.mem_flatMap.mpr ⟨x, hx, mem_parts_self x⟩

/-- Parts of parts are parts. -/
theorem partsOf_subset {xs given : List Instance} (h : xs ⊆ partsOf given) :
    partsOf xs ⊆ partsOf given := by
  intro y hy
  obtain ⟨x, hx, hyx⟩ := List.mem_flatMap.mp hy
  obtain ⟨z, hz, hxz⟩ := List.mem_flatMap.mp (h hx)
  exact List.mem_flatMap.mpr ⟨z, hz, parts_trans hxz hyx⟩

theorem handed_made_subset {x : Instance} {xs : List Instance} (h : xs ⊆ x.parts) :
    ∀ item ∈ xs.map Input.made, item.handed ⊆ x.parts := by
  intro item hitem
  obtain ⟨y, hy, rfl⟩ := List.mem_map.mp hitem
  exact List.forall_mem_singleton.mpr (h hy)

theorem held_of_mem_row (element : Schema) (xs : List Instance) :
    xs ⊆ (innerRow element xs).map Place.held := by
  intro y hy
  rw [innerRow_eq_flatMap]
  exact List.mem_map.mpr ⟨⟨element, y⟩, List.mem_flatMap.mpr ⟨y, hy, List.mem_cons_self⟩, rfl⟩

theorem handed_pairs (fields : Fields) (xs : List Instance) :
    ∀ item ∈ pairs fields xs, item.handed ⊆ (innerFields fields xs).map Place.held := by
  induction xs generalizing fields with
  | nil =>
      rw [pairs.eq_def]
      cases fields <;> exact fun item h => absurd h List.not_mem_nil
  | cons x xs ih =>
      cases fields with
      | nil => exact fun item h => absurd h List.not_mem_nil
      | cons name type rest =>
          rw [pairs, innerFields_cons, List.map_append]
          refine List.forall_mem_cons.mpr ⟨?_, fun item hitem => ?_⟩
          · exact List.forall_mem_singleton.mpr (List.mem_append_left _ List.mem_cons_self)
          · exact List.Subset.trans (ih rest item hitem) (List.subset_append_right _ _)

/-- What comes of iterating over a value is inside it. -/
theorem handed_items {x : Instance} {items : List Input} (h : x.items? = some items) :
    ∀ item ∈ items, item.handed ⊆ x.parts := by
  unfold items? at h
  split at h
  case h_6 => exact absurd h (by simp only [reduceCtorEq, not_false_eq_true])
  all_goals rw [← Option.some.inj h]
  case h_1 | h_2 =>
      refine List.forall_mem_map.mpr fun b _ => ?_
      exact List.nil_subset _
  case h_3 element _ xs | h_4 element _ xs =>
      exact handed_made_subset
        (List.Subset.trans (held_of_mem_row element xs) (List.subset_cons_self _ _))
  case h_5 fields xs =>
      intro item hitem
      exact List.Subset.trans (handed_pairs fields xs item hitem) (List.subset_cons_self _ _)

end Instance

namespace Input

open Instance (partsOf subset_partsOf)

theorem handed_of_mem {items : List Input} {item : Input} (h : item ∈ items) :
    item.handed ⊆ partsOf (handedAll items) := by
  intro y hy
  refine subset_partsOf _ ?_
  rw [handedAll_eq_flatMap]
  exact List.mem_flatMap.mpr ⟨item, h, hy⟩

/-- The items of an input hand over what is inside of what the input hands over. -/
theorem handed_items {i : Input} {items : List Input} (h : i.items? = some items) :
    ∀ item ∈ items, item.handed ⊆ partsOf i.handed := by
  intro item hitem
  cases i with
  | data d =>
      obtain ⟨ds, -, rfl⟩ := Option.map_eq_some_iff.mp h
      obtain ⟨d', -, rfl⟩ := List.mem_map.mp hitem
      exact List.nil_subset _
  | made x =>
      have hparts := Instance.handed_items h item hitem
      rwa [handed, partsOf, List.flatMap_singleton]
  | list given | tuple given =>
      rw [← Option.some.inj h] at hitem
      exact handed_of_mem hitem
  | record fields =>
      rw [← Option.some.inj h] at hitem
      obtain ⟨field, -, rfl⟩ := List.mem_map.mp hitem
      exact List.nil_subset _
  | thing traits given =>
      rw [items?] at h
      split at h
      · rw [← Option.some.inj h] at hitem
        exact handed_of_mem hitem
      · exact absurd h (by simp only [reduceCtorEq, not_false_eq_true])

/-- The fields of an input hand over what the input hands over. -/
theorem handed_fields {i : Input} {given : List (Text × Input)} (h : i.fields? = some given) :
    ∀ field ∈ given, field.2.handed ⊆ i.handed := by
  intro field hfield
  unfold fields? at h
  split at h
  · rw [← Option.some.inj h] at hfield
    obtain ⟨entry, -, rfl⟩ := List.mem_map.mp hfield
    exact List.nil_subset _
  · rw [Option.some.inj h, handed, handedFields_eq_flatMap]
    exact fun y hy => List.mem_flatMap.mpr ⟨field, hfield, hy⟩
  · exact absurd h (by simp only [reduceCtorEq, not_false_eq_true])

end Input

end Beacon
