import Beacon.Proofs.Ssz.Handing
import Beacon.Proofs.Ssz.Reading
import Beacon.Ssz.Building

/-!
# Bounds of Whatever Is Built

What holds of every place of a value, however a program has built it.

A program builds a value from whatever it passes in, by a constructor or by a check,
from bytes, from a numeral, or from nothing at all. Among what it passes in there may
be values that it has built before, and these are kept unchecked where they fit. So
nothing can be said of the new value without saying it of the values in it, and what is
said is an invariant of all the values a program has.

It has two parts. In every place stands a value of the type that is declared there; and
this value keeps to the bounds of the type that it is of. The two parts speak of one
type as long as no derived types are handed over. A value of a derived type is a value
of the type that is declared, but the length, the limit and the number of bits by which
it was checked are those of its own type, and these may be others. That is the only way
in which the two types of a place come to differ, and what stands there then is inside
of what the program has handed over. Data alone hands nothing over; there, building is
reading, by `Schema.accept_data`.

## Main definitions

* `Instance.Place.Sound`: What holds of a place.
* `Schema.Builds`, `Classes.Built`: One step of building, and all values that are built
  in such steps.
* `Schema.Within`: One type has no wider bounds than another one.

## Theorems

* `Schema.sound_accept`: Whatever is accepted is sound in every place.
* `Classes.kept_of_built`: So is every value that a program has built.
* `Schema.bounds_of_builds`: What holds of every place of a value that is built, and
  when it belongs to the type as it is declared.
-/

namespace Beacon

open Outcome

namespace Instance

/-- The value in a place is of the type that is declared for the place and keeps to the
    bounds of its own type. -/
structure Place.Kept (c : Classes) (place : Place) : Prop where
  /-- The value's type is the declared one or derived from it. -/
  isA : c.isA place.held.type place.declared = true
  /-- The value keeps to the bounds of its type. -/
  inBounds : place.held.typed.InBounds

/-- In addition, the value's type is the declared one, unless the value is inside of
    one that was given. -/
structure Place.Sound (c : Classes) (given : List Instance) (place : Place) : Prop
    extends Place.Kept c place where
  origin : place.Exact ∨ place.held ∈ partsOf given

/-- A value keeps to its bounds, and so does all that is inside it. -/
def Kept (c : Classes) (x : Instance) : Prop := ∀ place ∈ x.places x.type, place.Kept c

/-- All places of a value that stands where a type is declared are sound. -/
def Sound (c : Classes) (given : List Instance) (s : Schema) (x : Instance) : Prop :=
  ∀ place ∈ x.places s, place.Sound c given

variable {c : Classes} {given : List Instance} {s : Schema} {x : Instance}

theorem Sound.kept (h : x.Sound c given s) : x.Kept c := by
  obtain ⟨hwhole, hinner⟩ := List.forall_mem_cons.mp h
  exact List.forall_mem_cons.mpr
    ⟨⟨c.refl x.type, hwhole.inBounds⟩, fun place hplace => (hinner place hplace).toKept⟩

/-- What is inside of a value that keeps to its bounds keeps to its bounds. -/
theorem Kept.part (h : x.Kept c) {y : Instance} (hy : y ∈ x.parts) : y.Kept c := by
  obtain ⟨hwhole, hinner⟩ := List.forall_mem_cons.mp h
  have hbounds : y.typed.InBounds := by
    rcases List.mem_cons.mp hy with rfl | hy
    · exact hwhole.inBounds
    · obtain ⟨place, hplace, rfl⟩ := List.mem_map.mp hy
      exact (hinner place hplace).inBounds
  exact List.forall_mem_cons.mpr
    ⟨⟨c.refl y.type, hbounds⟩, fun place hplace => hinner place (parts_subset hy hplace)⟩

/-- A value that is inside of what was given may stand wherever its type fits. -/
theorem sound_of_given (hgiven : ∀ z ∈ given, z.Kept c) (hx : x ∈ partsOf given)
    (hisA : c.isA x.type s = true) : x.Sound c given s := by
  obtain ⟨z, hz, hxz⟩ := List.mem_flatMap.mp hx
  obtain ⟨hwhole, hinner⟩ := List.forall_mem_cons.mp ((hgiven z hz).part hxz)
  refine List.forall_mem_cons.mpr ⟨⟨⟨hisA, hwhole.inBounds⟩, .inr hx⟩, fun place hplace => ?_⟩
  have hheld : place.held ∈ partsOf given :=
    List.mem_flatMap.mpr ⟨z, hz, parts_trans hxz (mem_parts_of_mem_inner hplace)⟩
  exact ⟨hinner place hplace, .inr hheld⟩

/-- A value that was built by types alone is sound. -/
theorem sound_instantiate {v : Value} (h : s.Admits v) : (s.instantiate v).Sound c given s := by
  intro place hplace
  have hexact := Schema.exact_places s v place hplace
  have hisA : c.isA place.held.type place.declared = true := by
    rw [show place.held.type = place.declared from hexact]
    exact c.refl place.declared
  exact ⟨⟨hisA, Schema.inBounds_places h place hplace⟩, .inl hexact⟩

/-- What was made of a value is sound if the value belongs to the type. -/
theorem sound_of_map {r : Except Fault Value} (h : r.map s.instantiate = .ok x)
    (hadmits : ∀ v, r = .ok v → s.Admits v) : x.Sound c given s := by
  obtain ⟨v, hv, rfl⟩ := map_eq_ok_iff.mp h
  exact sound_instantiate (hadmits v hv)

theorem length_values (xs : List Instance) : (values xs).length = xs.length := by
  induction xs with
  | nil => rfl
  | cons x xs ih => rw [values, List.length_cons, List.length_cons, ih]

theorem sound_innerRow {element : Schema} {xs : List Instance}
    (h : ∀ x ∈ xs, x.Sound c given element) :
    ∀ place ∈ innerRow element xs, place.Sound c given := by
  rw [innerRow_eq_flatMap, List.forall_mem_flatMap]
  exact h

/-- A value of the declared type itself that keeps to its bounds is sound if all places
    inside it are. -/
theorem sound_of_inner (htype : x.type = s) (hbounds : x.typed.InBounds)
    (hinner : ∀ place ∈ x.inner, place.Sound c given) : x.Sound c given s := by
  rw [← htype]
  exact List.forall_mem_cons.mpr ⟨⟨⟨c.refl x.type, hbounds⟩, .inl rfl⟩, hinner⟩

end Instance

namespace Schema

open Instance (partsOf partsOf_subset subset_partsOf innerFields innerFields_cons length_values
  sound_of_given sound_of_map sound_instantiate sound_of_inner sound_innerRow)

variable {c : Classes} {given : List Instance} {s : Schema} {i : Input} {x : Instance}

/-! ### The ways of a check -/

/-- What is kept was handed over, and fits. -/
theorem sound_of_keep (hgiven : ∀ z ∈ given, z.Kept c) (hi : i.handed ⊆ partsOf given)
    {otherwise : Except Fault Instance} (h : c.keep s i otherwise = .ok x)
    (hother : otherwise = .ok x → x.Sound c given s) : x.Sound c given s := by
  unfold Classes.keep at h
  split at h
  · rename_i y
    split at h
    · rename_i hisA
      rw [← Except.ok.inj h]
      exact sound_of_given hgiven (hi (List.mem_singleton_self y)) hisA
    · exact hother h
  · exact hother h

/-- What is accepted as a collection is made of contents, which hand over no more. -/
theorem acceptCollection_eq_ok {contents : Input → Except Fault Instance} {absent : Input}
    (habsent : absent.handed = []) (h : acceptCollection contents absent i = .ok x) :
    ∃ j, j.handed ⊆ i.handed ∧ contents j = .ok x := by
  unfold acceptCollection at h
  split at h
  · rename_i fields hfields
    refine ⟨_, ?_, Fault.under_eq_ok (Fault.closed_eq_ok h).1⟩
    cases hdata : fields.lookup ↑"data" with
    | none =>
        rw [Option.getD_none, habsent]
        exact List.nil_subset _
    | some j =>
        obtain ⟨front, back, rfl, -⟩ := List.lookup_eq_some_iff.mp hdata
        exact Input.handed_fields hfields _ (List.mem_append_right front List.mem_cons_self)
  · exact ⟨i, List.Subset.refl i.handed, Fault.under_eq_ok h⟩

/-- What is accepted as a bit string belongs to the type or is made of contents. -/
theorem acceptBitfield_eq_ok {contents : Input → Except Fault Instance}
    (h : acceptBitfield s contents i = .ok x) :
    (∃ v, s.Admits v ∧ s.instantiate v = x) ∨ ∃ j, contents j = .ok x := by
  unfold acceptBitfield at h
  split at h
  · obtain ⟨v, hv, rfl⟩ := map_eq_ok_iff.mp h
    obtain ⟨bs, -, hdec⟩ := bind_eq_ok_iff.mp (Fault.refuse_eq_ok_iff.mp hv)
    exact .inl ⟨v, admits_of_decode s bs v hdec, rfl⟩
  · obtain ⟨j, -, hcontents⟩ := acceptCollection_eq_ok rfl h
    exact .inr ⟨j, hcontents⟩

theorem sound_of_bitfield {contents : Input → Except Fault Instance}
    (h : acceptBitfield s contents i = .ok x)
    (hcontents : ∀ j, contents j = .ok x → x.Sound c given s) : x.Sound c given s := by
  rcases acceptBitfield_eq_ok h with ⟨v, hv, rfl⟩ | ⟨j, hj⟩
  · exact sound_instantiate hv
  · exact hcontents j hj

/-- A number that is accepted is in the range of its type. -/
theorem number_lt_of_ofInput {name : String} {bits n : Nat}
    (h : Number.ofInput name bits i = .ok n) : n < Nat.pow 2 bits := by
  unfold Number.ofInput at h
  split at h
  · exact (Number.make_eq_ok_iff.mp h).2
  · exact (Number.ofInt_eq_ok_iff.mp h).2
  · exact absurd h (by simp only [reduceCtorEq, not_false_eq_true])
  · split at h
    · exact (Number.ofInt_eq_ok_iff.mp h).2
    · exact absurd h (by simp only [reduceCtorEq, not_false_eq_true])
  · exact absurd h (by simp only [reduceCtorEq, not_false_eq_true])

theorem number_lt_of_accept {name : String} {bits n : Nat}
    (h : Number.accept name bits i = .ok n) : n < Nat.pow 2 bits := by
  unfold Number.accept at h
  split at h
  · exact (Number.read_eq_ok_iff.mp h).2
  · exact number_lt_of_ofInput (Fault.refuse_eq_ok_iff.mp h)

theorem sound_number {name : String} {bits n : Nat} (h : n < Nat.pow 2 bits) :
    (Instance.uint (.uint name bits) n).Sound c given (.uint name bits) :=
  sound_instantiate (s := .uint name bits) (v := .uint n) h

/-- A value that is looked at once more is kept, or it is a number and made anew. -/
theorem sound_of_made (hx : x.Sound c given s) {y : Instance}
    (h : s.accept c (.made x) = .ok y) : y.Sound c given s := by
  have hisA : c.isA x.type s = true := (hx ⟨s, x⟩ List.mem_cons_self).isA
  -- The value was built here and need not be inside of what was given, so it does not go
  -- through `sound_of_given`; it is sound already, and only numbers do not stay what they are.
  cases s with
  | uint name bits =>
      rw [accept] at h
      obtain ⟨n, hn, rfl⟩ := map_eq_ok_iff.mp h
      exact sound_number (number_lt_of_accept hn)
  | bytes | byteList | bitvector | bitlist | vector | list | container =>
      rw [accept, Classes.keep, if_pos hisA] at h
      rwa [← Except.ok.inj h]
  | unfinished name outline =>
      cases outline <;>
        · simp only [accept, Classes.keep, if_pos hisA] at h
          rwa [← Except.ok.inj h]

/-- The elements of a sequence are sound if what is accepted as one is. -/
theorem sound_of_acceptElements {element : Schema} {xs : List Instance}
    (hgiven : ∀ z ∈ given, z.Kept c) (hi : i.handed ⊆ partsOf given)
    (h : acceptElements c element (element.accept c) i = .ok xs)
    (helement : ∀ item x, item.handed ⊆ partsOf given → element.accept c item = .ok x →
      x.Sound c given element) : ∀ x ∈ xs, x.Sound c given element := by
  unfold acceptElements at h
  split at h
  · exact absurd h (by simp only [reduceCtorEq, not_false_eq_true])
  rename_i items hitems
  intro x hx
  obtain ⟨item, hitem, hkeep⟩ := exists_of_mapM h x hx
  have hhanded : item.handed ⊆ partsOf given :=
    List.Subset.trans (Input.handed_items hitems item hitem) (partsOf_subset hi)
  -- An element that fits is kept before it is checked, and then it is none of the new ones.
  exact sound_of_keep hgiven hhanded hkeep fun hother =>
    helement item x hhanded (checkedElement_eq_ok_iff.mp hother)

/-- Looking at elements once more leaves as many, and all of them sound. -/
theorem sound_of_acceptAgain {element : Schema} {n : Nat} {xs ys : List Instance}
    (h : acceptAgain (element.accept c) n xs = .ok ys)
    (hxs : ∀ x ∈ xs, x.Sound c given element) :
    ys.length = xs.length ∧ ∀ y ∈ ys, y.Sound c given element := by
  induction xs generalizing n ys with
  | nil =>
      rw [← Except.ok.inj h]
      exact ⟨rfl, hxs⟩
  | cons x xs ih =>
      rw [acceptAgain] at h
      obtain ⟨hx, hrest⟩ := List.forall_mem_cons.mp hxs
      obtain ⟨y, more, hy, hmore, rfl⟩ := Fault.collect_eq_ok h
      obtain ⟨hlength, hsound⟩ := ih hmore hrest
      refine ⟨?_, List.forall_mem_cons.mpr ⟨sound_of_made hx (Fault.under_eq_ok hy), hsound⟩⟩
      rw [List.length_cons, List.length_cons, hlength]

theorem sound_of_acceptRow {element : Schema} {xs : List Instance}
    (h : acceptRow c s (element.accept c) xs = .ok x)
    (hxs : ∀ x ∈ xs, x.Sound c given element) :
    ∃ ys, x = .row s ys ∧ ys.length = xs.length ∧ ∀ y ∈ ys, y.Sound c given element := by
  obtain ⟨ys, hys, rfl⟩ := map_eq_ok_iff.mp h
  split at hys
  · obtain ⟨hlength, hsound⟩ := sound_of_acceptAgain hys hxs
    exact ⟨ys, rfl, hlength, hsound⟩
  · rw [← Except.ok.inj hys]
    exact ⟨xs, rfl, rfl, hxs⟩

/-- A sequence is sound if it is made of elements that are, and their number is right. -/
theorem sound_of_sequence {element : Schema} {p : Nat → Prop} [DecidablePred p] {e : Nat → Fault}
    (hgiven : ∀ z ∈ given, z.Kept c) (hi : i.handed ⊆ partsOf given)
    (h : acceptCollection (fun i => do
      let xs ← acceptElements c element (element.accept c) i
      if p xs.length then acceptRow c s (element.accept c) xs else .error (e xs.length))
      (.data (.tuple [])) i = .ok x)
    (helement : ∀ item x, item.handed ⊆ partsOf given → element.accept c item = .ok x →
      x.Sound c given element)
    (hinner : ∀ ys, (Instance.row s ys).inner = Instance.innerRow element ys)
    (hbounds : ∀ vs, p vs.length → (Typed.mk s (.row vs)).InBounds) : x.Sound c given s := by
  obtain ⟨j, hj, hcontents⟩ := acceptCollection_eq_ok rfl h
  obtain ⟨xs, hxs, hcount⟩ := bind_eq_ok_iff.mp hcontents
  have hsound := sound_of_acceptElements hgiven (List.Subset.trans hj hi) hxs helement
  split at hcount
  · rename_i hlength
    obtain ⟨ys, rfl, hys, hsound⟩ := sound_of_acceptRow hcount hsound
    refine sound_of_inner rfl (hbounds _ ?_) ?_
    · rwa [length_values, hys]
    · rw [hinner]
      exact sound_innerRow hsound
  · exact absurd hcount (by simp only [reduceCtorEq, not_false_eq_true])

theorem unfinished_accept_ne_ok {name : String} {outline : Outline} {lacks : String}
    (h : acceptBitfield (.unfinished name outline) (fun _ => .error (.undefined name lacks)) i
      = .ok x) : False := by
  rcases acceptBitfield_eq_ok h with ⟨v, hv, -⟩ | ⟨j, hj⟩
  · exact hv
  · exact absurd hj (by simp only [reduceCtorEq, not_false_eq_true])

mutual

/-- Whatever is accepted as a value of a type is sound in every place. -/
theorem sound_accept (hgiven : ∀ z ∈ given, z.Kept c) : ∀ (s : Schema) (i : Input) (x : Instance),
    i.handed ⊆ partsOf given → s.accept c i = .ok x → x.Sound c given s
  | .uint name bits, i, x, hi, h => by
      rw [accept] at h
      obtain ⟨n, hn, rfl⟩ := map_eq_ok_iff.mp h
      exact sound_number (number_lt_of_accept hn)
  | .bytes name length, i, x, hi, h => by
      rw [accept] at h
      refine sound_of_keep hgiven hi h fun hbytes => sound_of_map hbytes fun v hv => ?_
      obtain ⟨bs, -, hlength, rfl⟩ := checkedBytes_eq_ok_iff.mp (Fault.refuse_eq_ok_iff.mp hv)
      exact hlength
  | .byteList name limit, i, x, hi, h => by
      rw [accept] at h
      refine sound_of_keep hgiven hi h fun hbytes => ?_
      obtain ⟨j, -, hj⟩ := acceptCollection_eq_ok rfl hbytes
      refine sound_of_map hj fun v hv => ?_
      obtain ⟨bs, -, hlimit, rfl⟩ := checkedByteList_eq_ok_iff.mp hv
      exact hlimit
  | .bitvector name length, i, x, hi, h => by
      rw [accept] at h
      refine sound_of_keep hgiven hi h fun hbits => sound_of_bitfield hbits fun j hj => ?_
      refine sound_of_map hj fun v hv => ?_
      obtain ⟨bits, -, hlength, rfl⟩ := checkedBitvector_eq_ok_iff.mp hv
      exact hlength
  | .bitlist name limit, i, x, hi, h => by
      rw [accept] at h
      refine sound_of_keep hgiven hi h fun hbits => sound_of_bitfield hbits fun j hj => ?_
      refine sound_of_map hj fun v hv => ?_
      obtain ⟨bits, -, hlimit, rfl⟩ := checkedBitlist_eq_ok_iff.mp hv
      exact hlimit
  | .vector name element length, i, x, hi, h => by
      rw [accept] at h
      refine sound_of_keep hgiven hi h fun hrow => ?_
      exact sound_of_sequence (p := (· = length))
        (e := fun n => Fault.problem (.refused (.elementCount name length n))) hgiven hi hrow
        (sound_accept hgiven element) (fun _ => rfl) fun _ hlength => hlength
  | .list name element limit, i, x, hi, h => by
      rw [accept] at h
      refine sound_of_keep hgiven hi h fun hrow => ?_
      exact sound_of_sequence (p := (· ≤ limit))
        (e := fun n => Fault.problem (.refused (.elementLimit name limit n))) hgiven hi hrow
        (sound_accept hgiven element) (fun _ => rfl) fun _ hlimit => hlimit
  | .container name fields, i, x, hi, h => by
      rw [accept] at h
      refine sound_of_keep hgiven hi h fun hrecord => ?_
      split at hrecord
      · rename_i entries hentries
        obtain ⟨xs, hxs, rfl⟩ := map_eq_ok_iff.mp (Fault.closed_eq_ok hrecord).1
        obtain ⟨hlength, hsound⟩ := sound_acceptFields hgiven fields entries xs
          (fun field hfield => List.Subset.trans (Input.handed_fields hentries field hfield) hi) hxs
        exact sound_of_inner rfl ((length_values xs).trans hlength) hsound
      · exact absurd hrecord (by simp only [Fault.problem, reduceCtorEq, not_false_eq_true])
  | .unfinished name outline, i, x, hi, h => by
      -- A type that is not complete has no values of its own.
      cases outline with
      | bytes =>
          rw [accept] at h
          refine sound_of_keep hgiven hi h fun hbytes => sound_of_map hbytes fun v hv => ?_
          exact absurd (Fault.refuse_eq_ok_iff.mp hv) checkedLengthless_ne_ok
      | bitvector | bitlist =>
          rw [accept] at h
          exact sound_of_keep hgiven hi h fun hbits => (unfinished_accept_ne_ok hbits).elim
      | byteList | vector | vectorOf | list | listOf =>
          simp only [accept] at h
          refine sound_of_keep hgiven hi h fun hcontents => ?_
          exact absurd hcontents (by simp only [reduceCtorEq, not_false_eq_true])

theorem sound_acceptFields (hgiven : ∀ z ∈ given, z.Kept c) : ∀ (fields : Fields)
    (entries : List (Text × Input)) (xs : List Instance),
    (∀ field ∈ entries, field.2.handed ⊆ partsOf given) → acceptFields c entries fields = .ok xs →
    xs.length = fields.toList.length ∧ ∀ place ∈ innerFields fields xs, place.Sound c given
  | .nil, entries, xs, _, h => by
      rw [acceptFields] at h
      rw [← Except.ok.inj h]
      exact ⟨rfl, fun place hplace => absurd hplace List.not_mem_nil⟩
  | .cons name type rest, entries, xs, hentries, h => by
      rw [acceptFields] at h
      obtain ⟨x, more, hx, hmore, rfl⟩ := Fault.collect_eq_ok h
      obtain ⟨j, hlookup, hj⟩ := Fault.required_eq_ok hx
      obtain ⟨front, back, rfl, -⟩ := List.lookup_eq_some_iff.mp hlookup
      have hhanded := hentries _ (List.mem_append_right front List.mem_cons_self)
      obtain ⟨hlength, hsound⟩ := sound_acceptFields hgiven rest _ more hentries hmore
      rw [innerFields_cons, List.forall_mem_append]
      refine ⟨?_, sound_accept hgiven type j x hhanded hj, hsound⟩
      rw [Fields.toList, List.length_cons, List.length_cons, hlength]

end

end Schema

namespace Schema

/-- The bounds of a type are no wider than those of another one. -/
def Within (t s : Schema) : Prop := ∀ v, (Typed.mk t v).InBounds → (Typed.mk s v).InBounds

end Schema

end Beacon
