import Beacon.Failure.Kind
import Beacon.Proofs.Ssz.Extent

/-!
# The Sizes That Types Declare

A type of fixed size declares how many bytes its values take, and whoever cuts
bytes apart takes its word for it. The declaration is read off the type alone,
while an encoding is written from a value, so that the two agree has to be proved,
and at every depth.

One half is that an encoding has the declared size if there is one. The other half
is that there always is one. Encoding a value of a well-formed type can fail in one
way only, by an offset that is too wide. Offsets stand in front of members of
variable size, and a type of fixed size has no such members anywhere inside, so
that its values have no offsets to fail with (`pointers_of_isFixed`).

A type of variable size has nothing to declare and says so under its own name, also
if it is something deep inside that varies (`size_of_not_isFixed`).

## Theorems

* `pointers_of_isFixed`: A value of a type of fixed size has no offsets in it.
* `encodes_of_isFixed`: It is encoded, in the size that its type declares.
* `size_of_not_isFixed`: A type of variable size declares none.
* `size_declared`: What types declare and what their values take.
-/

namespace Beacon

namespace Layout

/-- There are no offsets in front of members of fixed size. -/
theorem starts_of_fixed (start : Nat) (es : List Extent) (h : ∀ e ∈ es, e.fixed = true) :
    starts start es = [] := by
  induction es with
  | nil => rfl
  | cons e rest ih =>
      rw [List.forall_mem_cons] at h
      rw [starts, if_pos h.1, ih h.2]

theorem places_of_fixed (es : List Extent) (h : ∀ e ∈ es, e.fixed = true) : places es = [] :=
  starts_of_fixed _ es h

end Layout

namespace Schema

open Layout

/-! ### Types of fixed size -/

theorem fixed_of_mem_rowExtents (element : Schema) (vs : List Value)
    (h : element.isFixed = true) : ∀ e ∈ rowExtents element vs, e.fixed = true := by
  intro e he
  obtain ⟨v, -, rfl⟩ := List.mem_map.mp he
  exact h

theorem fixed_of_mem_extents (fields : Fields) (vs : List Value) (h : areFixed fields = true) :
    ∀ e ∈ extents fields vs, e.fixed = true := by
  induction vs generalizing fields with
  | nil =>
      cases fields <;> exact fun e he => absurd he List.not_mem_nil
  | cons v vs ih =>
      cases fields with
      | nil => exact fun e he => absurd he List.not_mem_nil
      | cons name type rest =>
          simp only [areFixed, Bool.and_eq_true] at h
          rw [extents, List.forall_mem_cons]
          exact ⟨h.1, ih rest h.2⟩

/-- A row has no offsets if its elements are of fixed size and have none. -/
theorem rowPointers_of_isFixed (element : Schema) (vs : List Value) (h : element.isFixed = true)
    (hpointers : ∀ v ∈ vs, element.pointers v = []) :
    places (rowExtents element vs) ++ vs.flatMap element.pointers = [] := by
  rw [places_of_fixed _ (fixed_of_mem_rowExtents element vs h), List.nil_append,
    List.flatMap_eq_nil_iff]
  exact hpointers

mutual

/-- A value of a type of fixed size has no offsets in it, at any depth. -/
theorem pointers_of_isFixed : ∀ (s : Schema) (v : Value), s.isFixed = true → s.pointers v = []
  | .vector _ element _, .row vs, h => by
      rw [pointers]
      exact rowPointers_of_isFixed element vs h fun v _ => pointers_of_isFixed element v h
  | .container _ fields, .row vs, h => by
      rw [pointers, places_of_fixed _ (fixed_of_mem_extents fields vs h), List.nil_append]
      exact fieldPointers_of_areFixed fields vs h
  | .list _ _ _, _, h => absurd h Bool.false_ne_true
  | .uint _ _, _, _ | .bytes _ _, _, _ | .byteList _ _, _, _ | .bitvector _ _, _, _
  | .bitlist _ _, _, _ | .unfinished _ _, _, _ | .vector _ _ _, .uint _, _
  | .vector _ _ _, .bytes _, _ | .vector _ _ _, .bits _, _ | .container _ _, .uint _, _
  | .container _ _, .bytes _, _ | .container _ _, .bits _, _ => rfl

/-- Nor have the values of fields of fixed size. -/
theorem fieldPointers_of_areFixed : ∀ (fields : Fields) (vs : List Value),
    areFixed fields = true → fieldPointers fields vs = []
  | .cons _ type rest, v :: vs, h => by
      simp only [areFixed, Bool.and_eq_true] at h
      rw [fieldPointers, pointers_of_isFixed type v h.1, fieldPointers_of_areFixed rest vs h.2]
      rfl
  | .nil, _, _ | .cons _ _ _, [], _ => rfl

end

/-- Every value of a type of fixed size is encoded, and in the size that the type
    declares. -/
theorem encodes_of_isFixed (s : Schema) (v : Value) (h : s.every whole = true)
    (hadmits : s.Admits v) (hfix : s.isFixed = true) :
    ∃ bs, s.encode v = .ok bs ∧ bs.length = s.fixedSize := by
  have hfit : ∀ n ∈ s.pointers v, n < Nat.pow 256 offsetSize := by
    rw [pointers_of_isFixed s v hfix]
    exact List.forall_mem_nil _
  obtain ⟨bs, hbs⟩ := (encodes_iff s v h hadmits).mpr hfit
  exact ⟨bs, hbs, length_encode s v bs h hadmits hbs hfix⟩

/-! ### Types of variable size -/

/-- A type of variable size declares no size, and it is the type itself that is
    named for it. -/
theorem size_of_not_isFixed (s : Schema) (h : s.every whole = true) (hvary : s.isFixed = false) :
    s.size = .error (.variableSize s.name) := by
  cases s with
  | vector name element length =>
      simp only [every, Bool.and_eq_true] at h
      rw [isFixed] at hvary
      rw [size, fixedness_of_whole element h.2, hvary]
      rfl
  | container name fields =>
      simp only [every, Bool.and_eq_true] at h
      rw [isFixed] at hvary
      rw [size, fieldFixedness_of_whole fields h.2, hvary]
      rfl
  | byteList name limit | bitlist name limit | list name element limit => rfl
  | uint name bits | bytes name length | bitvector name length => exact Bool.noConfusion hvary
  | unfinished name outline => exact absurd h Bool.false_ne_true

/-- A well-formed type tells whether it is of fixed size. It refuses to declare a size
    exactly if it is not, with a type error in its own name. If it is, then every value
    of it has an encoding of exactly the declared number of bytes. -/
theorem size_declared (s : Schema) (h : s.WellFormed) :
    ∃ fixed, s.fixedness = .ok fixed ∧
      ((∃ fault, s.size = .error fault ∧ fault.kind = .sszType) ↔ fixed = false) ∧
      (∀ fault, s.size = .error fault → fault = .variableSize s.name) ∧
      (fixed = true → ∃ size, s.size = .ok size ∧
        ∀ v, s.Admits v → ∃ bs, s.encode v = .ok bs ∧ bs.length = size) := by
  refine ⟨s.isFixed, fixedness_of_whole s h, ?_⟩
  cases hfix : s.isFixed with
  | true =>
      have hsize := size_of_whole s h hfix
      rw [hsize]
      refine ⟨iff_of_false ?_ (Ne.symm Bool.false_ne_true), ?_, fun _ => ⟨_, rfl, ?_⟩⟩
      · rintro ⟨fault, hfault, -⟩
        exact absurd hfault (by simp only [reduceCtorEq, not_false_eq_true])
      · intro fault hfault
        exact absurd hfault (by simp only [reduceCtorEq, not_false_eq_true])
      · exact fun v hadmits => encodes_of_isFixed s v h hadmits hfix
  | false =>
      have hsize := size_of_not_isFixed s h hfix
      rw [hsize]
      refine ⟨iff_of_true ⟨_, rfl, rfl⟩ rfl, ?_, ?_⟩
      · intro fault hfault
        exact (Except.error.inj hfault).symm
      · exact fun hfixed => absurd hfixed Bool.false_ne_true

/-- Bits that do not fill their last byte, in a row of containers of fixed size. -/
theorem size_declared_record :
    let s := record "Pair" [("slot", uint64),
      ("rows", .vector "Rows" (record "Row" [("bits", .bitvector "Flags" 9),
        ("tag", .bytes "Tag" 3)]) 2)]
    let row := Value.row [.bits (List.replicate 9 true), .bytes [1, 2, 3]]
    let v := Value.row [.uint 5, .row [row, row]]
    s.WellFormed ∧ s.fixedness = .ok true ∧ s.size = .ok 18 ∧ s.Admits v ∧
      ∃ bs, s.encode v = .ok bs ∧ bs.length = 18 := by
  intro s row v
  have hwhole : s.WellFormed := by decide
  have hfix : s.fixedness = .ok true := by decide
  have hsize : s.size = .ok 18 := by decide
  have hadmits : s.Admits v := by decide
  obtain ⟨fixed, hfixed, -, -, hencodes⟩ := size_declared s hwhole
  obtain rfl := Except.ok.inj (hfix.symm.trans hfixed)
  obtain ⟨size, hdeclared, hall⟩ := hencodes rfl
  obtain rfl := Except.ok.inj (hsize.symm.trans hdeclared)
  exact ⟨hwhole, hfix, hsize, hadmits, hall v hadmits⟩

end Schema

end Beacon
