import Beacon.Proofs.Ssz.EncodedSize
import Beacon.Proofs.Ssz.Overflow

/-!
# How Far a Value Extends

Whether a value can be encoded is told by its sizes, without encoding it.

The layout of members depends on their bytes only through how many there are. So the
size of an encoding and the offsets in it can be computed by going through the value,
also when the offsets are too wide to be written. A value of a well-formed type has an
encoding exactly if none of its offsets is, at any depth.

No offset exceeds the size of what it is in, because bytes of the value lie before the
place that it names. And a value is no larger than the limits of its type allow, so that
for most types no value has an offset that is too wide.

## Main definitions

* `Layout.Extent`: The size of a member, and whether it is fixed.
* `Layout.places`, `Layout.width`: The offsets in front of members and the size of all.
* `Schema.span`: The size of a value.
* `Schema.pointers`: The offsets in a value at any depth.
* `Schema.maxSpan`: The size that the limits of a type allow.

## Theorems

* `Schema.length_eq_span`: Encodings have the size that is computed.
* `Schema.encodes_iff`: A value is encoded exactly if its offsets fit.
* `Schema.pointer_le_span`: Offsets do not exceed the size.
* `Schema.span_le_maxSpan`: Nor does the size exceed what the type allows.
-/

namespace Beacon

open Outcome

namespace Layout

/-- The size of a member. -/
structure Extent where
  /-- Whether the member is of fixed size. -/
  fixed : Bool
  /-- The number of its bytes. -/
  size : Nat
  deriving DecidableEq, Repr

namespace Extent

/-- The room that a member takes in the fixed part. -/
def head (e : Extent) : Nat := if e.fixed then e.size else offsetSize

/-- The room that a member takes in all. -/
def width (e : Extent) : Nat := if e.fixed then e.size else offsetSize + e.size

end Extent

/-- The extent of a part. -/
def Part.extent (p : Part) : Extent := ⟨p.fixed, p.bytes.length⟩

/-- Where members of variable size start, the next of them at `start`. -/
def starts (start : Nat) : List Extent → List Nat
  | [] => []
  | e :: rest => if e.fixed then starts start rest else start :: starts (start + e.size) rest

/-- The offsets in front of members that are laid out. -/
def places (es : List Extent) : List Nat := starts (total (es.map Extent.head)) es

/-- The room that members take when they are laid out. -/
def width (es : List Extent) : Nat := total (es.map Extent.width)

theorem map_head_extent (parts : List Part) :
    (parts.map Part.extent).map Extent.head = parts.map Part.headSize := by
  rw [List.map_map]
  rfl

theorem starts_extent (start : Nat) (parts : List Part) :
    starts start (parts.map Part.extent) = offsets start (tails parts) := by
  induction parts generalizing start with
  | nil => rfl
  | cons p rest ih =>
      rw [List.map_cons, starts, tails_cons, ih, ih, Part.extent]
      cases p.fixed <;> rfl

/-- Parts are laid out exactly if their offsets fit. -/
theorem encodes_iff (parts : List Part) :
    (∃ bs, encode parts = .ok bs) ↔
      ∀ n ∈ places (parts.map Part.extent), n < Nat.pow 256 offsetSize := by
  rw [places, map_head_extent, starts_extent]
  exact ⟨fun ⟨bs, hbs⟩ => ((encode_eq_ok_iff parts bs).mp hbs).1,
    fun hfit => ⟨_, (encode_eq_ok_iff parts _).mpr ⟨hfit, rfl⟩⟩⟩

/-- The fixed part and the variable part are the room of the members. -/
theorem total_heads_add_tails (parts : List Part) :
    total (parts.map Part.headSize) + (tails parts).flatten.length
      = width (parts.map Part.extent) := by
  induction parts with
  | nil => rfl
  | cons p rest ih =>
      rw [width, List.map_cons, List.map_cons, List.map_cons, total, total, tails_cons,
        ← width, ← ih, Part.headSize, Extent.width, Part.extent]
      cases p.fixed with
      | true =>
          simp only [if_true]
          omega
      | false =>
          simp only [Bool.false_eq_true, if_false, List.flatten_cons, List.length_append]
          omega

/-- Parts that are laid out take the room that their extents say. -/
theorem length_eq_width {parts : List Part} {bs : Bytes} (h : encode parts = .ok bs) :
    bs.length = width (parts.map Part.extent) := by
  obtain ⟨-, rfl⟩ := (encode_eq_ok_iff parts bs).mp h
  rw [List.length_append, length_flatten_entries, total_heads_add_tails]

theorem heads_le_width (es : List Extent) : total (es.map Extent.head) ≤ width es := by
  induction es with
  | nil => exact Nat.le_refl 0
  | cons e rest ih =>
      rw [width, List.map_cons, List.map_cons, total, total, ← width, Extent.head, Extent.width]
      split <;> omega

/-- Members of variable size start behind the fixed part, and end with the last of them. -/
theorem start_add_le_width (start : Nat) (es : List Extent) :
    ∀ n ∈ starts start es, n + total (es.map Extent.head) ≤ start + width es := by
  induction es generalizing start with
  | nil => exact fun n hn => absurd hn List.not_mem_nil
  | cons e rest ih =>
      rw [starts, width, List.map_cons, List.map_cons, total, total, ← width, Extent.head,
        Extent.width]
      cases e.fixed with
      | true =>
          intro n hn
          have hrest := ih start n hn
          simp only [if_true]
          omega
      | false =>
          have hrest := heads_le_width rest
          simp only [Bool.false_eq_true, if_false, List.forall_mem_cons]
          refine ⟨by omega, fun n hn => ?_⟩
          have hrest := ih (start + e.size) n hn
          omega

theorem size_le_width {es : List Extent} {e : Extent} (h : e ∈ es) : e.size ≤ width es := by
  induction es with
  | nil => exact absurd h List.not_mem_nil
  | cons first rest ih =>
      rw [width, List.map_cons, total, ← width]
      rcases List.mem_cons.mp h with rfl | hrest
      · rw [Extent.width]
        split <;> omega
      · exact Nat.le_add_left_of_le (ih hrest)

/-- Members start inside the room that they take. -/
theorem place_le_width (es : List Extent) : ∀ n ∈ places es, n ≤ width es := by
  intro n hn
  have hstart := start_add_le_width _ es n hn
  omega

end Layout

namespace Schema

open Layout

mutual

/-- The size of a value. -/
def span : Schema → Value → Nat
  | .uint _ bits, _ => bits / 8
  | .bytes _ length, _ => length
  | .byteList _ _, .bytes bs => bs.length
  | .bitvector _ length, _ => (length + 7) / 8
  | .bitlist _ _, .bits bits => bits.length / 8 + 1
  | .vector _ element _, .row vs => width (vs.map fun v => ⟨element.isFixed, element.span v⟩)
  | .list _ element _, .row vs => width (vs.map fun v => ⟨element.isFixed, element.span v⟩)
  | .container _ fields, .row vs => width (extents fields vs)
  | _, _ => 0

/-- The extents of the values of fields. -/
def extents : Fields → List Value → List Extent
  | .cons _ type rest, v :: vs => ⟨type.isFixed, type.span v⟩ :: extents rest vs
  | _, _ => []

end

/-- The extents of the elements of a sequence. -/
def rowExtents (element : Schema) (vs : List Value) : List Extent :=
  vs.map fun v => ⟨element.isFixed, element.span v⟩

mutual

/-- The offsets in a value, at any depth. -/
def pointers : Schema → Value → List Nat
  | .vector _ element _, .row vs => places (rowExtents element vs) ++ vs.flatMap element.pointers
  | .list _ element _, .row vs => places (rowExtents element vs) ++ vs.flatMap element.pointers
  | .container _ fields, .row vs => places (extents fields vs) ++ fieldPointers fields vs
  | _, _ => []

/-- The offsets in the values of fields. -/
def fieldPointers : Fields → List Value → List Nat
  | .cons _ type rest, v :: vs => type.pointers v ++ fieldPointers rest vs
  | _, _ => []

end

/-! ### Encoding -/

/-- Elements that are encoded in the sizes that are computed. -/
theorem extents_items (element : Schema) (vs : List Value) (items : List Bytes)
    (hitems : List.Forall₂ (fun v item => element.encode v = .ok item) vs items)
    (hspan : ∀ v ∈ vs, ∀ item, element.encode v = .ok item → item.length = element.span v) :
    (items.map (Layout.Part.mk element.isFixed)).map Layout.Part.extent
      = rowExtents element vs := by
  induction hitems with
  | nil => rfl
  | @cons v item vs items hv _ ih =>
      obtain ⟨hitem, hrest⟩ := List.forall_mem_cons.mp hspan
      rw [List.map_cons, List.map_cons, ih hrest, Layout.Part.extent, hitem item hv]
      rfl

theorem length_encodeRow (element : Schema) (vs : List Value) (bs : Bytes)
    (h : element.every whole = true)
    (hspan : ∀ v ∈ vs, ∀ item, element.encode v = .ok item → item.length = element.span v)
    (hbs : encodeRow element vs = .ok bs) : bs.length = width (rowExtents element vs) := by
  obtain ⟨items, hitems, hlayout⟩ := (encodeRow_eq_ok_iff element h vs bs).mp hbs
  rw [length_eq_width hlayout, extents_items element vs items hitems hspan]

mutual

/-- Encodings have the size that is computed. -/
theorem length_eq_span : ∀ (s : Schema) (v : Value) (bs : Bytes), s.every whole = true →
    s.Admits v → s.encode v = .ok bs → bs.length = s.span v
  | .uint _ bits, .uint n, bs, h, hadmits, henc =>
      length_encode _ (.uint n) bs h hadmits henc rfl
  | .bytes _ length, .bytes data, bs, h, hadmits, henc =>
      length_encode _ (.bytes data) bs h hadmits henc rfl
  | .bitvector _ length, .bits bits, bs, h, hadmits, henc =>
      length_encode _ (.bits bits) bs h hadmits henc rfl
  | .byteList _ _, .bytes data, bs, _, _, henc => by
      rw [encode] at henc
      rw [← Except.ok.inj henc, span]
  | .bitlist _ _, .bits bits, bs, _, _, henc => by
      rw [encode] at henc
      rw [← Except.ok.inj henc, span, Bits.length_fill]
  | .vector name element length, .row vs, bs, h, hadmits, henc => by
      simp only [every, Bool.and_eq_true] at h
      rw [encode_vector] at henc
      rw [span]
      exact length_encodeRow element vs bs h.2
        (fun v hv item => length_eq_span element v item h.2 (hadmits.2 v hv)) henc
  | .list name element limit, .row vs, bs, h, hadmits, henc => by
      simp only [every, Bool.and_eq_true] at h
      rw [encode_list] at henc
      rw [span]
      exact length_encodeRow element vs bs h.2
        (fun v hv item => length_eq_span element v item h.2 (hadmits.2 v hv)) henc
  | .container name fields, .row vs, bs, h, hadmits, henc => by
      simp only [every, Bool.and_eq_true] at h
      rw [encode] at henc
      obtain ⟨parts, hparts, hbs⟩ := bind_eq_ok_iff.mp henc
      rw [length_eq_width hbs, extents_parts name fields vs parts h.2 hadmits hparts, span]
  | .unfinished _ _, _, _, h, _, _ => absurd h (by simp only [every, whole,
      Bool.false_eq_true, not_false_eq_true])

/-- Fields have the extents that are computed. -/
theorem extents_parts : ∀ (name : String) (fields : Fields) (vs : List Value)
    (parts : List Layout.Part), everyField whole fields = true → AdmitsAll fields vs →
    encodeAll name fields vs = .ok parts → parts.map Layout.Part.extent = extents fields vs
  | name, .nil, [], parts, _, _, hparts => by
      rw [← Except.ok.inj hparts]
      rfl
  | name, .cons field type rest, v :: vs, parts, h, hadmits, hparts => by
      simp only [everyField, Bool.and_eq_true] at h
      obtain ⟨bs, more, hbs, hmore, rfl⟩ :=
        (encodeAll_cons name field type rest v vs parts (fixedness_of_whole type h.1)).mp hparts
      rw [List.map_cons, extents_parts name rest vs more h.2 hadmits.2 hmore, extents,
        Layout.Part.extent, length_eq_span type v bs h.1 hadmits.1 hbs]
  | _, .nil, _ :: _, _, _, hadmits, _ => hadmits.elim
  | _, .cons _ _ _, [], _, _, hadmits, _ => hadmits.elim

end

/-- Elements are encoded one by one. -/
theorem exists_items_iff (element : Schema) (vs : List Value) :
    (∃ items, List.Forall₂ (fun v item => element.encode v = .ok item) vs items) ↔
      ∀ v ∈ vs, ∃ item, element.encode v = .ok item := by
  induction vs with
  | nil => exact iff_of_true ⟨[], .nil⟩ (List.forall_mem_nil _)
  | cons v vs ih =>
      rw [List.forall_mem_cons, ← ih]
      constructor
      · rintro ⟨_, _ | ⟨hitem, hitems⟩⟩
        exact ⟨⟨_, hitem⟩, _, hitems⟩
      · rintro ⟨⟨item, hitem⟩, items, hitems⟩
        exact ⟨item :: items, .cons hitem hitems⟩

/-- A row is encoded exactly if its offsets and those in its elements fit. -/
theorem encodesRow_iff (element : Schema) (vs : List Value) (h : element.every whole = true)
    (hadmits : ∀ v ∈ vs, element.Admits v)
    (hencodes : ∀ v ∈ vs, (∃ item, element.encode v = .ok item) ↔
      ∀ n ∈ element.pointers v, n < Nat.pow 256 offsetSize) :
    (∃ bs, encodeRow element vs = .ok bs) ↔
      ∀ n ∈ places (rowExtents element vs) ++ vs.flatMap element.pointers,
        n < Nat.pow 256 offsetSize := by
  have hspan : ∀ v ∈ vs, ∀ item, element.encode v = .ok item → item.length = element.span v :=
    fun v hv item => length_eq_span element v item h (hadmits v hv)
  simp only [encodeRow_eq_ok_iff element h]
  rw [List.forall_mem_append]
  constructor
  · rintro ⟨bs, items, hitems, hlayout⟩
    have hplaces := (Layout.encodes_iff _).mp ⟨bs, hlayout⟩
    rw [extents_items element vs items hitems hspan] at hplaces
    refine ⟨hplaces, fun n hn => ?_⟩
    obtain ⟨v, hv, hn⟩ := List.mem_flatMap.mp hn
    exact (hencodes v hv).mp ((exists_items_iff element vs).mp ⟨items, hitems⟩ v hv) n hn
  · rintro ⟨hplaces, hpointers⟩
    obtain ⟨items, hitems⟩ := (exists_items_iff element vs).mpr fun v hv =>
      (hencodes v hv).mpr fun n hn => hpointers n (List.mem_flatMap.mpr ⟨v, hv, hn⟩)
    rw [← extents_items element vs items hitems hspan] at hplaces
    obtain ⟨bs, hbs⟩ := (Layout.encodes_iff _).mpr hplaces
    exact ⟨bs, items, hitems, hbs⟩

/-- What has no members has no offsets, and is encoded. -/
theorem encodes_iff_of_no_pointers {s : Schema} {v : Value} {bs : Bytes} (h : s.encode v = .ok bs)
    (hpointers : s.pointers v = []) :
    (∃ bs, s.encode v = .ok bs) ↔ ∀ n ∈ s.pointers v, n < Nat.pow 256 offsetSize :=
  iff_of_true ⟨bs, h⟩ (hpointers ▸ List.forall_mem_nil _)

mutual

/-- A value is encoded exactly if its offsets fit. -/
theorem encodes_iff : ∀ (s : Schema) (v : Value), s.every whole = true → s.Admits v →
    ((∃ bs, s.encode v = .ok bs) ↔ ∀ n ∈ s.pointers v, n < Nat.pow 256 offsetSize)
  | .uint name bits, .uint n, h, hadmits =>
      encodes_iff_of_no_pointers (encode_uint name bits n h hadmits) rfl
  | .bytes _ _, .bytes _, _, _ => encodes_iff_of_no_pointers rfl rfl
  | .byteList _ _, .bytes _, _, _ => encodes_iff_of_no_pointers rfl rfl
  | .bitlist _ _, .bits _, _, _ => encodes_iff_of_no_pointers rfl rfl
  | .bitvector name length, .bits bits, _, hadmits => by
      have hlen : bits.length = length := hadmits
      have hbeyond : bits.drop (8 * ((length + 7) / 8)) = [] := List.drop_of_length_le (by omega)
      have hpack : (bitvector name length).encode (.bits bits)
          = .ok (Bits.fill ((length + 7) / 8) bits) := by
        rw [encode, Bits.pack, hbeyond]
        rfl
      exact encodes_iff_of_no_pointers hpack rfl
  | .vector name element length, .row vs, h, hadmits => by
      simp only [every, Bool.and_eq_true] at h
      rw [encode_vector, pointers]
      exact encodesRow_iff element vs h.2 hadmits.2 fun v hv =>
        encodes_iff element v h.2 (hadmits.2 v hv)
  | .list name element limit, .row vs, h, hadmits => by
      simp only [every, Bool.and_eq_true] at h
      rw [encode_list, pointers]
      exact encodesRow_iff element vs h.2 hadmits.2 fun v hv =>
        encodes_iff element v h.2 (hadmits.2 v hv)
  | .container name fields, .row vs, h, hadmits => by
      simp only [every, Bool.and_eq_true] at h
      have hall := encodesAll_iff name fields vs h.2 hadmits
      have hparts {parts : List Layout.Part} (hparts : encodeAll name fields vs = .ok parts) :=
        extents_parts name fields vs parts h.2 hadmits hparts
      rw [encode, pointers, List.forall_mem_append, ← hall]
      constructor
      · rintro ⟨bs, hbs⟩
        obtain ⟨parts, hencoded, hlayout⟩ := bind_eq_ok_iff.mp hbs
        have hplaces := (Layout.encodes_iff parts).mp ⟨bs, hlayout⟩
        rw [hparts hencoded] at hplaces
        exact ⟨hplaces, parts, hencoded⟩
      · rintro ⟨hplaces, parts, hencoded⟩
        rw [← hparts hencoded] at hplaces
        obtain ⟨bs, hlayout⟩ := (Layout.encodes_iff parts).mpr hplaces
        exact ⟨bs, bind_eq_ok_iff.mpr ⟨parts, hencoded, hlayout⟩⟩
  | .unfinished _ _, _, h, _ => absurd h (by simp only [every, whole,
      Bool.false_eq_true, not_false_eq_true])

/-- The fields of a row are encoded exactly if the offsets in their values fit. -/
theorem encodesAll_iff : ∀ (name : String) (fields : Fields) (vs : List Value),
    everyField whole fields = true → AdmitsAll fields vs →
    ((∃ parts, encodeAll name fields vs = .ok parts) ↔
      ∀ n ∈ fieldPointers fields vs, n < Nat.pow 256 offsetSize)
  | name, .nil, [], _, _ => iff_of_true ⟨[], rfl⟩ (List.forall_mem_nil _)
  | name, .cons field type rest, v :: vs, h, hadmits => by
      simp only [everyField, Bool.and_eq_true] at h
      have hfirst := encodes_iff type v h.1 hadmits.1
      have hrest := encodesAll_iff name rest vs h.2 hadmits.2
      rw [fieldPointers, List.forall_mem_append, ← hfirst, ← hrest]
      simp only [encodeAll_cons name field type rest v vs _ (fixedness_of_whole type h.1)]
      exact ⟨fun ⟨_, bs, more, hbs, hmore, _⟩ => ⟨⟨bs, hbs⟩, more, hmore⟩,
        fun ⟨⟨bs, hbs⟩, more, hmore⟩ => ⟨_, bs, more, hbs, hmore, rfl⟩⟩
  | _, .nil, _ :: _, _, hadmits => hadmits.elim
  | _, .cons _ _ _, [], _, hadmits => hadmits.elim

end

/-! ### Limits -/

theorem pointer_le_row (element : Schema) (vs : List Value)
    (h : ∀ v ∈ vs, ∀ n ∈ element.pointers v, n ≤ element.span v) :
    ∀ n ∈ places (rowExtents element vs) ++ vs.flatMap element.pointers,
      n ≤ width (rowExtents element vs) := by
  rw [List.forall_mem_append]
  refine ⟨place_le_width _, fun n hn => ?_⟩
  obtain ⟨v, hv, hn⟩ := List.mem_flatMap.mp hn
  have hextent : ⟨element.isFixed, element.span v⟩ ∈ rowExtents element vs :=
    List.mem_map_of_mem hv
  exact (h v hv n hn).trans (size_le_width hextent)

mutual

/-- Offsets do not exceed the size of the value that they are in. -/
theorem pointer_le_span : ∀ (s : Schema) (v : Value), ∀ n ∈ s.pointers v, n ≤ s.span v
  | .vector _ element _, .row vs => by
      rw [pointers, span]
      exact pointer_le_row element vs fun v _ => pointer_le_span element v
  | .list _ element _, .row vs => by
      rw [pointers, span]
      exact pointer_le_row element vs fun v _ => pointer_le_span element v
  | .container _ fields, .row vs => by
      rw [pointers, span, List.forall_mem_append]
      exact ⟨place_le_width _, fieldPointer_le_width fields vs⟩
  | .uint _ _, _ | .bytes _ _, _ | .byteList _ _, _ | .bitvector _ _, _ | .bitlist _ _, _
  | .unfinished _ _, _ | .vector _ _ _, .uint _ | .vector _ _ _, .bytes _
  | .vector _ _ _, .bits _ | .list _ _ _, .uint _ | .list _ _ _, .bytes _ | .list _ _ _, .bits _
  | .container _ _, .uint _ | .container _ _, .bytes _ | .container _ _, .bits _ =>
      fun _ hn => absurd hn List.not_mem_nil

/-- Offsets in the values of fields do not exceed the size of the fields. -/
theorem fieldPointer_le_width : ∀ (fields : Fields) (vs : List Value),
    ∀ n ∈ fieldPointers fields vs, n ≤ width (extents fields vs)
  | .cons _ type rest, v :: vs => by
      rw [fieldPointers, extents, List.forall_mem_append]
      refine ⟨fun n hn => ?_, fun n hn => ?_⟩
      · have hextent : ⟨type.isFixed, type.span v⟩ ∈ extents (.cons "" type rest) (v :: vs) :=
          List.mem_cons_self
        exact (pointer_le_span type v n hn).trans (size_le_width hextent)
      · exact (fieldPointer_le_width rest vs n hn).trans (Nat.le_add_left _ _)
  | .nil, _ | .cons _ _ _, [] => fun _ hn => absurd hn List.not_mem_nil

end

mutual

/-- The size that the limits of a type allow. -/
def maxSpan : Schema → Nat
  | .uint _ bits => bits / 8
  | .bytes _ length => length
  | .byteList _ limit => limit
  | .bitvector _ length => (length + 7) / 8
  | .bitlist _ limit => limit / 8 + 1
  | .vector _ element length => length * (Extent.mk element.isFixed element.maxSpan).width
  | .list _ element limit => limit * (Extent.mk element.isFixed element.maxSpan).width
  | .container _ fields => maxSpans fields
  | .unfinished _ _ => 0

/-- The sizes that the limits of the types of fields allow, together. -/
def maxSpans : Fields → Nat
  | .nil => 0
  | .cons _ type rest => (Extent.mk type.isFixed type.maxSpan).width + maxSpans rest

end

theorem width_mono (fixed : Bool) {m n : Nat} (h : m ≤ n) :
    (Extent.mk fixed m).width ≤ (Extent.mk fixed n).width := by
  cases fixed
  · exact Nat.add_le_add_left h _
  · exact h

theorem width_row_le (element : Schema) (vs : List Value)
    (h : ∀ v ∈ vs, element.span v ≤ element.maxSpan) :
    width (rowExtents element vs)
      ≤ vs.length * (Extent.mk element.isFixed element.maxSpan).width := by
  induction vs with
  | nil => exact Nat.zero_le _
  | cons v vs ih =>
      obtain ⟨hv, hvs⟩ := List.forall_mem_cons.mp h
      have hfirst := width_mono element.isFixed hv
      have hrest := ih hvs
      rw [List.length_cons, Nat.succ_mul, rowExtents, List.map_cons, ← rowExtents, width,
        List.map_cons, total, ← width]
      omega

mutual

/-- The size of a value does not exceed what the limits of its type allow. -/
theorem span_le_maxSpan : ∀ (s : Schema) (v : Value), s.Admits v → s.span v ≤ s.maxSpan
  | .uint _ _, .uint _, _ => Nat.le_refl _
  | .bytes _ _, .bytes _, _ => Nat.le_refl _
  | .byteList _ _, .bytes _, hadmits => hadmits
  | .bitvector _ _, .bits _, _ => Nat.le_refl _
  | .bitlist _ _, .bits _, hadmits => Nat.succ_le_succ (Nat.div_le_div_right hadmits)
  | .vector _ element length, .row vs, hadmits => by
      rw [span, maxSpan, ← hadmits.1]
      exact width_row_le element vs fun v hv => span_le_maxSpan element v (hadmits.2 v hv)
  | .list _ element limit, .row vs, hadmits => by
      rw [span, maxSpan]
      refine (width_row_le element vs fun v hv => ?_).trans (Nat.mul_le_mul_right _ hadmits.1)
      exact span_le_maxSpan element v (hadmits.2 v hv)
  | .container _ fields, .row vs, hadmits => width_fields_le fields vs hadmits

theorem width_fields_le : ∀ (fields : Fields) (vs : List Value), AdmitsAll fields vs →
    width (extents fields vs) ≤ maxSpans fields
  | .nil, [], _ => Nat.le_refl _
  | .cons _ type rest, v :: vs, hadmits =>
      Nat.add_le_add (width_mono type.isFixed (span_le_maxSpan type v hadmits.1))
        (width_fields_le rest vs hadmits.2)

end

end Schema

end Beacon
