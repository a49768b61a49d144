import Beacon.Proofs.Ssz.BitPacking
import Beacon.Proofs.Ssz.Complete
import Beacon.Proofs.Ssz.OffsetTable
import Beacon.Ssz.Decoding
import Beacon.Ssz.Encoding

/-!
# The Size of an Encoding

Encodings are cut apart by the sizes that types declare, so the sizes of types
and of encodings must agree. The two are computed apart, one by recursion over
the type and the other by writing the value down, and `length_encode` says that
for a type of fixed size they meet at every depth.

A container does not need to be of fixed size for this to matter: each of its
fields takes a place in the fixed part, and `map_headSize_encodeAll` says that
the places are as wide as the fields' types declare, an offset standing for a
field of variable size.

Vectors and lists are encoded alike, so what their encoding consists of is said
once, for a row of elements.

## Main definitions

* `encodeRow`: The encoding of the elements of a sequence.

## Theorems

* `encodeRow_eq_ok_iff`: A row is encoded by laying out its elements.
* `encodeAll_cons`: The part of a field comes before those of the rest.
* `length_encode`: A type of fixed size declares the size of its encodings.
* `map_headSize_encodeAll`: Fields take the places that their types declare.
-/

namespace Beacon

namespace Schema

open Outcome Layout

/-- The bytes of the elements of a sequence. -/
def encodeRow (element : Schema) (vs : List Value) : Except Fault Bytes := do
  let fixed ← element.fixedness
  let parts ← vs.mapM fun v => (element.encode v).map (Layout.Part.mk fixed)
  Layout.encode parts

theorem encode_vector (name : String) (element : Schema) (length : Nat) (vs : List Value) :
    (vector name element length).encode (.row vs) = encodeRow element vs := by
  rw [encode, encodeRow]

theorem encode_list (name : String) (element : Schema) (limit : Nat) (vs : List Value) :
    (list name element limit).encode (.row vs) = encodeRow element vs := by
  rw [encode, encodeRow]

/-- The parts of a row are the encodings of its elements, all of one kind. -/
theorem mapM_part_eq_ok_iff (element : Schema) (fixed : Bool) (vs : List Value)
    (parts : List Layout.Part) :
    (vs.mapM fun v => (element.encode v).map (Layout.Part.mk fixed)) = .ok parts ↔
      ∃ items, List.Forall₂ (fun v item => element.encode v = .ok item) vs items ∧
        items.map (Layout.Part.mk fixed) = parts := by
  rw [mapM_eq_ok_iff]
  constructor
  · intro h
    induction h with
    | nil => exact ⟨[], .nil, rfl⟩
    | cons hp _ ih =>
        obtain ⟨item, hitem, rfl⟩ := map_eq_ok_iff.mp hp
        obtain ⟨items, hitems, rfl⟩ := ih
        exact ⟨item :: items, .cons hitem hitems, rfl⟩
  · rintro ⟨items, hitems, rfl⟩
    rw [List.forall₂_map_right_iff]
    exact hitems.imp fun v item hitem => map_eq_ok_iff.mpr ⟨item, hitem, rfl⟩

/-- A row is encoded by encoding its elements and laying them out. -/
theorem encodeRow_eq_ok_iff (element : Schema) (h : element.every whole = true)
    (vs : List Value) (bs : Bytes) :
    encodeRow element vs = .ok bs ↔
      ∃ items, List.Forall₂ (fun v item => element.encode v = .ok item) vs items ∧
        Layout.encode (items.map (Layout.Part.mk element.isFixed)) = .ok bs := by
  rw [encodeRow, fixedness_of_whole element h, ok_bind]
  constructor
  · intro hrow
    obtain ⟨parts, hparts, hbs⟩ := bind_eq_ok_iff.mp hrow
    obtain ⟨items, hitems, rfl⟩ := (mapM_part_eq_ok_iff element _ vs parts).mp hparts
    exact ⟨items, hitems, hbs⟩
  · rintro ⟨items, hitems, hbs⟩
    have hparts := (mapM_part_eq_ok_iff element element.isFixed vs _).mpr ⟨items, hitems, rfl⟩
    exact bind_eq_ok_iff.mpr ⟨_, hparts, hbs⟩

/-- The fields of a row that has any are a first one and the rest. -/
theorem encodeAll_cons (name field : String) (type : Schema) (rest : Fields) (v : Value)
    (vs : List Value) (parts : List Layout.Part) (h : type.fixedness = .ok type.isFixed) :
    encodeAll name (.cons field type rest) (v :: vs) = .ok parts ↔
      ∃ bs more, type.encode v = .ok bs ∧ encodeAll name rest vs = .ok more ∧
        parts = ⟨type.isFixed, bs⟩ :: more := by
  rw [encodeAll, h, ok_bind]
  constructor
  · intro hall
    obtain ⟨bs, hbs, hrest⟩ := bind_eq_ok_iff.mp hall
    obtain ⟨more, hmore, hpure⟩ := bind_eq_ok_iff.mp hrest
    exact ⟨bs, more, hbs, hmore, (Except.ok.inj hpure).symm⟩
  · rintro ⟨bs, more, hbs, hmore, rfl⟩
    exact bind_eq_ok_iff.mpr ⟨bs, hbs, bind_eq_ok_iff.mpr ⟨more, hmore, rfl⟩⟩

/-- Elements that each take a size take it in a row as well. -/
theorem length_item (element : Schema) (size : Nat) (vs : List Value) (items : List Bytes)
    (hitems : List.Forall₂ (fun v item => element.encode v = .ok item) vs items)
    (hsize : ∀ v ∈ vs, ∀ item, element.encode v = .ok item → item.length = size) :
    ∀ item ∈ items, item.length = size := by
  induction hitems with
  | nil => exact fun item hitem => absurd hitem List.not_mem_nil
  | cons hv _ ih =>
      rw [List.forall_mem_cons]
      exact ⟨hsize _ List.mem_cons_self _ hv, ih fun w hw => hsize w (List.mem_cons_of_mem _ hw)⟩

/-- Fields of fixed size leave nothing to the variable part. -/
theorem tails_encodeAll (name : String) (fields : Fields) (vs : List Value)
    (parts : List Layout.Part) (h : everyField whole fields = true) (hadmits : AdmitsAll fields vs)
    (hparts : encodeAll name fields vs = .ok parts) (hfix : areFixed fields = true) :
    tails parts = [] := by
  induction vs generalizing fields parts with
  | nil =>
      cases fields with
      | nil =>
          rw [← Except.ok.inj hparts]
          rfl
      | cons field type rest => exact hadmits.elim
  | cons v vs ih =>
      cases fields with
      | nil => exact hadmits.elim
      | cons field type rest =>
          simp only [everyField, Bool.and_eq_true] at h
          simp only [areFixed, Bool.and_eq_true] at hfix
          obtain ⟨bs, more, -, hmore, rfl⟩ :=
            (encodeAll_cons name field type rest v vs parts (fixedness_of_whole type h.1)).mp hparts
          rw [tails_cons, if_pos hfix.1]
          exact ih rest more h.2 hadmits.2 hmore hfix.2

/-- The places of fields of fixed size are the sizes of their types. -/
theorem total_headSizes (fields : Fields) (hfix : areFixed fields = true) :
    total (headSizes fields) = fixedSizes fields := by
  match fields with
  | .nil => rfl
  | .cons field type rest =>
      simp only [areFixed, Bool.and_eq_true] at hfix
      rw [headSizes, if_pos hfix.1, total, total_headSizes rest hfix.2, fixedSizes]

mutual

/-- Every value of a type of fixed size is encoded in the size that the type
    declares. -/
theorem length_encode : ∀ (s : Schema) (v : Value) (bs : Bytes), s.every whole = true →
    s.Admits v → s.encode v = .ok bs → s.isFixed = true → bs.length = s.fixedSize
  | .uint _ bits, .uint n, bs, _, _, henc, _ => by
      rw [encode] at henc
      split at henc
      · rw [← Except.ok.inj henc, Bytes.length_ofNat, fixedSize]
      · exact absurd henc (by simp only [reduceCtorEq, not_false_eq_true])
  | .bytes _ length, .bytes data, bs, _, hadmits, henc, _ => by
      rw [encode] at henc
      rw [← Except.ok.inj henc, fixedSize]
      exact hadmits
  | .bitvector _ length, .bits bits, bs, _, _, henc, _ => by
      rw [encode, Bits.pack] at henc
      split at henc
      · exact absurd henc (by simp only [reduceCtorEq, not_false_eq_true])
      · rw [← Except.ok.inj henc, Bits.length_fill, fixedSize]
  | .vector name element length, .row vs, bs, h, hadmits, henc, hfix => by
      simp only [every, Bool.and_eq_true] at h
      rw [isFixed] at hfix
      rw [encode_vector] at henc
      obtain ⟨items, hitems, hbs⟩ := (encodeRow_eq_ok_iff element h.2 vs bs).mp henc
      rw [hfix] at hbs
      have hflat := (encode_fixed_eq_ok_iff items bs).mp hbs
      have hsizes := length_item element element.fixedSize vs items hitems fun v hv item hitem =>
        length_encode element v item h.2 (hadmits.2 v hv) hitem hfix
      rw [← hflat, length_flatten_uniform element.fixedSize items hsizes, ← hitems.length_eq,
        hadmits.1, fixedSize, Nat.mul_comm]
  | .container name fields, .row vs, bs, h, hadmits, henc, hfix => by
      simp only [every, Bool.and_eq_true] at h
      rw [isFixed] at hfix
      rw [encode] at henc
      obtain ⟨parts, hparts, hbs⟩ := bind_eq_ok_iff.mp henc
      obtain ⟨-, hflat⟩ := (encode_eq_ok_iff parts bs).mp hbs
      rw [tails_encodeAll name fields vs parts h.2 hadmits hparts hfix] at hflat
      rw [← hflat, List.flatten_nil, List.append_nil, length_flatten_entries,
        map_headSize_encodeAll name fields vs parts h.2 hadmits hparts,
        total_headSizes fields hfix, fixedSize]
  | .byteList _ _, _, _, _, _, _, hfix | .bitlist _ _, _, _, _, _, _, hfix
  | .list _ _ _, _, _, _, _, _, hfix =>
      absurd hfix (by simp only [isFixed, Bool.false_eq_true, not_false_eq_true])
  | .unfinished _ _, _, _, h, _, _, _ => absurd h (by simp only [every, whole,
      Bool.false_eq_true, not_false_eq_true])

/-- Fields take the places in the fixed part that their types declare. -/
theorem map_headSize_encodeAll : ∀ (name : String) (fields : Fields) (vs : List Value)
    (parts : List Layout.Part), everyField whole fields = true → AdmitsAll fields vs →
    encodeAll name fields vs = .ok parts → parts.map Layout.Part.headSize = headSizes fields
  | name, .nil, [], parts, _, _, hparts => by
      rw [← Except.ok.inj hparts]
      rfl
  | name, .cons field type rest, v :: vs, parts, h, hadmits, hparts => by
      simp only [everyField, Bool.and_eq_true] at h
      obtain ⟨bs, more, hbs, hmore, rfl⟩ :=
        (encodeAll_cons name field type rest v vs parts (fixedness_of_whole type h.1)).mp hparts
      have hrest := map_headSize_encodeAll name rest vs more h.2 hadmits.2 hmore
      rw [List.map_cons, headSizes, hrest, Layout.Part.headSize]
      cases hfix : type.isFixed with
      | true => rw [if_pos rfl, if_pos rfl, length_encode type v bs h.1 hadmits.1 hbs hfix]
      | false => rfl
  | _, .nil, _ :: _, _, _, hadmits, _ => hadmits.elim
  | _, .cons _ _ _, [], _, _, hadmits, _ => hadmits.elim

end

end Schema

end Beacon
