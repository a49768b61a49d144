import Beacon.Failure.Kind
import Beacon.Proofs.Ssz.Canonical

/-!
# Decoding Arbitrary Bytes

What comes of decoding when nothing is known of the bytes.

Bytes may be cut off in an offset table, an offset may lead backwards or past
the end, a delimiter may be missing, a count may be over its limit, and all of
it at any depth. Whatever is wrong, decoding ends in one of two ways: in a value
that belongs to the type, or in a fault that says that the bytes were refused.
There is a fault of a different sort behind several of the steps, and each of
them is ruled out by a check before it: a division by the size of the elements
by `dense`, a byte read beyond the end by the checks on lengths, and a part of
the type that is missing by `whole`.

The two ways are separate arguments. That a decoded value belongs to its type
needs no condition on the type, since a type that lacks something has no decoded
values that could depend on it. A container is decoded in two passes, and its
values are seen to belong to the fields by the pieces they were cut from.

## Main definitions

* `refusals`: The kinds of fault that refused bytes are reported under.
* `Refused`: A fault is of one of these kinds.

## Theorems

* `admitsAll_of_cut`: Fields that were decoded belong to their types.
* `admits_of_decode`: Whatever is decoded belongs to its type.
* `failsIn_slices`, `failsIn_splitUniform`: Cutting bytes only refuses them.
* `failsIn_decode`: Decoding only refuses bytes.
* `decode_or_refused`: Any bytes are decoded to a value of the type or refused.
-/

namespace Beacon

namespace Schema

open Outcome Layout

/-- The kinds of fault that refused bytes are reported under: a length or a limit
    that is broken, and what is wrong with an encoding. -/
def refusals : List Kind := [.sszValue, .decode, .truncated, .offset]

/-- A fault says that bytes were refused. -/
def Refused (fault : Fault) : Prop := fault.kind ∈ refusals

/-- Refused bytes are always reported as a value that breaks a rule of its type,
    and never as anything else that can go wrong. -/
theorem isA_of_mem_refusals : ∀ kind ∈ refusals, kind.isA .sszValue = true := by decide

theorem refused_decode (type : Text) (fault : DecodeFault) :
    Refused (.cause (.decode type fault)) := by
  cases fault with
  | truncated expected actual => exact (by decide : Kind.truncated ∈ refusals)
  | offsets field start stop => exact (by decide : Kind.offset ∈ refusals)
  | _ => exact (by decide : Kind.decode ∈ refusals)

theorem refused_byteCount (type : String) (expected actual : Nat) :
    Refused (.cause (.byteCount type expected actual)) :=
  (by decide : Kind.sszValue ∈ refusals)

theorem refused_elementLimit (type : String) (limit actual : Nat) :
    Refused (.cause (.elementLimit type limit actual)) :=
  (by decide : Kind.sszValue ∈ refusals)

/-! ### What is decoded -/

/-- Cutting by one size gives as many pieces as the size goes into the bytes. -/
theorem length_of_splitUniform (type : String) (data : Bytes) (size : Nat) (ps : List Bytes)
    (h : splitUniform type data size = .ok ps) :
    size ≠ 0 ∧ data.length = size * ps.length := by
  rw [splitUniform] at h
  split at h
  · exact absurd h (by simp only [reduceCtorEq, not_false_eq_true])
  · rename_i hsize
    obtain ⟨hdvd, rfl⟩ := ite_eq_ok_iff.mp h
    rw [length_pieces]
    exact ⟨hsize, (Nat.mul_div_cancel' (Nat.dvd_of_mod_eq_zero hdvd)).symm⟩

/-- An offset table is cut into as many elements as it was read for. -/
theorem length_of_sliceElements (name : String) (data : Bytes) (count : Nat) (ps : List Bytes)
    (h : sliceElements name data count = .ok ps) : ps.length = count := by
  have hlen := length_of_slices name data _ _ ps h
  rw [List.length_map, List.length_zipIdx, length_pieces] at hlen
  exact hlen

/-- A row that was decoded from pieces has an element for each of them, and its
    elements belong to the element type if whatever is decoded of that does. -/
theorem row_of_pieces (element : Schema) (ps : List Bytes) (v : Value)
    (h : (ps.mapM element.decode).map Value.row = .ok v)
    (helement : ∀ bs v, element.decode bs = .ok v → element.Admits v) :
    ∃ vs, v = .row vs ∧ vs.length = ps.length ∧ ∀ v ∈ vs, element.Admits v := by
  obtain ⟨vs, hvs, rfl⟩ := map_eq_ok_iff.mp h
  have hall := mapM_eq_ok_iff.mp hvs
  refine ⟨vs, rfl, hall.length_eq.symm, ?_⟩
  clear hvs h
  induction hall with
  | nil => exact fun v hv => absurd hv List.not_mem_nil
  | cons hv _ ih =>
      rw [List.forall_mem_cons]
      exact ⟨helement _ _ hv, ih⟩

/-- Fields that were decoded from a cut belong to their types if whatever is
    decoded of each of the types does. -/
theorem admitsAll_of_cut (fields : Fields) (ps rest : List Bytes) (vs : List Value)
    (hcut : Cut fields ps rest vs)
    (hfields : ∀ field ∈ fields.toList, ∀ bs v, field.2.decode bs = .ok v → field.2.Admits v) :
    AdmitsAll fields vs := by
  induction hcut with
  | nil => exact trivial
  | fixed _ _ hv _ ih =>
      obtain ⟨htype, hrest⟩ := List.forall_mem_cons.mp hfields
      exact ⟨htype _ _ hv, ih hrest⟩
  | varying _ _ hv _ ih =>
      obtain ⟨htype, hrest⟩ := List.forall_mem_cons.mp hfields
      exact ⟨htype _ _ hv, ih hrest⟩

theorem length_of_unpack (data : Bytes) (count : Nat) (bits : List Bool)
    (h : Bits.unpack data count = .ok bits) : bits.length = count := by
  rw [Bits.unpack] at h
  obtain ⟨hcount, rfl⟩ := ite_eq_ok_iff.mp h
  rw [List.length_take, Bits.length_ofBytes]
  omega

/-- Bytes hold no number that is too large for the bits they are counted by. -/
theorem toNat_lt_of_length (bits : Nat) (bs : Bytes) (h : bs.length = bits / 8) :
    Bytes.toNat bs < Nat.pow 2 bits := by
  have hlt := Bytes.toNat_lt bs
  have hbits : Nat.pow 256 (bits / 8) ≤ Nat.pow 2 bits := by
    have hpow : Nat.pow 256 (bits / 8) = 2 ^ (8 * (bits / 8)) := by
      rw [Nat.pow_mul]
      rfl
    rw [hpow]
    exact Nat.pow_le_pow_right (by decide) (Nat.mul_div_le bits 8)
  rw [h] at hlt
  exact Nat.lt_of_lt_of_le hlt hbits

theorem admits_of_decode_bitlist (name : String) (limit : Nat) (bs : Bytes) (v : Value)
    (hdec : (Schema.bitlist name limit).decode bs = .ok v) :
    (Schema.bitlist name limit).Admits v := by
  rw [decode] at hdec
  split at hdec
  · exact absurd hdec (by simp only [reduceCtorEq, not_false_eq_true])
  · split at hdec
    · exact absurd hdec (by simp only [reduceCtorEq, not_false_eq_true])
    · dsimp only at hdec
      split at hdec
      · exact absurd hdec (by simp only [reduceCtorEq, not_false_eq_true])
      · rename_i hlimit
        obtain ⟨bits, hbits, rfl⟩ := map_eq_ok_iff.mp hdec
        rw [Admits, length_of_unpack bs _ bits hbits]
        exact Nat.le_of_not_lt hlimit

/-- A decoded vector has its length: elements of one size by the size of the
    whole, and others because the offset table was read for so many. -/
theorem admits_of_decode_vector (name : String) (element : Schema) (length : Nat) (bs : Bytes)
    (v : Value) (hdec : (Schema.vector name element length).decode bs = .ok v)
    (helement : ∀ bs v, element.decode bs = .ok v → element.Admits v) :
    (Schema.vector name element length).Admits v := by
  rw [decode] at hdec
  obtain ⟨u, -, hdec⟩ := bind_eq_ok_iff.mp hdec
  split at hdec
  · dsimp only at hdec
    split at hdec
    · rename_i hlen
      obtain ⟨ps, hps, hdec⟩ := bind_eq_ok_iff.mp hdec
      obtain ⟨vs, rfl, hcount, hadmits⟩ := row_of_pieces element ps v hdec helement
      obtain ⟨hsize, hdata⟩ := length_of_splitUniform name bs _ ps hps
      refine ⟨?_, hadmits⟩
      rw [hcount]
      exact Nat.eq_of_mul_eq_mul_left (Nat.pos_of_ne_zero hsize) (hdata.symm.trans hlen)
    · exact absurd hdec (by simp only [reduceCtorEq, not_false_eq_true])
  · obtain ⟨ps, hps, hdec⟩ := bind_eq_ok_iff.mp hdec
    obtain ⟨vs, rfl, hcount, hadmits⟩ := row_of_pieces element ps v hdec helement
    exact ⟨hcount.trans (length_of_sliceElements name bs length ps hps), hadmits⟩

/-- A decoded list has no more elements than its limit. They are counted before
    any of them is decoded. -/
theorem admits_of_decode_list (name : String) (element : Schema) (limit : Nat) (bs : Bytes)
    (v : Value) (hdec : (Schema.list name element limit).decode bs = .ok v)
    (helement : ∀ bs v, element.decode bs = .ok v → element.Admits v) :
    (Schema.list name element limit).Admits v := by
  rw [decode] at hdec
  obtain ⟨u, -, hdec⟩ := bind_eq_ok_iff.mp hdec
  split at hdec
  · obtain ⟨ps, -, hdec⟩ := bind_eq_ok_iff.mp hdec
    split at hdec
    · exact absurd hdec (by simp only [reduceCtorEq, not_false_eq_true])
    · rename_i hlimit
      obtain ⟨vs, rfl, hcount, hadmits⟩ := row_of_pieces element ps v hdec helement
      exact ⟨by omega, hadmits⟩
  · split at hdec
    -- No bytes are no elements, and no first offset says so.
    · rw [← Except.ok.inj hdec]
      exact ⟨Nat.zero_le limit, fun v hv => absurd hv List.not_mem_nil⟩
    · obtain ⟨count, -, hdec⟩ := bind_eq_ok_iff.mp hdec
      split at hdec
      · exact absurd hdec (by simp only [reduceCtorEq, not_false_eq_true])
      · rename_i hlimit
        obtain ⟨ps, hps, hdec⟩ := bind_eq_ok_iff.mp hdec
        obtain ⟨vs, rfl, hcount, hadmits⟩ := row_of_pieces element ps v hdec helement
        have hlength := length_of_sliceElements name bs count ps hps
        exact ⟨by omega, hadmits⟩

mutual

/-- Whatever is decoded belongs to its type. What a constructor would check once
    more is just this, so no value that was decoded is turned away after that. -/
theorem admits_of_decode : ∀ (s : Schema) (bs : Bytes) (v : Value), s.decode bs = .ok v →
    s.Admits v
  | .uint _ bits, bs, v, hdec => by
      rw [decode] at hdec
      obtain ⟨hlen, rfl⟩ := ite_eq_ok_iff.mp hdec
      exact toNat_lt_of_length bits bs hlen
  | .bytes _ length, bs, v, hdec => by
      rw [decode] at hdec
      obtain ⟨hlen, rfl⟩ := ite_eq_ok_iff.mp hdec
      exact hlen
  | .byteList _ limit, bs, v, hdec => by
      rw [decode] at hdec
      obtain ⟨hlen, rfl⟩ := ite_eq_ok_iff.mp hdec
      exact hlen
  | .bitvector _ length, bs, v, hdec => by
      rw [decode] at hdec
      split at hdec
      · obtain ⟨bits, hbits, rfl⟩ := map_eq_ok_iff.mp hdec
        exact length_of_unpack bs length bits hbits
      · exact absurd hdec (by simp only [reduceCtorEq, not_false_eq_true])
  | .bitlist name limit, bs, v, hdec => admits_of_decode_bitlist name limit bs v hdec
  | .vector name element length, bs, v, hdec =>
      admits_of_decode_vector name element length bs v hdec (admits_of_decode element)
  | .list name element limit, bs, v, hdec =>
      admits_of_decode_list name element limit bs v hdec (admits_of_decode element)
  | .container name fields, bs, v, hdec => by
      obtain ⟨ps, rest, vs, rfl, -, -, -, -, hcut⟩ := cut_of_decode_container name fields bs v hdec
      exact admitsAll_of_cut fields ps rest vs hcut (admits_of_decode_field fields)
  | .unfinished _ _, bs, v, hdec => by
      rw [decode] at hdec
      exact absurd hdec (by simp only [reduceCtorEq, not_false_eq_true])

theorem admits_of_decode_field : ∀ (fields : Fields), ∀ field ∈ fields.toList, ∀ bs v,
    field.2.decode bs = .ok v → field.2.Admits v
  | .nil => fun field hfield => absurd hfield List.not_mem_nil
  | .cons name type rest => by
      rw [Fields.toList, List.forall_mem_cons]
      exact ⟨admits_of_decode type, admits_of_decode_field rest⟩

end

/-! ### What is refused -/

theorem failsIn_splitFixed (type : String) (sizes : List Nat) (data : Bytes) :
    FailsIn Refused (splitFixed type sizes data) := by
  induction sizes generalizing data with
  | nil => exact failsIn_ok []
  | cons size sizes ih =>
      rw [splitFixed]
      split
      · exact failsIn_map (ih _)
      · exact failsIn_error (refused_decode _ _)

/-- Cutting at offsets only refuses bytes, wherever the offsets lead. -/
theorem failsIn_slices (type : String) (data : Bytes) (length fixedEnd : Nat)
    (starts : List (String × Nat)) : FailsIn Refused (slices type data length fixedEnd starts) := by
  induction starts with
  | nil => exact failsIn_ok []
  | cons start rest ih =>
      rw [slices_cons]
      split
      · exact failsIn_map ih
      · exact failsIn_error (refused_decode _ _)

/-- Cutting by one size only refuses bytes, unless the size is zero. -/
theorem failsIn_splitUniform (type : String) (data : Bytes) (size : Nat) (h : size ≠ 0) :
    FailsIn Refused (splitUniform type data size) := by
  rw [splitUniform, if_neg h]
  exact failsIn_ite (refused_decode _ _)

theorem failsIn_elementCount (name : String) (data : Bytes) :
    FailsIn Refused (elementCount name data) := by
  rw [elementCount]
  split
  · exact failsIn_error (refused_decode _ _)
  · exact failsIn_ok _

/-- As many bits as there are in the bytes can be read from them. -/
theorem failsIn_unpack (data : Bytes) (count : Nat) (h : count ≤ 8 * data.length) :
    FailsIn Refused (Bits.unpack data count) := by
  rw [Bits.unpack, if_pos h]
  exact failsIn_ok _

/-- The delimiter of a bit list lies in the last byte, so every bit before it can
    be read. -/
theorem delimited_le (data : Bytes) (last : UInt8) (h : data.getLast? = some last) :
    8 * (data.length - 1) + Bits.highest last ≤ 8 * data.length := by
  have hpos : 0 < data.length := List.length_pos_of_ne_nil fun hnil => by
    rw [hnil, List.getLast?_nil] at h
    exact absurd h (by simp only [reduceCtorEq, not_false_eq_true])
  have hbit : Bits.highest last ≤ 8 := by
    by_cases hzero : last.toNat = 0
    · rw [Bits.highest, hzero]
      decide
    · rw [Bits.highest]
      exact Nat.le_of_lt ((Nat.log2_lt hzero).mpr last.toNat_lt)
  omega

theorem failsIn_decode_bitlist (name : String) (limit : Nat) (bs : Bytes) :
    FailsIn Refused ((Schema.bitlist name limit).decode bs) := by
  rw [decode]
  split
  · exact failsIn_error (refused_decode _ _)
  · rename_i last hlast
    split
    · exact failsIn_error (refused_decode _ _)
    · dsimp only
      split
      · exact failsIn_error (refused_decode _ _)
      · exact failsIn_map (failsIn_unpack bs _ (delimited_le bs last hlast))

theorem failsIn_items {element : Schema} (helement : ∀ bs, FailsIn Refused (element.decode bs))
    (ps : List Bytes) : FailsIn Refused ((ps.mapM element.decode).map Value.row) :=
  failsIn_map (failsIn_mapM fun item _ => helement item)

theorem failsIn_decode_vector (name : String) (element : Schema) (length : Nat) (bs : Bytes)
    (h : element.every whole = true) (hdense : (Schema.vector name element length).dense = true)
    (helement : ∀ bs, FailsIn Refused (element.decode bs)) :
    FailsIn Refused ((Schema.vector name element length).decode bs) := by
  rw [decode, measured_of_whole element h, ok_bind]
  split
  · rename_i hfix
    rw [dense, hfix, Bool.true_and, Bool.not_eq_true', decide_eq_false_iff_not] at hdense
    dsimp only
    split
    · exact failsIn_bind (failsIn_splitUniform name bs _ hdense) fun ps _ =>
        failsIn_items helement ps
    · exact failsIn_error (refused_decode _ _)
  · exact failsIn_bind (failsIn_slices name bs _ _ _) fun ps _ => failsIn_items helement ps

theorem failsIn_decode_list (name : String) (element : Schema) (limit : Nat) (bs : Bytes)
    (h : element.every whole = true) (hdense : (Schema.list name element limit).dense = true)
    (helement : ∀ bs, FailsIn Refused (element.decode bs)) :
    FailsIn Refused ((Schema.list name element limit).decode bs) := by
  rw [decode, measured_of_whole element h, ok_bind]
  split
  · rename_i hfix
    rw [dense, hfix, Bool.true_and, Bool.not_eq_true', decide_eq_false_iff_not] at hdense
    refine failsIn_bind (failsIn_splitUniform name bs _ hdense) fun ps _ => ?_
    split
    · exact failsIn_error (refused_elementLimit _ _ _)
    · exact failsIn_items helement ps
  · split
    · exact failsIn_ok _
    · refine failsIn_bind (failsIn_elementCount name bs) fun count _ => ?_
      split
      · exact failsIn_error (refused_elementLimit _ _ _)
      · exact failsIn_bind (failsIn_slices name bs _ _ _) fun ps _ => failsIn_items helement ps

mutual

/-- Decoding only refuses bytes, for a well-formed type without elements of size
    zero. -/
theorem failsIn_decode : ∀ (s : Schema) (bs : Bytes), s.every whole = true →
    s.every dense = true → FailsIn Refused (s.decode bs)
  | .uint _ bits, bs, _, _ => by
      rw [decode]
      exact failsIn_ite (refused_decode _ _)
  | .bytes _ length, bs, _, _ => by
      rw [decode]
      exact failsIn_ite (refused_byteCount _ _ _)
  | .byteList _ limit, bs, _, _ => by
      rw [decode]
      exact failsIn_ite (refused_decode _ _)
  | .bitvector _ length, bs, _, _ => by
      rw [decode]
      split
      · rename_i hlen
        exact failsIn_map (failsIn_unpack bs length (by omega))
      · exact failsIn_error (refused_decode _ _)
  | .bitlist name limit, bs, _, _ => failsIn_decode_bitlist name limit bs
  | .vector name element length, bs, h, hdense => by
      simp only [every, Bool.and_eq_true] at h hdense
      exact failsIn_decode_vector name element length bs h.2 hdense.1 fun bs =>
        failsIn_decode element bs h.2 hdense.2
  | .list name element limit, bs, h, hdense => by
      simp only [every, Bool.and_eq_true] at h hdense
      exact failsIn_decode_list name element limit bs h.2 hdense.1 fun bs =>
        failsIn_decode element bs h.2 hdense.2
  | .container name fields, bs, h, hdense => by
      -- The steps of decoding in their order, each of which may refuse.
      simp only [every, Bool.and_eq_true] at h hdense
      rw [decode, fieldsMeasured_of_whole fields h.2, ok_bind]
      refine failsIn_bind (failsIn_splitFixed name _ bs) fun ps _ => ?_
      refine failsIn_bind (failsIn_decodeFixed fields ps h.2 hdense.2) fun heads _ => ?_
      dsimp only
      split
      · exact failsIn_error (refused_decode _ _)
      · refine failsIn_bind (failsIn_slices name bs _ _ _) fun tails _ => ?_
        exact failsIn_map (failsIn_decodeVariable fields heads tails h.2 hdense.2)
  | .unfinished _ _, _, h, _ => absurd h (by simp only [every, whole, Bool.false_eq_true,
      not_false_eq_true])

theorem failsIn_decodeFixed : ∀ (fields : Fields) (ps : List Bytes),
    everyField whole fields = true → everyField dense fields = true →
    FailsIn Refused (decodeFixed fields ps)
  | .nil, _, _, _ => failsIn_ok []
  | .cons _ _ _, [], _, _ => failsIn_ok []
  | .cons _ type rest, piece :: ps, h, hdense => by
      simp only [everyField, Bool.and_eq_true] at h hdense
      have hrest : ∀ head : Option Value, FailsIn Refused (do
          let heads ← decodeFixed rest ps
          pure (head :: heads)) := fun head =>
        failsIn_bind (failsIn_decodeFixed rest ps h.2 hdense.2) fun heads _ => failsIn_ok _
      rw [decodeFixed]
      split
      · exact failsIn_bind (failsIn_map (failsIn_decode type piece h.1 hdense.1))
          fun head _ => hrest head
      · exact hrest none

theorem failsIn_decodeVariable : ∀ (fields : Fields) (heads : List (Option Value))
    (tails : List Bytes), everyField whole fields = true → everyField dense fields = true →
    FailsIn Refused (decodeVariable fields heads tails)
  | .nil, _, _, _, _ => failsIn_ok []
  | .cons _ _ _, [], _, _, _ => failsIn_ok []
  | .cons _ _ _, none :: _, [], _, _ => failsIn_ok []
  | .cons _ _ rest, some v :: heads, tails, h, hdense => by
      simp only [everyField, Bool.and_eq_true] at h hdense
      rw [decodeVariable]
      exact failsIn_bind (failsIn_decodeVariable rest heads tails h.2 hdense.2)
        fun vs _ => failsIn_ok _
  | .cons _ type rest, none :: heads, tail :: tails, h, hdense => by
      simp only [everyField, Bool.and_eq_true] at h hdense
      rw [decodeVariable]
      exact failsIn_bind (failsIn_decode type tail h.1 hdense.1) fun v _ => failsIn_bind
        (failsIn_decodeVariable rest heads tails h.2 hdense.2) fun vs _ => failsIn_ok _

end

/-- Any bytes at all are decoded to a value of the type or refused: the fault is
    of the family of values that break a rule of their type, and of one of the
    four kinds that decoding reports. -/
theorem decode_or_refused (s : Schema) (bs : Bytes) (h : s.WellFormed) (hdense : s.Dense) :
    (∃ v, s.decode bs = .ok v ∧ s.Admits v) ∨
      ∃ fault, s.decode bs = .error fault ∧
        fault.kind ∈ [Kind.sszValue, Kind.decode, Kind.truncated, Kind.offset] ∧
        fault.kind.isA .sszValue = true := by
  cases hdec : s.decode bs with
  | ok v => exact .inl ⟨v, rfl, admits_of_decode s bs v hdec⟩
  | error fault =>
      have hkind := failsIn_decode s bs h hdense fault hdec
      exact .inr ⟨fault, rfl, hkind, isA_of_mem_refusals fault.kind hkind⟩

/-- A list of bit lists whose offset table is cut off, inside a container that is
    in order: the first offset, which says how long the table is, points beyond the
    bytes of the list. -/
theorem decode_or_refused_torn_table :
    let s := record "Vote" [("slot", uint64), ("rows", .list "Rows" (.bitlist "Row" 9) 4)]
    let bs : Bytes := [5, 0, 0, 0, 0, 0, 0, 0, 12, 0, 0, 0, 8, 0, 0, 0, 9]
    let torn : Fault := .cause (.decode "Rows" (.firstOffset 8))
    s.WellFormed ∧ s.Dense ∧ s.decode bs = .error torn ∧
      torn.kind ∈ [Kind.sszValue, Kind.decode, Kind.truncated, Kind.offset] ∧
      torn.kind.isA .sszValue = true := by
  intro s bs torn
  have hwhole : s.WellFormed := by decide
  have hdense : s.Dense := by decide
  have htorn : s.decode bs = .error torn := by decide
  rcases decode_or_refused s bs hwhole hdense with ⟨v, hv, -⟩ | ⟨fault, hfault, hkind, hisA⟩
  · exact absurd (htorn.symm.trans hv) (by simp only [reduceCtorEq, not_false_eq_true])
  · obtain rfl := Except.error.inj (htorn.symm.trans hfault)
    exact ⟨hwhole, hdense, htorn, hkind, hisA⟩

end Schema

end Beacon
