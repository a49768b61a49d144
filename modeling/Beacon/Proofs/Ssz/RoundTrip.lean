import Beacon.Proofs.Ssz.EncodedSize

/-!
# Encoding and Decoding

A value that was encoded is decoded to itself, for every type that the type
language can build.

The argument is an induction over the type, and what it carries is different
for elements and for fields. The elements of a sequence are of one type and
stand in the layout alike, so the bytes are cut into the elements' encodings
and each is decoded by itself. The fields of a container are mixed. Decoding
takes them in two passes, first those of fixed size out of the fixed part and
then the others out of the variable part, and `decode_fields` follows both: for
whatever place the variable part starts at, the first pass leaves open exactly
the fields that the second one fills.

A list does not store its length. Where its elements vary in size the length is
recovered from the first offset, which is four times the length because the
offsets stand directly before the elements (`elementCount_table`); an empty
list has no first offset and is the empty string. Where its elements are of one
size the length is a quotient, and for that the size must not be zero.

## Theorems

* `mapM_decode`: Elements that each round-trip do so as a row.
* `row_of_encode`: What is behind the encoding of a row.
* `sliceElements_table`: An offset table is cut at its offsets.
* `elementCount_table`: The first offset tells the number of elements.
* `decode_bitlist`: A bit list finds its length by its delimiter.
* `decode_fields`: Both passes over the fields together give all values.
* `headOffsets_entries`: The offsets read from the fixed part are those written.
* `decode_of_encode`: The round trip for a well-formed type.
* `decode_encode`: The same, and for the blocks and sidecars of every fork.
-/

namespace Beacon

namespace Schema

open Outcome Layout

/-- Elements that each decode to what was encoded do so as a row. -/
theorem mapM_decode (element : Schema) (vs : List Value) (items : List Bytes)
    (hitems : List.Forall₂ (fun v item => element.encode v = .ok item) vs items)
    (hround : ∀ v ∈ vs, ∀ item, element.encode v = .ok item → element.decode item = .ok v) :
    items.mapM element.decode = .ok vs := by
  rw [mapM_eq_ok_iff]
  induction hitems with
  | nil => exact .nil
  | cons hv _ ih =>
      refine .cons (hround _ List.mem_cons_self _ hv) (ih fun w hw => ?_)
      exact hround w (List.mem_cons_of_mem _ hw)

/-- Elements behind an offset table are cut apart at its offsets. -/
theorem sliceElements_table (type : String) (items : List Bytes)
    (hfit : ∀ n ∈ offsets (items.length * offsetSize) items, n < Nat.pow 256 offsetSize) :
    sliceElements type (table items ++ items.flatten) items.length = .ok items := by
  have htake : (table items ++ items.flatten).take (items.length * offsetSize) = table items := by
    rw [← length_table, List.take_left]
  have hwidth : ∀ p ∈ (offsets (items.length * offsetSize) items).map (Bytes.ofNat offsetSize),
      p.length = offsetSize := by
    intro p hp
    obtain ⟨n, -, rfl⟩ := List.mem_map.mp hp
    exact Bytes.length_ofNat offsetSize n
  have hpieces : pieces offsetSize items.length (table items)
      = (offsets (items.length * offsetSize) items).map (Bytes.ofNat offsetSize) := by
    have hcut := pieces_flatten offsetSize _ hwidth []
    rwa [List.append_nil, List.length_map, length_offsets] at hcut
  rw [sliceElements, htake, sliceVariable, hpieces]
  refine slices_flatten type _ items (table items) _ ?_ (Nat.le_refl _)
  -- The names of the elements are dropped again, and the offsets read as they were written.
  have hread : ∀ l : List Bytes,
      l.zipIdx.map (decodeOffset ∘ Prod.fst) = l.map decodeOffset := by
    intro l
    rw [← List.map_map, List.zipIdx_map_fst]
  rw [List.map_map, length_table]
  refine (hread _).trans ?_
  rw [List.map_map]
  refine (List.map_congr_left fun n hn => ?_).trans (List.map_id _)
  exact decodeOffset_ofNat n (hfit n hn)

/-- The first offset of a list that is not empty tells its length. -/
theorem elementCount_table (type : String) (items : List Bytes) (hne : items ≠ [])
    (hfit : ∀ n ∈ offsets (items.length * offsetSize) items, n < Nat.pow 256 offsetSize) :
    elementCount type (table items ++ items.flatten) = .ok items.length := by
  have hpos : 0 < items.length := List.length_pos_iff.mpr hne
  have hsize : offsetSize = 4 := rfl
  have hlen : (table items ++ items.flatten).length
      = items.length * offsetSize + items.flatten.length := by
    rw [List.length_append, length_table]
  have hfirst : decodeOffset ((table items ++ items.flatten).take offsetSize)
      = items.length * offsetSize := by
    cases items with
    | nil => exact absurd rfl hne
    | cons item rest =>
        have hhead : (item :: rest).length * offsetSize < Nat.pow 256 offsetSize :=
          hfit _ List.mem_cons_self
        have htable : table (item :: rest) = Bytes.ofNat offsetSize
            ((item :: rest).length * offsetSize) ++ ((offsets ((item :: rest).length * offsetSize
              + item.length) rest).map (Bytes.ofNat offsetSize)).flatten := rfl
        rw [htable, List.append_assoc,
          List.take_left' (Bytes.length_ofNat offsetSize _), decodeOffset_ofNat _ hhead]
  simp only [elementCount, hfirst, hlen]
  rw [if_neg (by rw [Nat.mul_mod_left, hsize]; omega), Nat.mul_div_cancel _ (by rw [hsize]; omega)]

/-- A bit list finds its length by the delimiter. -/
theorem decode_bitlist (name : String) (limit : Nat) (bits : List Bool)
    (h : bits.length ≤ limit) :
    (bitlist name limit).decode (Bits.fill (bits.length / 8 + 1) (bits ++ [true]))
      = .ok (.bits bits) := by
  have hlen : (bits ++ [true]).length = bits.length + 1 := by
    rw [List.length_append, List.length_singleton]
  -- The last byte holds the bits past the whole bytes, and the delimiter.
  have hleft : (bits.drop (8 * (bits.length / 8))).length = bits.length % 8 := by
    rw [List.length_drop]
    omega
  have hlast : ((bits ++ [true]).drop (8 * (bits.length / 8))).take 8
      = bits.drop (8 * (bits.length / 8)) ++ [true] := by
    rw [List.drop_append_of_le_length (by omega)]
    refine List.take_of_length_le ?_
    rw [List.length_append, hleft, List.length_singleton]
    omega
  obtain ⟨hnonzero, hhighest⟩ := Bits.highest_delimited (bits.drop (8 * (bits.length / 8)))
    (by rw [hleft]; omega)
  have hcount : 8 * (bits.length / 8 + 1 - 1) + bits.length % 8 = bits.length := by omega
  have htake : (bits ++ [true]).take bits.length = bits := by rw [List.take_left]
  rw [decode, Bits.getLast?_fill, hlast]
  simp only [if_neg hnonzero, Bits.length_fill, hhighest, hleft, hcount]
  rw [if_neg (by omega), Bits.unpack_fill _ _ _ (by omega) (by rw [hlen]; omega), htake]
  rfl

/-- The offsets read from the fixed part of a container are those written. -/
theorem headOffsets_entries (name : String) (fields : Fields) (vs : List Value)
    (parts : List Layout.Part) (start : Nat) (h : everyField whole fields = true)
    (hadmits : AdmitsAll fields vs) (hparts : encodeAll name fields vs = .ok parts)
    (hfit : ∀ n ∈ offsets start (tails parts), n < Nat.pow 256 offsetSize) :
    (headOffsets fields (entries start parts)).map Prod.snd = offsets start (tails parts) := by
  induction vs generalizing fields parts start with
  | nil =>
      cases fields with
      | nil =>
          rw [← Except.ok.inj hparts]
          rfl
      | cons field type rest => exact hadmits.elim
  | cons v vs ih =>
      cases fields with
      | nil => exact hadmits.elim
      | cons field type rest =>
          simp only [everyField, Bool.and_eq_true] at h
          obtain ⟨bs, more, -, hmore, rfl⟩ :=
            (encodeAll_cons name field type rest v vs parts (fixedness_of_whole type h.1)).mp hparts
          rw [tails_cons] at hfit ⊢
          rw [entries]
          cases hfix : type.isFixed with
          | true =>
              simp only [hfix, if_true] at hfit ⊢
              rw [headOffsets, if_pos hfix]
              exact ih rest more start h.2 hadmits.2 hmore hfit
          | false =>
              simp only [hfix, Bool.false_eq_true, if_false, offsets, List.forall_mem_cons]
                at hfit ⊢
              rw [headOffsets, if_neg (by rw [hfix]; exact Bool.false_ne_true), List.map_cons,
                decodeOffset_ofNat start hfit.1,
                ih rest more (start + bs.length) h.2 hadmits.2 hmore hfit.2]

/-- What is behind the encoding of a row: an encoding of every element, of the
    size that the element's type declares, from which the row is decoded if
    every element is. -/
theorem row_of_encode (element : Schema) (vs : List Value) (bs : Bytes)
    (h : element.every whole = true) (hadmits : ∀ v ∈ vs, element.Admits v)
    (henc : encodeRow element vs = .ok bs)
    (hround : ∀ v ∈ vs, ∀ item, element.encode v = .ok item → element.decode item = .ok v) :
    ∃ items : List Bytes, items.length = vs.length ∧
      Layout.encode (items.map (Layout.Part.mk element.isFixed)) = .ok bs ∧
      (element.isFixed = true → ∀ item ∈ items, item.length = element.fixedSize) ∧
      items.mapM element.decode = .ok vs := by
  obtain ⟨items, hitems, hbs⟩ := (encodeRow_eq_ok_iff element h vs bs).mp henc
  refine ⟨items, hitems.length_eq.symm, hbs, fun hfix => ?_,
    mapM_decode element vs items hitems hround⟩
  exact length_item element element.fixedSize vs items hitems fun v hv item hitem =>
    length_encode element v item h (hadmits v hv) hitem hfix

/-- A vector is decoded from its elements' encodings as they were laid out. -/
theorem decode_vector (name : String) (element : Schema) (vs : List Value) (items : List Bytes)
    (bs : Bytes) (h : element.every whole = true)
    (hdense : (element.isFixed && element.fixedSize = 0) = false)
    (hsizes : element.isFixed = true → ∀ item ∈ items, item.length = element.fixedSize)
    (hbs : Layout.encode (items.map (Layout.Part.mk element.isFixed)) = .ok bs)
    (hrow : items.mapM element.decode = .ok vs) :
    (vector name element items.length).decode bs = .ok (.row vs) := by
  rw [decode, measured_of_whole element h, ok_bind]
  cases hfix : element.isFixed with
  | true =>
      rw [hfix, encode_fixed_eq_ok_iff] at hbs
      rw [hfix, Bool.true_and, decide_eq_false_iff_not] at hdense
      have hlen := length_flatten_uniform element.fixedSize items (hsizes hfix)
      have hsplit := splitUniform_flatten name element.fixedSize items hdense (hsizes hfix)
      rw [hbs] at hlen hsplit
      rw [if_pos rfl, hlen, Nat.mul_comm, if_pos rfl, hsplit, ok_bind, hrow]
      rfl
  | false =>
      rw [hfix, encode_open_eq_ok_iff] at hbs
      rw [if_neg Bool.false_ne_true, ← hbs.2, sliceElements_table name items hbs.1, ok_bind, hrow]
      rfl

/-- A list is decoded from its elements' encodings as they were laid out. -/
theorem decode_list (name : String) (element : Schema) (limit : Nat) (vs : List Value)
    (items : List Bytes) (bs : Bytes) (h : element.every whole = true)
    (hdense : (element.isFixed && element.fixedSize = 0) = false)
    (hsizes : element.isFixed = true → ∀ item ∈ items, item.length = element.fixedSize)
    (hlimit : items.length ≤ limit)
    (hbs : Layout.encode (items.map (Layout.Part.mk element.isFixed)) = .ok bs)
    (hrow : items.mapM element.decode = .ok vs) :
    (list name element limit).decode bs = .ok (.row vs) := by
  rw [decode, measured_of_whole element h, ok_bind]
  cases hfix : element.isFixed with
  | true =>
      rw [hfix, encode_fixed_eq_ok_iff] at hbs
      rw [hfix, Bool.true_and, decide_eq_false_iff_not] at hdense
      have hsplit := splitUniform_flatten name element.fixedSize items hdense (hsizes hfix)
      rw [hbs] at hsplit
      rw [if_pos rfl, hsplit, ok_bind, if_neg (by omega), hrow]
      rfl
  | false =>
      rw [hfix, encode_open_eq_ok_iff] at hbs
      rw [if_neg Bool.false_ne_true, ← hbs.2]
      -- An empty list is the empty string and has no first offset to be read.
      cases items with
      | nil =>
          rw [List.mapM_nil] at hrow
          rw [← Except.ok.inj hrow]
          rfl
      | cons item rest =>
          have hne : (table (item :: rest) ++ (item :: rest).flatten).isEmpty = false := rfl
          have hcount := elementCount_table name _ (List.cons_ne_nil item rest) hbs.1
          rw [hne, if_neg Bool.false_ne_true, hcount, ok_bind, if_neg (by omega),
            sliceElements_table name _ hbs.1, ok_bind, hrow]
          rfl

/-- A container is decoded from its fields' encodings as they were laid out. -/
theorem decode_container (name : String) (fields : Fields) (vs : List Value)
    (parts : List Layout.Part) (bs : Bytes) (heads : List (Option Value))
    (h : everyField whole fields = true) (hadmits : AdmitsAll fields vs)
    (hparts : encodeAll name fields vs = .ok parts) (hbs : Layout.encode parts = .ok bs)
    (hheads : decodeFixed fields (entries (total (headSizes fields)) parts) = .ok heads)
    (hvs : decodeVariable fields heads (tails parts) = .ok vs) :
    (container name fields).decode bs = .ok (.row vs) := by
  have hsizes := map_headSize_encodeAll name fields vs parts h hadmits hparts
  obtain ⟨hfit, hflat⟩ := (encode_eq_ok_iff parts bs).mp hbs
  rw [hsizes] at hfit hflat
  have hlen : (entries (total (headSizes fields)) parts).flatten.length
      = total (headSizes fields) := by
    rw [length_flatten_entries, hsizes]
  have hsplit := splitFixed_flatten name (entries (total (headSizes fields)) parts)
    (tails parts).flatten
  rw [map_length_entries, hsizes, hflat] at hsplit
  have hoffsets := headOffsets_entries name fields vs parts _ h hadmits hparts hfit
  have hslice : sliceVariable name bs (total (headSizes fields))
      (headOffsets fields (entries (total (headSizes fields)) parts)) = .ok (tails parts) := by
    rw [sliceVariable, ← hflat]
    refine slices_flatten name _ (tails parts) _ _ ?_ (Nat.le_of_eq hlen.symm)
    rw [hoffsets, hlen]
  rw [decode, fieldsMeasured_of_whole fields h, ok_bind]
  simp only [hsplit, ok_bind, hheads]
  -- Without offsets nothing stands behind the fixed part, which then is all there is.
  rw [if_neg, hslice, ok_bind, hvs]
  · rfl
  · rintro ⟨hnone, hne⟩
    rw [List.isEmpty_iff] at hnone
    rw [hnone, List.map_nil] at hoffsets
    have htails : tails parts = [] := by
      rw [← List.length_eq_zero_iff, ← length_offsets, ← hoffsets, List.length_nil]
    apply hne
    rw [← hflat, htails, List.flatten_nil, List.append_nil, hlen]

mutual

/-- A value of a well-formed type without elements of size zero is decoded from
    its encoding. -/
theorem decode_of_encode : ∀ (s : Schema) (v : Value) (bs : Bytes), s.every whole = true →
    s.every dense = true → s.Admits v → s.encode v = .ok bs → s.decode bs = .ok v
  | .uint _ bits, .uint n, bs, _, _, _, henc => by
      rw [encode] at henc
      obtain ⟨hlt, rfl⟩ := ite_eq_ok_iff.mp henc
      rw [decode, Bytes.length_ofNat, if_pos rfl, Bytes.toNat_ofNat, Nat.mod_eq_of_lt hlt]
  | .bytes _ length, .bytes data, bs, _, _, hadmits, henc => by
      rw [encode] at henc
      rw [← Except.ok.inj henc, decode, if_pos (show data.length = length from hadmits)]
  | .byteList _ limit, .bytes data, bs, _, _, hadmits, henc => by
      rw [encode] at henc
      rw [← Except.ok.inj henc, decode, if_pos (show data.length ≤ limit from hadmits)]
  | .bitvector _ length, .bits bits, bs, _, _, hadmits, henc => by
      have hlen : bits.length = length := hadmits
      rw [encode, Bits.pack] at henc
      split at henc
      · exact absurd henc (by simp only [reduceCtorEq, not_false_eq_true])
      · rw [← Except.ok.inj henc, decode, Bits.length_fill, if_pos rfl,
          Bits.unpack_fill _ _ _ (by omega) (by omega), List.take_of_length_le (by omega)]
        rfl
  | .bitlist name limit, .bits bits, bs, _, _, hadmits, henc => by
      rw [encode] at henc
      rw [← Except.ok.inj henc]
      exact decode_bitlist name limit bits hadmits
  | .vector name element length, .row vs, bs, h, hdense, hadmits, henc => by
      simp only [every, dense, Bool.and_eq_true, Bool.not_eq_true'] at h hdense
      rw [encode_vector] at henc
      obtain ⟨items, hcount, hbs, hsizes, hrow⟩ := row_of_encode element vs bs h.2 hadmits.2 henc
        fun v hv item => decode_of_encode element v item h.2 hdense.2 (hadmits.2 v hv)
      rw [← hadmits.1, ← hcount]
      exact decode_vector name element vs items bs h.2 hdense.1 hsizes hbs hrow
  | .list name element limit, .row vs, bs, h, hdense, hadmits, henc => by
      simp only [every, dense, Bool.and_eq_true, Bool.not_eq_true'] at h hdense
      rw [encode_list] at henc
      obtain ⟨items, hcount, hbs, hsizes, hrow⟩ := row_of_encode element vs bs h.2 hadmits.2 henc
        fun v hv item => decode_of_encode element v item h.2 hdense.2 (hadmits.2 v hv)
      have hlimit : items.length ≤ limit := by
        rw [hcount]
        exact hadmits.1
      exact decode_list name element limit vs items bs h.2 hdense.1 hsizes hlimit hbs hrow
  | .container name fields, .row vs, bs, h, hdense, hadmits, henc => by
      simp only [every, Bool.and_eq_true] at h hdense
      rw [encode] at henc
      obtain ⟨parts, hparts, hbs⟩ := bind_eq_ok_iff.mp henc
      obtain ⟨heads, hheads, hvs⟩ := decode_fields name fields vs parts (total (headSizes fields))
        h.2 hdense.2 hadmits hparts
      exact decode_container name fields vs parts bs heads h.2 hadmits hparts hbs hheads hvs
  | .unfinished _ _, _, _, h, _, _, _ => absurd h (by simp only [every, whole,
      Bool.false_eq_true, not_false_eq_true])

/-- The fields of fixed size are decoded from the fixed part, and the fields
    that this leaves open from the variable part. -/
theorem decode_fields : ∀ (name : String) (fields : Fields) (vs : List Value)
    (parts : List Layout.Part) (start : Nat), everyField whole fields = true →
    everyField dense fields = true → AdmitsAll fields vs →
    encodeAll name fields vs = .ok parts →
    ∃ heads, decodeFixed fields (entries start parts) = .ok heads ∧
      decodeVariable fields heads (tails parts) = .ok vs
  | name, .nil, [], parts, start, _, _, _, hparts => by
      rw [← Except.ok.inj hparts]
      exact ⟨[], rfl, rfl⟩
  | name, .cons field type rest, v :: vs, parts, start, h, hdense, hadmits, hparts => by
      simp only [everyField, Bool.and_eq_true] at h hdense
      obtain ⟨bs, more, hbs, hmore, rfl⟩ :=
        (encodeAll_cons name field type rest v vs parts (fixedness_of_whole type h.1)).mp hparts
      have hv := decode_of_encode type v bs h.1 hdense.1 hadmits.1 hbs
      rw [tails_cons, entries]
      cases hfix : type.isFixed with
      | true =>
          obtain ⟨heads, hheads, hvs⟩ :=
            decode_fields name rest vs more start h.2 hdense.2 hadmits.2 hmore
          refine ⟨some v :: heads, ?_, ?_⟩
          · simp only [if_true, decodeFixed, hfix, hv, hheads]
            rfl
          · rw [if_pos rfl, decodeVariable, hvs]
            rfl
      | false =>
          obtain ⟨heads, hheads, hvs⟩ :=
            decode_fields name rest vs more (start + bs.length) h.2 hdense.2 hadmits.2 hmore
          refine ⟨none :: heads, ?_, ?_⟩
          · simp only [Bool.false_eq_true, if_false, decodeFixed, hfix, hheads]
            rfl
          · rw [if_neg Bool.false_ne_true, decodeVariable, hv, ok_bind, hvs]
            rfl
  | _, .nil, _ :: _, _, _, _, _, hadmits, _ => hadmits.elim
  | _, .cons _ _ _, [], _, _, _, _, hadmits, _ => hadmits.elim

end

/-- A value that was encoded is decoded to itself, for every well-formed type
    without elements of size zero, and so for the signed block of every fork
    and for the sidecars of its blobs. -/
theorem decode_encode :
    (∀ (s : Schema) (v : Value) (bs : Bytes), s.WellFormed → s.Dense → s.Admits v →
      s.encode v = .ok bs → s.decode bs = .ok v) ∧
    (∀ (fork : Fork) (v : Value) (bs : Bytes), fork.signedBlock.Admits v →
      fork.signedBlock.encode v = .ok bs → fork.signedBlock.decode bs = .ok v) ∧
    ∀ (v : Value) (bs : Bytes), Operation.blobSidecar.Admits v →
      Operation.blobSidecar.encode v = .ok bs → Operation.blobSidecar.decode bs = .ok v := by
  refine ⟨decode_of_encode, fun fork v bs => ?_, fun v bs => ?_⟩
  · exact decode_of_encode _ v bs (signedBlock_wellFormed fork) (signedBlock_dense fork)
  · exact decode_of_encode _ v bs blobSidecar_wellFormed blobSidecar_dense

/-- A number, bit lists of several lengths behind their own offsets, and an
    empty last field. -/
theorem decode_encode_record :
    let s := record "Vote" [("slot", uint64), ("rows", .list "Rows" (.bitlist "Row" 9) 4),
      ("note", .byteList "Note" 4)]
    let v := Value.row [.uint 5, .row [.bits [true, false], .bits [],
      .bits (List.replicate 8 true)], .bytes []]
    let bs : Bytes := [5, 0, 0, 0, 0, 0, 0, 0, 16, 0, 0, 0, 32, 0, 0, 0,
      12, 0, 0, 0, 13, 0, 0, 0, 14, 0, 0, 0, 5, 1, 255, 1]
    s.WellFormed ∧ s.Dense ∧ s.Admits v ∧ s.encode v = .ok bs ∧ s.decode bs = .ok v := by
  intro s v bs
  have hadmits : s.Admits v := by decide
  have henc : s.encode v = .ok bs := by decide
  exact ⟨by decide, by decide, hadmits, henc,
    decode_encode.1 s v bs (by decide) (by decide) hadmits henc⟩

end Schema

end Beacon
