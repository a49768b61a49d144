import Beacon.Proofs.Ssz.Refusal

/-!
# Sequences and the Bytes They Ignore

Which byte strings a list or a vector is decoded from other than its own encoding,
when its elements accept nothing but encodings.

Elements of one size leave no choice: they are cut off one behind the other until
nothing is left. Elements of variable size stand behind a table of offsets, and
there the two kinds of sequence part ways. Both cut the bytes at the offsets they
read, and both only require that the elements lie behind the table, in order. What
the first offset is they do not require. But a list finds out how many elements it
has by dividing the first offset, so for a list the table ends where the first
element starts, whatever the offset is. No byte is left between the two, and
`decode_list_canonical` says that a list is decoded from its encoding only.

A vector knows its number of elements beforehand, and so two things can go wrong.
The first element may start later, and then the bytes before it belong to nothing.
Or the bytes may end inside the table. What is there of the table is then read as
if it were the whole of it, a torn offset as a shorter number, and as long as every
offset points to the end of the bytes there are elements: all of them are decoded
from no bytes. `encode_of_decode_vector` says that this is all there is to it.

## Main definitions

* `elementsStart`: Where the elements behind an offset table start.

## Theorems

* `sliceElements_eq_ok`: The pieces that an offset table cuts, and the offsets.
* `encodeRow_of_pieces`: What canonical elements were decoded from is laid out
  again.
* `encodeRow_of_slices`, `encodeRow_of_slices_iff`: What elements cut at a table of
  offsets encode to, and when that is where they came from.
* `eq_replicate_of_torn`: Elements behind a torn table are decoded from no bytes.
* `canonical_list`, `decode_list_canonical`: A list of canonical elements is
  canonical, and what follows from that.
* `encode_of_decode_vector`: What a decoded vector encodes to.
* `decode_vector_torn`: A vector of canonical elements that is not canonical.
-/

namespace Beacon

namespace Layout

/-- Pieces of one size join to the front of the data. -/
theorem flatten_pieces (size count : Nat) (data : Bytes) :
    (pieces size count data).flatten = data.take (count * size) := by
  induction count generalizing data with
  | zero => rw [Nat.zero_mul, List.take_zero, pieces, List.flatten_nil]
  | succ count ih =>
      rw [pieces, List.flatten_cons, ih, Nat.succ_mul, Nat.add_comm, List.take_add]

theorem length_of_mem_pieces (size count : Nat) (data : Bytes) (h : count * size ≤ data.length) :
    ∀ p ∈ pieces size count data, p.length = size := by
  induction count generalizing data with
  | zero => exact fun p hp => absurd hp List.not_mem_nil
  | succ count ih =>
      rw [Nat.succ_mul] at h
      rw [pieces, List.forall_mem_cons]
      refine ⟨?_, ih (data.drop size) (by rw [List.length_drop]; omega)⟩
      rw [List.length_take]
      omega

/-- Bytes that are read as the offsets at which pieces start behind them are the
    table that is written before the pieces. -/
theorem table_eq_of_offsets (front : Bytes) (items : List Bytes)
    (hwhole : front.length = items.length * offsetSize)
    (hoffsets : (pieces offsetSize items.length front).map decodeOffset
      = offsets (items.length * offsetSize) items) : table items = front := by
  have hspelled : ((pieces offsetSize items.length front).map decodeOffset).map
      (Bytes.ofNat offsetSize) = pieces offsetSize items.length front := by
    rw [List.map_map]
    refine (List.map_congr_left fun p hp => ?_).trans (List.map_id _)
    -- An offset was read from as many bytes as it is written in.
    have hlen := length_of_mem_pieces offsetSize items.length front (Nat.le_of_eq hwhole.symm) p hp
    rw [Function.comp_apply, ← hlen]
    exact Bytes.ofNat_toNat p
  rw [table, ← hoffsets, hspelled, flatten_pieces, ← hwhole, List.take_length]

theorem offsets_replicate_nil (start count : Nat) :
    offsets start (List.replicate count []) = List.replicate count start := by
  induction count with
  | zero => rfl
  | succ count ih =>
      rw [List.replicate_succ, List.replicate_succ, offsets, List.length_nil, Nat.add_zero, ih]

end Layout

namespace Schema

open Outcome Layout

/-- Where the elements start of which there are so many: at the first offset, and
    at the end of the bytes if there are none. -/
def elementsStart (data : Bytes) (count : Nat) : Nat :=
  if count = 0 then data.length else decodeOffset (data.take offsetSize)

/-- The elements of a table have names, and without them they are the offsets that
    were read. -/
theorem map_snd_named (table : List Bytes) :
    (table.zipIdx.map fun (piece, i) => (s!"[{i}]", decodeOffset piece)).map Prod.snd
      = table.map decodeOffset := by
  have hread : table.zipIdx.map (decodeOffset ∘ Prod.fst) = table.map decodeOffset := by
    rw [← List.map_map, List.zipIdx_map_fst]
  rw [List.map_map]
  exact hread

/-- Elements that were cut at a table of offsets lie behind as much of the table as
    there is and follow each other up to the end of the data. -/
theorem sliceElements_eq_ok (type : String) (data : Bytes) (count : Nat) (ps : List Bytes)
    (h : sliceElements type data count = .ok ps) :
    (data.take (count * offsetSize)).length ≤ elementsStart data count ∧
      elementsStart data count ≤ data.length ∧
      ps.flatten = data.drop (elementsStart data count) ∧
      (pieces offsetSize count (data.take (count * offsetSize))).map decodeOffset
        = offsets (elementsStart data count) ps := by
  cases count with
  | zero =>
      rw [← Except.ok.inj h, elementsStart, if_pos rfl, List.drop_length]
      exact ⟨by rw [Nat.zero_mul, List.take_zero]; exact Nat.zero_le _, Nat.le_refl _, rfl, rfl⟩
  | succ count =>
      -- The first offset of the table is the first offset of the data.
      have hfirst : (data.take ((count + 1) * offsetSize)).take offsetSize
          = data.take offsetSize := by
        rw [List.take_take, Nat.min_eq_left (Nat.le_mul_of_pos_left _ (Nat.succ_pos count))]
      have hnames := map_snd_named
        (pieces offsetSize (count + 1) (data.take ((count + 1) * offsetSize)))
      rw [sliceElements, sliceVariable] at h
      rw [pieces, hfirst] at h hnames ⊢
      obtain ⟨hbehind, hinside, hjoin, hstarts⟩ := slices_eq_ok type data _ _ _ _ ps h
      rw [elementsStart, if_neg (Nat.succ_ne_zero count)]
      refine ⟨hbehind, hinside, hjoin, ?_⟩
      rw [← hnames, ← hstarts]
      rfl

/-- Canonical elements encode to the pieces that they were decoded from, so the row
    of them is encoded by laying the pieces out. -/
theorem encodeRow_of_pieces (element : Schema) (hmeasured : element.measured = .ok ())
    (hcanon : element.Canonical) (ps : List Bytes) (vs : List Value)
    (hvs : ps.mapM element.decode = .ok vs) :
    encodeRow element vs = Layout.encode (ps.map (Layout.Part.mk element.isFixed)) := by
  have hitems : List.Forall₂ (fun v item => element.encode v = .ok item) vs ps :=
    (mapM_eq_ok_iff.mp hvs).flip.imp fun _ _ hv => hcanon _ _ hv
  have hparts := (mapM_part_eq_ok_iff element element.isFixed vs _).mpr ⟨ps, hitems, rfl⟩
  rw [encodeRow, fixedness_of_measured element hmeasured, ok_bind, hparts, ok_bind]

/-- Elements of one size are all of the bytes that they were cut from. -/
theorem encodeRow_of_splitUniform (element : Schema) (hmeasured : element.measured = .ok ())
    (hcanon : element.Canonical) (hfix : element.isFixed = true) (type : String) (data : Bytes)
    (ps : List Bytes) (vs : List Value)
    (hps : splitUniform type data element.fixedSize = .ok ps)
    (hvs : ps.mapM element.decode = .ok vs) : encodeRow element vs = .ok data := by
  obtain ⟨hsize, hlen⟩ := length_of_splitUniform type data _ ps hps
  rw [splitUniform, if_neg hsize] at hps
  obtain ⟨-, hpieces⟩ := ite_eq_ok_iff.mp hps
  rw [encodeRow_of_pieces element hmeasured hcanon ps vs hvs, hfix, encode_fixed_eq_ok_iff,
    ← hpieces, flatten_pieces, hlen, Nat.mul_div_cancel_left _ (Nat.pos_of_ne_zero hsize),
    Nat.mul_comm, ← hlen, List.take_length]

/-- Elements of variable size that were cut at a complete table of offsets encode to
    a table and the bytes from the first of them on. -/
theorem encodeRow_of_slices (element : Schema) (hmeasured : element.measured = .ok ())
    (hcanon : element.Canonical) (hopen : element.isFixed = false) (type : String) (data : Bytes)
    (count : Nat) (ps : List Bytes) (vs : List Value)
    (hps : sliceElements type data count = .ok ps) (hvs : ps.mapM element.decode = .ok vs)
    (hwhole : count * offsetSize ≤ data.length) :
    encodeRow element vs = .ok (table ps ++ data.drop (elementsStart data count)) := by
  obtain ⟨hbehind, -, hjoin, hoffsets⟩ := sliceElements_eq_ok type data count ps hps
  obtain rfl : ps.length = count := length_of_sliceElements type data count ps hps
  have htable : (data.take (ps.length * offsetSize)).length = ps.length * offsetSize := by
    rw [List.length_take, Nat.min_eq_left hwhole]
  rw [encodeRow_of_pieces element hmeasured hcanon ps vs hvs, hopen, encode_open_eq_ok_iff]
  refine ⟨?_, by rw [hjoin]⟩
  -- The offsets that were read stood in four bytes, and the ones to write are no higher.
  refine offsets_lt_of_le _ _ (elementsStart data ps.length) ps (by omega) fun n hn => ?_
  rw [← hoffsets] at hn
  obtain ⟨p, hp, rfl⟩ := List.mem_map.mp hn
  have hlen := length_of_mem_pieces offsetSize ps.length _ (Nat.le_of_eq htable.symm) p hp
  rw [← hlen]
  exact Bytes.toNat_lt p

/-- Elements of variable size encode to the bytes that they were cut from exactly when
    these begin with a complete table and the elements follow right behind it. -/
theorem encodeRow_of_slices_iff (element : Schema) (hmeasured : element.measured = .ok ())
    (hcanon : element.Canonical) (hopen : element.isFixed = false) (type : String) (data : Bytes)
    (count : Nat) (ps : List Bytes) (vs : List Value)
    (hps : sliceElements type data count = .ok ps) (hvs : ps.mapM element.decode = .ok vs) :
    encodeRow element vs = .ok data ↔
      count * offsetSize ≤ data.length ∧ elementsStart data count = count * offsetSize := by
  obtain ⟨hbehind, hinside, hjoin, hoffsets⟩ := sliceElements_eq_ok type data count ps hps
  have hcount : ps.length = count := length_of_sliceElements type data count ps hps
  have htable : (table ps).length = count * offsetSize := by rw [length_table, hcount]
  by_cases hwhole : count * offsetSize ≤ data.length
  · rw [encodeRow_of_slices element hmeasured hcanon hopen type data count ps vs hps hvs hwhole,
      Except.ok.injEq]
    constructor
    · intro hsame
      -- The two are of one length only if the table is all that comes before the elements.
      have hlen := congrArg List.length hsame
      rw [List.length_append, htable, List.length_drop] at hlen
      rw [List.length_take, Nat.min_eq_left hwhole] at hbehind
      exact ⟨hwhole, by omega⟩
    · rintro ⟨-, hstart⟩
      rw [hstart] at hoffsets ⊢
      subst hcount
      rw [table_eq_of_offsets _ ps (by rw [List.length_take, Nat.min_eq_left hwhole]) hoffsets,
        List.take_append_drop]
  · -- A table that is written is never shorter than it should be.
    refine iff_of_false (fun hsame => ?_) fun h => hwhole h.1
    rw [encodeRow_of_pieces element hmeasured hcanon ps vs hvs, hopen,
      encode_open_eq_ok_iff] at hsame
    have hlen := congrArg List.length hsame.2
    rw [List.length_append, htable] at hlen
    omega

/-- Behind a table that is torn, every element is decoded from no bytes: its offset
    points to the end, whatever is left of it. -/
theorem eq_replicate_of_torn (element : Schema) (type : String) (data : Bytes) (count : Nat)
    (ps : List Bytes) (vs : List Value) (hps : sliceElements type data count = .ok ps)
    (hvs : ps.mapM element.decode = .ok vs) (htorn : data.length < count * offsetSize) :
    (pieces offsetSize count data).map decodeOffset = List.replicate count data.length ∧
      ∃ w, element.decode [] = .ok w ∧ vs = List.replicate count w := by
  obtain ⟨hbehind, hinside, hjoin, hoffsets⟩ := sliceElements_eq_ok type data count ps hps
  have hcount : ps.length = count := length_of_sliceElements type data count ps hps
  -- The elements start behind all that there is, so there is nothing left for them.
  rw [List.take_of_length_le (Nat.le_of_lt htorn)] at hbehind hoffsets
  have hstart : elementsStart data count = data.length := Nat.le_antisymm hinside hbehind
  rw [hstart, List.drop_length, List.flatten_eq_nil_iff] at hjoin
  obtain rfl : ps = List.replicate count [] := List.eq_replicate_iff.mpr ⟨hcount, hjoin⟩
  rw [hstart, offsets_replicate_nil] at hoffsets
  refine ⟨hoffsets, ?_⟩
  cases count with
  | zero => exact absurd htorn (by rw [Nat.zero_mul]; exact Nat.not_lt_zero _)
  | succ count =>
      have hfirst := hvs
      rw [List.replicate_succ, List.mapM_cons] at hfirst
      obtain ⟨w, hw, -⟩ := bind_eq_ok_iff.mp hfirst
      exact ⟨w, hw, Except.ok.inj (hvs.symm.trans (mapM_replicate hw _))⟩

/-- A first offset that a count is read from is the end of a complete table for so
    many elements. -/
theorem elementCount_eq_ok (type : String) (data : Bytes) (count : Nat)
    (h : elementCount type data = .ok count) :
    count * offsetSize ≤ data.length ∧ elementsStart data count = count * offsetSize := by
  rw [elementCount] at h
  split at h
  · exact absurd h (by simp only [reduceCtorEq, not_false_eq_true])
  · rename_i hgood
    have hcount := Except.ok.inj h
    have hsize : offsetSize = 4 := rfl
    rw [hsize] at hgood hcount ⊢
    -- The first offset is a positive multiple of four, so there is an element.
    rw [elementsStart, if_neg (by omega), hsize]
    omega

/-- What is behind a list of elements of variable size that was decoded from bytes:
    a count that was read, and as many pieces that were cut. -/
theorem slices_of_decode_list (name : String) (element : Schema) (limit : Nat) (bs : Bytes)
    (v : Value) (hopen : element.isFixed = false) (hbytes : bs ≠ [])
    (hdec : (list name element limit).decode bs = .ok v) :
    ∃ ps vs, v = .row vs ∧ elementCount name bs = .ok vs.length ∧
      sliceElements name bs vs.length = .ok ps ∧ ps.mapM element.decode = .ok vs := by
  rw [decode] at hdec
  obtain ⟨u, -, hdec⟩ := bind_eq_ok_iff.mp hdec
  rw [hopen, if_neg Bool.false_ne_true, if_neg (by rwa [List.isEmpty_iff])] at hdec
  obtain ⟨count, hread, hdec⟩ := bind_eq_ok_iff.mp hdec
  split at hdec
  · exact absurd hdec (by simp only [reduceCtorEq, not_false_eq_true])
  · obtain ⟨ps, hps, hdec⟩ := bind_eq_ok_iff.mp hdec
    obtain ⟨vs, hvs, rfl⟩ := map_eq_ok_iff.mp hdec
    have hlen := (mapM_eq_ok_iff.mp hvs).length_eq
    obtain rfl : vs.length = count := hlen.symm.trans (length_of_sliceElements name bs count ps hps)
    exact ⟨ps, vs, rfl, hread, hps, hvs⟩

theorem canonical_list (name : String) (element : Schema) (limit : Nat)
    (hcanon : element.Canonical) : (list name element limit).Canonical := by
  intro bs v hdec
  have hsteps := hdec
  rw [decode] at hsteps
  obtain ⟨u, hmeasured, hsteps⟩ := bind_eq_ok_iff.mp hsteps
  cases hfix : element.isFixed with
  | true =>
      rw [if_pos hfix] at hsteps
      obtain ⟨ps, hps, hsteps⟩ := bind_eq_ok_iff.mp hsteps
      split at hsteps
      · exact absurd hsteps (by simp only [reduceCtorEq, not_false_eq_true])
      · obtain ⟨vs, hvs, rfl⟩ := map_eq_ok_iff.mp hsteps
        rw [encode_list]
        exact encodeRow_of_splitUniform element hmeasured hcanon hfix name bs ps vs hps hvs
  | false =>
      by_cases hbytes : bs = []
      · -- No bytes are no elements, and no table stands before them.
        rw [hfix, if_neg Bool.false_ne_true, hbytes] at hsteps
        rw [← Except.ok.inj hsteps, hbytes, encode_list,
          encodeRow_of_pieces element hmeasured hcanon [] [] rfl]
        rfl
      · obtain ⟨ps, vs, rfl, hread, hps, hvs⟩ :=
          slices_of_decode_list name element limit bs v hfix hbytes hdec
        rw [encode_list,
          encodeRow_of_slices_iff element hmeasured hcanon hfix name bs _ ps vs hps hvs]
        exact elementCount_eq_ok name bs _ hread

/-- A list of canonical elements is decoded from the encoding of what is decoded and
    from nothing else. Where its elements are of variable size, the first offset
    says how many there are. -/
theorem decode_list_canonical (name : String) (element : Schema) (limit : Nat)
    (hcanon : element.Canonical) :
    (∀ bs v, (list name element limit).decode bs = .ok v →
      (list name element limit).encode v = .ok bs) ∧
    (∀ bs bs' v, (list name element limit).decode bs = .ok v →
      (list name element limit).decode bs' = .ok v → bs = bs') ∧
    ∀ bs vs, element.isFixed = false → bs ≠ [] →
      (list name element limit).decode bs = .ok (.row vs) →
      elementCount name bs = .ok vs.length := by
  have hlist := canonical_list name element limit hcanon
  refine ⟨hlist, ?_, ?_⟩
  · -- Both byte strings are the one encoding of the list.
    intro bs bs' v hbs hbs'
    have hsame := (hlist bs v hbs).symm.trans (hlist bs' v hbs')
    exact Except.ok.inj hsame
  · intro bs vs hopen hbytes hdec
    obtain ⟨ps, ws, hrow, hread, -⟩ :=
      slices_of_decode_list name element limit bs _ hopen hbytes hdec
    rw [Value.row.inj hrow]
    exact hread

/-- Two notes of one byte and of two bytes. -/
theorem decode_list_canonical_notes :
    let note := byteList "Note" 8
    let s := list "Notes" note 4
    let bs : Bytes := [8, 0, 0, 0, 9, 0, 0, 0, 65, 66, 67]
    let vs : List Value := [.bytes [65], .bytes [66, 67]]
    note.Canonical ∧ note.isFixed = false ∧ bs ≠ [] ∧ s.decode bs = .ok (.row vs) ∧
      s.encode (.row vs) = .ok bs ∧ (∀ bs', s.decode bs' = .ok (.row vs) → bs = bs') ∧
      elementCount "Notes" bs = .ok vs.length := by
  intro note s bs vs
  have hcanon : note.Canonical := canonical_byteList "Note" 8
  have hdec : s.decode bs = .ok (.row vs) := by decide
  have hopen : note.isFixed = false := rfl
  have hbytes : bs ≠ [] := List.cons_ne_nil _ _
  obtain ⟨hencode, hsame, hcount⟩ := decode_list_canonical "Notes" note 4 hcanon
  exact ⟨hcanon, hopen, hbytes, hdec, hencode bs _ hdec, fun bs' => hsame bs bs' _ hdec,
    hcount bs vs hopen hbytes hdec⟩

/-- A vector of canonical elements of variable size encodes to the bytes it was
    decoded from exactly when these begin with a complete table of offsets and the
    first offset is the end of it. Where the table is complete, the bytes between
    it and the first offset are left out, and the offsets are lowered by as much.
    Where it is not, all offsets point to the end of the bytes, and every element
    is what is decoded from no bytes. -/
theorem encode_of_decode_vector (name : String) (element : Schema) (length : Nat) (bs : Bytes)
    (v : Value) (hopen : element.isFixed = false) (hcanon : element.Canonical)
    (hdec : (vector name element length).decode bs = .ok v) :
    ((vector name element length).encode v = .ok bs ↔
      length * offsetSize ≤ bs.length ∧ elementsStart bs length = length * offsetSize) ∧
    (length * offsetSize ≤ bs.length →
      length * offsetSize ≤ elementsStart bs length ∧ elementsStart bs length ≤ bs.length ∧
      ∃ encoded, (vector name element length).encode v = .ok encoded ∧
        encoded.drop (length * offsetSize) = bs.drop (elementsStart bs length) ∧
        encoded.length + (elementsStart bs length - length * offsetSize) = bs.length) ∧
    (bs.length < length * offsetSize →
      (pieces offsetSize length bs).map decodeOffset = List.replicate length bs.length ∧
      ∃ w, element.decode [] = .ok w ∧ v = .row (List.replicate length w)) := by
  rw [decode] at hdec
  obtain ⟨u, hmeasured, hdec⟩ := bind_eq_ok_iff.mp hdec
  rw [hopen, if_neg Bool.false_ne_true] at hdec
  obtain ⟨ps, hps, hdec⟩ := bind_eq_ok_iff.mp hdec
  obtain ⟨vs, hvs, rfl⟩ := map_eq_ok_iff.mp hdec
  rw [encode_vector]
  refine ⟨encodeRow_of_slices_iff element hmeasured hcanon hopen name bs length ps vs hps hvs,
    ?_, ?_⟩
  · -- The encoding is the table and what came after the gap, so the gap is all it lacks.
    intro hwhole
    obtain ⟨hbehind, hinside, -, -⟩ := sliceElements_eq_ok name bs length ps hps
    rw [List.length_take, Nat.min_eq_left hwhole] at hbehind
    have htable : (table ps).length = length * offsetSize := by
      rw [length_table, length_of_sliceElements name bs length ps hps]
    refine ⟨hbehind, hinside, _,
      encodeRow_of_slices element hmeasured hcanon hopen name bs length ps vs hps hvs hwhole,
      List.drop_left' htable, ?_⟩
    rw [List.length_append, htable, List.length_drop]
    omega
  · intro htorn
    obtain ⟨hoffsets, w, hw, rfl⟩ :=
      eq_replicate_of_torn element name bs length ps vs hps hvs htorn
    exact ⟨hoffsets, w, hw, rfl⟩

/-- A byte between the table and the first of two notes. -/
theorem encode_of_decode_vector_gap :
    let note := byteList "Note" 8
    let s := vector "Pair" note 2
    let bs : Bytes := [9, 0, 0, 0, 10, 0, 0, 0, 255, 65, 66]
    let v := Value.row [.bytes [65], .bytes [66]]
    note.isFixed = false ∧ note.Canonical ∧ s.decode bs = .ok v ∧
      (s.encode v = .ok bs ↔ 2 * offsetSize ≤ bs.length ∧ elementsStart bs 2 = 2 * offsetSize) ∧
      2 * offsetSize ≤ bs.length ∧
      ∃ encoded, s.encode v = .ok encoded ∧
        encoded.drop (2 * offsetSize) = bs.drop (elementsStart bs 2) ∧
        encoded.length + (elementsStart bs 2 - 2 * offsetSize) = bs.length := by
  intro note s bs v
  have hcanon : note.Canonical := canonical_byteList "Note" 8
  have hdec : s.decode bs = .ok v := by decide
  have hopen : note.isFixed = false := rfl
  have hwhole : 2 * offsetSize ≤ bs.length := by decide
  obtain ⟨hiff, hgap, -⟩ := encode_of_decode_vector "Pair" note 2 bs v hopen hcanon hdec
  exact ⟨hopen, hcanon, hdec, hiff, hwhole, (hgap hwhole).2.2⟩

/-- A vector of canonical elements that is decoded from less than a table, from no
    bytes at all, and from more than its encoding. -/
theorem decode_vector_torn :
    let note := byteList "Note" 8
    let s := vector "Pair" note 2
    let v := Value.row [.bytes [], .bytes []]
    let torn : Bytes := [5, 0, 0, 0, 5]
    let gap : Bytes := [9, 0, 0, 0, 9, 0, 0, 0, 255]
    note.isFixed = false ∧ note.Canonical ∧
      s.decode torn = .ok v ∧ torn.length < 2 * offsetSize ∧ s.encode v ≠ .ok torn ∧
      s.decode [] = .ok v ∧
      s.decode gap = .ok v ∧ elementsStart gap 2 ≠ 2 * offsetSize ∧ s.encode v ≠ .ok gap := by
  intro note s v torn gap
  exact ⟨rfl, canonical_byteList "Note" 8, by decide, by decide, by decide, by decide, by decide,
    by decide, by decide⟩

end Schema

end Beacon
