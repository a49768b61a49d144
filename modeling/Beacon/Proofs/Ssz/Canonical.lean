import Beacon.Proofs.Ssz.EncodedSize

/-!
# Containers and the Bytes They Ignore

Which byte strings a container is decoded from other than its own encoding.

A type is canonical when it accepts nothing but encodings. For a container with
a field of variable size this is not inherited from the fields, however
canonical they are. The bytes of such fields have to lie behind the fixed part,
in order, and the last of them runs to the end, so nothing is skipped between
two of them or after the last. But nothing requires the first of them to start
where the fixed part ends. Bytes in between belong to no field, and the
container is decoded as if they were not there.

`encode_of_decode` says that this is all there is to it. The value that was
decoded encodes to the same bytes without the gap, its offsets lowered by the
gap, and so it encodes to the very same bytes exactly when the first offset
points to the end of the fixed part.

## Main definitions

* `Canonical`: A type that accepts nothing but encodings.
* `firstOffset`: The offset of the first field of variable size.
* `fixedEnd`: Where the fixed part of a container ends.
* `Cut`: The pieces that the fields of a container are decoded from.

## Theorems

* `encodeAll_of_cut`: The parts that a container was decoded from.
* `encode_of_decode`: What a decoded container encodes to.
* `decode_skips_gap`: A container of canonical fields that is not canonical.
-/

namespace Beacon

namespace Bytes

/-- Bytes are the spelling of the number they spell, in their own width. -/
theorem ofNat_toNat (bs : Bytes) : ofNat bs.length (toNat bs) = bs := by
  induction bs with
  | nil => rfl
  | cons b rest ih =>
      have hlow : UInt8.ofNat (b.toNat + 256 * toNat rest) = b := by
        rw [← UInt8.toNat_inj, UInt8.toNat_ofNat']
        have := b.toNat_lt
        omega
      have hhigh : (b.toNat + 256 * toNat rest) / 256 = toNat rest := by
        have := b.toNat_lt
        omega
      rw [List.length_cons, toNat, ofNat, hlow, hhigh, ih]

end Bytes

namespace Schema

open Outcome Layout

/-- A type that accepts a byte string only as the encoding of the value it is
    decoded to. -/
def Canonical (s : Schema) : Prop :=
  ∀ (bs : Bytes) (v : Value), s.decode bs = .ok v → s.encode v = .ok bs

/-- The offset of the first field of variable size, read where it stands in the
    fixed part. -/
def firstOffset : Fields → Bytes → Option Nat
  | .nil, _ => none
  | .cons _ type rest, bs =>
    if type.isFixed then firstOffset rest (bs.drop type.fixedSize)
    else some (decodeOffset (bs.take offsetSize))

/-- Where the fixed part of a container of these fields ends. -/
def fixedEnd (fields : Fields) : Nat := total (headSizes fields)

theorem canonical_bytes (name : String) (length : Nat) : (bytes name length).Canonical := by
  intro bs v hdec
  rw [decode] at hdec
  split at hdec
  · rw [← Except.ok.inj hdec, encode]
  · exact absurd hdec (by simp only [reduceCtorEq, not_false_eq_true])

theorem canonical_byteList (name : String) (limit : Nat) : (byteList name limit).Canonical := by
  intro bs v hdec
  rw [decode] at hdec
  split at hdec
  · rw [← Except.ok.inj hdec, encode]
  · exact absurd hdec (by simp only [reduceCtorEq, not_false_eq_true])

/-- A type of which all that its size depends on is there tells whether it is of
    fixed size. -/
theorem fixedness_of_measured (s : Schema) (h : s.measured = .ok ()) :
    s.fixedness = .ok s.isFixed := by
  obtain ⟨b, hb, -⟩ := bind_eq_ok_iff.mp h
  rw [hb, isFixed_of_fixedness s b hb]

/-- The first offset is the first of those read from the fixed part. -/
theorem firstOffset_eq (fields : Fields) (ps : List Bytes) (more : Bytes)
    (hsizes : ps.map List.length = headSizes fields) :
    firstOffset fields (ps.flatten ++ more) = (headOffsets fields ps).head?.map Prod.snd := by
  match fields, ps with
  | .nil, _ => rfl
  | .cons _ _ _, [] => exact absurd hsizes.symm (by simp only [headSizes, List.map_nil,
      reduceCtorEq, not_false_eq_true])
  | .cons field type rest, piece :: ps =>
      rw [List.map_cons, headSizes, List.cons.injEq] at hsizes
      rw [firstOffset, headOffsets, List.flatten_cons, List.append_assoc]
      cases hfix : type.isFixed with
      | true =>
          rw [hfix, if_pos rfl] at hsizes
          rw [if_pos rfl, if_pos rfl, ← hsizes.1, List.drop_left]
          exact firstOffset_eq rest ps more hsizes.2
      | false =>
          rw [hfix, if_neg Bool.false_ne_true] at hsizes
          rw [if_neg Bool.false_ne_true, if_neg Bool.false_ne_true, ← hsizes.1, List.take_left]
          rfl

/-- The pieces of a fixed part and of a variable part that fields of a container
    are decoded from. -/
inductive Cut : Fields → List Bytes → List Bytes → List Value → Prop
  | nil : Cut .nil [] [] []
  | fixed {field : String} {type : Schema} {fields : Fields} {piece : Bytes} {v : Value}
      {ps rest : List Bytes} {vs : List Value} (hfix : type.isFixed = true)
      (hsize : piece.length = type.fixedSize) (hv : type.decode piece = .ok v)
      (hmore : Cut fields ps rest vs) :
      Cut (.cons field type fields) (piece :: ps) rest (v :: vs)
  | varying {field : String} {type : Schema} {fields : Fields} {piece tail : Bytes} {v : Value}
      {ps rest : List Bytes} {vs : List Value} (hfix : type.isFixed = false)
      (hsize : piece.length = offsetSize) (hv : type.decode tail = .ok v)
      (hmore : Cut fields ps rest vs) :
      Cut (.cons field type fields) (piece :: ps) (tail :: rest) (v :: vs)

/-- The two passes of decoding take each field from its piece. -/
theorem cut_of_decode : ∀ (fields : Fields) (ps : List Bytes) (heads : List (Option Value))
    (rest : List Bytes) (vs : List Value), ps.map List.length = headSizes fields →
    rest.length = (headOffsets fields ps).length → decodeFixed fields ps = .ok heads →
    decodeVariable fields heads rest = .ok vs → Cut fields ps rest vs
  | .nil, ps, heads, rest, vs, hsizes, hlen, hheads, hvs => by
      have hps : ps = [] := List.map_eq_nil_iff.mp hsizes
      subst hps
      rw [← Except.ok.inj hheads] at hvs
      rw [← Except.ok.inj hvs, List.eq_nil_of_length_eq_zero hlen]
      exact .nil
  | .cons _ type fields, [], _, _, _, hsizes, _, _, _ => absurd hsizes.symm (by
      simp only [headSizes, List.map_nil, reduceCtorEq, not_false_eq_true])
  | .cons _ type fields, piece :: ps, heads, rest, vs, hsizes, hlen, hheads, hvs => by
      rw [List.map_cons, headSizes, List.cons.injEq] at hsizes
      rw [decodeFixed] at hheads
      rw [headOffsets] at hlen
      cases hfix : type.isFixed with
      | true =>
          simp only [hfix, if_true] at hsizes hlen hheads
          obtain ⟨head, hhead, hmore⟩ := bind_eq_ok_iff.mp hheads
          obtain ⟨v, hv, rfl⟩ := map_eq_ok_iff.mp hhead
          obtain ⟨heads', hheads', hpure⟩ := bind_eq_ok_iff.mp hmore
          rw [← Except.ok.inj hpure, decodeVariable] at hvs
          obtain ⟨vs', hvs', hpure'⟩ := bind_eq_ok_iff.mp hvs
          rw [← Except.ok.inj hpure']
          exact .fixed hfix hsizes.1 hv
            (cut_of_decode fields ps heads' rest vs' hsizes.2 hlen hheads' hvs')
      | false =>
          simp only [hfix, Bool.false_eq_true, if_false, ok_bind] at hsizes hlen hheads
          obtain ⟨heads', hheads', hpure⟩ := bind_eq_ok_iff.mp hheads
          rw [← Except.ok.inj hpure] at hvs
          cases rest with
          | nil => exact absurd hlen.symm (Nat.succ_ne_zero _)
          | cons tail rest =>
              rw [decodeVariable] at hvs
              obtain ⟨v, hv, hrest⟩ := bind_eq_ok_iff.mp hvs
              obtain ⟨vs', hvs', hpure'⟩ := bind_eq_ok_iff.mp hrest
              rw [← Except.ok.inj hpure']
              exact .varying hfix hsizes.1 hv (cut_of_decode fields ps heads' rest vs' hsizes.2
                (Nat.succ.inj hlen) hheads' hvs')

/-- What canonical fields were decoded from is what they encode to. -/
theorem encodeAll_of_cut (name : String) (fields : Fields) (ps rest : List Bytes)
    (vs : List Value) (hcut : Cut fields ps rest vs) (hmeasured : fieldsMeasured fields = .ok ())
    (hcanon : ∀ field ∈ fields.toList, field.2.Canonical) :
    ∃ parts, encodeAll name fields vs = .ok parts ∧ tails parts = rest ∧
      parts.map Layout.Part.headSize = headSizes fields ∧
      ∀ start, (headOffsets fields ps).map Prod.snd = offsets start rest →
        entries start parts = ps := by
  induction hcut with
  | nil => exact ⟨[], rfl, rfl, rfl, fun _ _ => rfl⟩
  | fixed hfix hsize hv _ ih =>
      obtain ⟨u, hu, hmeasuredRest⟩ := bind_eq_ok_iff.mp hmeasured
      obtain ⟨hcanonType, hcanonRest⟩ := List.forall_mem_cons.mp hcanon
      obtain ⟨parts, hparts, htails, hheadSizes, hentries⟩ := ih hmeasuredRest hcanonRest
      refine ⟨_, (encodeAll_cons name _ _ _ _ _ _ (fixedness_of_measured _ hu)).mpr
        ⟨_, parts, hcanonType _ _ hv, hparts, rfl⟩, ?_, ?_, ?_⟩
      · rw [tails_cons, if_pos hfix, htails]
      · rw [List.map_cons, headSizes, if_pos hfix, hheadSizes, Layout.Part.headSize, if_pos hfix,
          hsize]
      · intro start hstart
        rw [headOffsets, if_pos hfix] at hstart
        rw [entries, if_pos hfix, hentries start hstart]
  | @varying _ type _ piece tail _ _ _ _ hfix hsize hv _ ih =>
      obtain ⟨u, hu, hmeasuredRest⟩ := bind_eq_ok_iff.mp hmeasured
      obtain ⟨hcanonType, hcanonRest⟩ := List.forall_mem_cons.mp hcanon
      obtain ⟨parts, hparts, htails, hheadSizes, hentries⟩ := ih hmeasuredRest hcanonRest
      have hopen : ¬type.isFixed = true := by rw [hfix]; exact Bool.false_ne_true
      refine ⟨_, (encodeAll_cons name _ _ _ _ _ _ (fixedness_of_measured _ hu)).mpr
        ⟨_, parts, hcanonType _ _ hv, hparts, rfl⟩, ?_, ?_, ?_⟩
      · rw [tails_cons, if_neg hopen, htails]
      · rw [List.map_cons, headSizes, if_neg hopen, hheadSizes, Layout.Part.headSize, if_neg hopen]
      · intro start hstart
        rw [headOffsets, if_neg hopen, List.map_cons, offsets, List.cons.injEq] at hstart
        have hpiece : Bytes.ofNat offsetSize start = piece := by
          rw [← hstart.1, ← hsize]
          exact Bytes.ofNat_toNat piece
        rw [entries, if_neg hopen, hpiece, hentries _ hstart.2]

/-- Offsets that were read stood in four bytes, so they fit there again. -/
theorem headOffsets_lt_of_cut (fields : Fields) (ps rest : List Bytes) (vs : List Value)
    (hcut : Cut fields ps rest vs) :
    ∀ n ∈ (headOffsets fields ps).map Prod.snd, n < Nat.pow 256 offsetSize := by
  induction hcut with
  | nil => exact fun n hn => absurd hn List.not_mem_nil
  | fixed hfix _ _ _ ih =>
      rw [headOffsets, if_pos hfix]
      exact ih
  | @varying _ _ _ piece _ _ _ _ _ hfix hsize _ _ ih =>
      rw [headOffsets, if_neg (by rw [hfix]; exact Bool.false_ne_true), List.map_cons,
        List.forall_mem_cons]
      refine ⟨?_, ih⟩
      rw [← hsize]
      exact Bytes.toNat_lt piece

/-- A container with a field of variable size has an offset. -/
theorem headOffsets_ne_nil_of_cut (fields : Fields) (ps rest : List Bytes) (vs : List Value)
    (hcut : Cut fields ps rest vs) (hopen : areFixed fields = false) :
    headOffsets fields ps ≠ [] := by
  induction hcut with
  | nil => exact absurd hopen (by simp only [areFixed, reduceCtorEq, not_false_eq_true])
  | fixed hfix _ _ _ ih =>
      rw [areFixed, hfix, Bool.true_and] at hopen
      rw [headOffsets, if_pos hfix]
      exact ih hopen
  | varying hfix _ _ _ _ =>
      rw [headOffsets, if_neg (by rw [hfix]; exact Bool.false_ne_true)]
      exact List.cons_ne_nil _ _

/-- What is behind a container that was decoded: pieces that join to the fixed
    part, pieces that were cut at the offsets, and a value for each field from
    one or the other. -/
theorem cut_of_decode_container (name : String) (fields : Fields) (bs : Bytes) (v : Value)
    (hdec : (container name fields).decode bs = .ok v) :
    ∃ ps rest vs, v = .row vs ∧ fieldsMeasured fields = .ok () ∧
      ps.map List.length = headSizes fields ∧ ps.flatten ++ bs.drop (fixedEnd fields) = bs ∧
      sliceVariable name bs (fixedEnd fields) (headOffsets fields ps) = .ok rest ∧
      Cut fields ps rest vs := by
  rw [decode] at hdec
  obtain ⟨u, hmeasured, hdec⟩ := bind_eq_ok_iff.mp hdec
  obtain ⟨ps, hsplit, hdec⟩ := bind_eq_ok_iff.mp hdec
  obtain ⟨heads, hheads, hdec⟩ := bind_eq_ok_iff.mp hdec
  obtain ⟨hsizes, hjoin⟩ := splitFixed_eq_ok name _ bs ps hsplit
  dsimp only at hdec
  split at hdec
  · exact absurd hdec (by simp only [reduceCtorEq, not_false_eq_true])
  · obtain ⟨rest, hslices, hdec⟩ := bind_eq_ok_iff.mp hdec
    obtain ⟨vs, hvs, rfl⟩ := map_eq_ok_iff.mp hdec
    have hlen := length_of_slices name bs _ _ rest hslices
    exact ⟨ps, rest, vs, rfl, hmeasured, hsizes, hjoin, hslices,
      cut_of_decode fields ps heads rest vs hsizes hlen hheads hvs⟩

/-- A container of canonical fields that was decoded encodes to the bytes it was
    decoded from without those between its fixed part and its first offset. It
    encodes to the very same bytes exactly when there are none between. -/
theorem encode_of_decode (name : String) (fields : Fields) (bs : Bytes) (v : Value)
    (hopen : areFixed fields = false) (hcanon : ∀ field ∈ fields.toList, field.2.Canonical)
    (hdec : (container name fields).decode bs = .ok v) :
    ((container name fields).encode v = .ok bs ↔
      firstOffset fields bs = some (fixedEnd fields)) ∧
    ∃ first encoded, firstOffset fields bs = some first ∧
      fixedEnd fields ≤ first ∧ first ≤ bs.length ∧
      (container name fields).encode v = .ok encoded ∧
      encoded.drop (fixedEnd fields) = bs.drop first ∧
      encoded.length + (first - fixedEnd fields) = bs.length := by
  obtain ⟨ps, rest, vs, rfl, hmeasured, hsizes, hjoin, hslices, hcut⟩ :=
    cut_of_decode_container name fields bs v hdec
  obtain ⟨parts, hparts, htails, hheadSizes, hentries⟩ :=
    encodeAll_of_cut name fields ps rest vs hcut hmeasured hcanon
  have hlt := headOffsets_lt_of_cut fields ps rest vs hcut
  have hfirst := firstOffset_eq fields ps (bs.drop (fixedEnd fields)) hsizes
  rw [hjoin] at hfirst
  cases hstarts : headOffsets fields ps with
  | nil => exact absurd hstarts (headOffsets_ne_nil_of_cut fields ps rest vs hcut hopen)
  | cons start more =>
      rw [hstarts] at hfirst hslices hlt hentries
      obtain ⟨hbehind, hinside, htail, hoffsets⟩ :=
        slices_eq_ok name bs (fixedEnd fields) start.2 start.1 more rest hslices
      rw [List.map_cons, hoffsets] at hlt hentries
      -- The offsets of the encoding are the ones read, lowered by the gap, so they fit too.
      have henc : (container name fields).encode (.row vs)
          = .ok ((entries (fixedEnd fields) parts).flatten ++ rest.flatten) := by
        rw [encode, hparts, ok_bind, encode_eq_ok_iff, hheadSizes, htails]
        exact ⟨offsets_lt_of_le _ _ _ rest hbehind hlt, rfl⟩
      have hfixed : (entries (fixedEnd fields) parts).flatten.length = fixedEnd fields := by
        rw [length_flatten_entries, hheadSizes]
        rfl
      have hlen : ((entries (fixedEnd fields) parts).flatten ++ rest.flatten).length
          + (start.2 - fixedEnd fields) = bs.length := by
        rw [List.length_append, hfixed, htail, List.length_drop]
        omega
      refine ⟨?_, start.2, _, hfirst, hbehind, hinside, henc, ?_, hlen⟩
      · rw [henc, hfirst]
        simp only [Except.ok.injEq, List.head?_cons, Option.map_some, Option.some.injEq]
        constructor
        · intro hsame
          rw [hsame] at hlen
          omega
        · intro hsame
          rw [hentries (fixedEnd fields) (by rw [hsame]), htail, hsame, hjoin]
      · rw [List.drop_left' hfixed, htail]

/-- A byte between the fixed part and the first field of variable size, with an
    empty field at the end. -/
theorem encode_of_decode_gap :
    let fields := Fields.ofList [("root", .bytes "Root" 2), ("payload", .byteList "Payload" 8),
      ("note", .byteList "Note" 8)]
    let s := container "Entry" fields
    let bs : Bytes := [1, 2, 11, 0, 0, 0, 13, 0, 0, 0, 255, 65, 66]
    let v := Value.row [.bytes [1, 2], .bytes [65, 66], .bytes []]
    areFixed fields = false ∧ (∀ field ∈ fields.toList, field.2.Canonical) ∧ s.decode bs = .ok v ∧
      (s.encode v = .ok bs ↔ firstOffset fields bs = some (fixedEnd fields)) ∧
      ∃ first encoded, firstOffset fields bs = some first ∧ fixedEnd fields ≤ first ∧
        first ≤ bs.length ∧ s.encode v = .ok encoded ∧
        encoded.drop (fixedEnd fields) = bs.drop first ∧
        encoded.length + (first - fixedEnd fields) = bs.length := by
  intro fields s bs v
  have hcanon : ∀ field ∈ fields.toList, field.2.Canonical := by
    simp only [fields, Fields.toList_ofList, List.forall_mem_cons]
    exact ⟨canonical_bytes _ _, canonical_byteList _ _, canonical_byteList _ _,
      fun field hfield => absurd hfield List.not_mem_nil⟩
  have hdec : s.decode bs = .ok v := by decide
  exact ⟨by decide, hcanon, hdec, encode_of_decode "Entry" fields bs v (by decide) hcanon hdec⟩

/-- A container of canonical fields that is decoded from more than its encoding:
    the byte before the payload is skipped. -/
theorem decode_skips_gap :
    let fields := Fields.ofList [("payload", .byteList "Payload" 8)]
    let s := container "Wrapper" fields
    let v := Value.row [.bytes [65]]
    areFixed fields = false ∧ (∀ field ∈ fields.toList, field.2.Canonical) ∧
      s.decode [5, 0, 0, 0, 255, 65] = .ok v ∧ s.encode v ≠ .ok [5, 0, 0, 0, 255, 65] := by
  intro fields s v
  refine ⟨by decide, ?_, by decide, by decide⟩
  simp only [fields, Fields.toList_ofList, List.forall_mem_cons]
  exact ⟨canonical_byteList _ _, fun field hfield => absurd hfield List.not_mem_nil⟩

end Schema

end Beacon
