import Beacon.Proofs.Ssz.NodeForm
import Beacon.Proofs.Ssz.Reading
import Mathlib.Data.List.GetD

/-!
# Bit Strings and the Bytes They Are Read From

Which bytes a bit string is read from, and whether it is written as the same bytes
again.

Everything here is said place by place. Place `i` of a byte string is bit `i % 8`
of byte `i / 8`, and two byte strings of one length are the same if they have the
same bit at every place. Packed bits have them at their places and zeros behind, so
whether packing gives back the bytes that bits were read from is only a question of
the places that were not read.

A bit list is read up to its delimiter. What is left over is the delimiter and the
zeros above it in the last byte, and that is just what packing puts there. So the
encodings of a bit list are all that is accepted, each for one list.

A bit vector is read up to its length. Nothing looks at the places behind, up to
seven in the last byte, and packing fills them with zeros. Whatever stands there is
lost, so a bit vector whose length is no multiple of eight is read from more than
one byte string, and only one of them is its encoding.

## Main definitions

* `Bits.place`: The bit at a place of a byte string.
* `Bits.HighestAt`: Where the highest bit of a byte stands.

## Theorems

* `Bits.eq_of_places`: Bytes are told by their places.
* `Bits.fill_eq_iff`: The bytes that bits are packed to.
* `Schema.bitlist_bijective`: A bit list and its bytes determine each other.
* `Schema.encode_of_decode_bitvector`: What a decoded bit vector encodes to.
* `Schema.decode_bitvector_padded`: A bit vector with two byte strings.
-/

namespace Beacon

namespace Bits

/-- The bit at a place of a byte string, zeros standing behind the last byte. -/
def place (data : Bytes) (i : Nat) : Bool := (data.getD (i / 8) 0).toNat.testBit (i % 8)

/-- The highest bit that is set in a byte has this position. -/
def HighestAt (b : UInt8) (position : Nat) : Prop :=
  b.toNat.testBit position = true ∧ ∀ above, position < above → b.toNat.testBit above = false

/-! ### Places -/

theorem getD_spread (count n i : Nat) (h : i < count) :
    (spread count n).getD i false = n.testBit i := by
  induction count generalizing n i with
  | zero => exact absurd h (Nat.not_lt_zero i)
  | succ count ih =>
      cases i with
      | zero => rw [spread, List.getD_cons_zero, Nat.testBit_zero]
      | succ i =>
          rw [spread, List.getD_cons_succ, Nat.testBit_succ]
          exact ih (n / 2) i (Nat.lt_of_succ_lt_succ h)

/-- Unpacked bytes have their bits in the order of the places. -/
theorem getD_ofBytes (data : Bytes) (i : Nat) : (ofBytes data).getD i false = place data i := by
  induction data generalizing i with
  | nil =>
      have hzero : (0 : UInt8).toNat = 0 := rfl
      rw [place, List.getD_nil, hzero, Nat.zero_testBit]
      exact List.getD_nil
  | cons b rest ih =>
      have hcons : ofBytes (b :: rest) = ofByte b ++ ofBytes rest := rfl
      have hbyte : (ofByte b).length = 8 := rfl
      rw [hcons]
      -- The first eight places are in the first byte, the others eight earlier in the rest.
      by_cases hfirst : i < 8
      · have hdiv : i / 8 = 0 := Nat.div_eq_of_lt hfirst
        rw [List.getD_append _ _ _ _ hfirst, ofByte, getD_spread 8 b.toNat i hfirst, place, hdiv,
          Nat.mod_eq_of_lt hfirst, List.getD_cons_zero]
      · have hdiv : i / 8 = (i - 8) / 8 + 1 := by omega
        have hmod : i % 8 = (i - 8) % 8 := by omega
        rw [List.getD_append_right _ _ _ _ (by rw [hbyte]; omega), hbyte, ih, place, place, hdiv,
          hmod, List.getD_cons_succ]

/-- Byte strings of one length are the same if they have the same bit at every
    place. -/
theorem eq_of_places (data other : Bytes) (hlength : data.length = other.length)
    (h : ∀ i, place data i = place other i) : data = other := by
  refine List.ext_getElem hlength fun k hk hk' => ?_
  rw [← UInt8.toNat_inj]
  refine Nat.eq_of_testBit_eq fun j => ?_
  by_cases hj : j < 8
  · have hplace := h (8 * k + j)
    have hdiv : (8 * k + j) / 8 = k := by omega
    have hmod : (8 * k + j) % 8 = j := by omega
    rwa [place, place, hdiv, hmod, List.getD_eq_getElem _ _ hk, List.getD_eq_getElem _ _ hk']
      at hplace
  -- A byte has no bits above its eight.
  · have hhigh : ∀ b : UInt8, b.toNat.testBit j = false := by
      intro b
      have hlt : b.toNat < 2 ^ 8 := b.toNat_lt
      exact Nat.testBit_lt_two_pow
        (Nat.lt_of_lt_of_le hlt (Nat.pow_le_pow_right (by omega) (by omega)))
    rw [hhigh, hhigh]

/-- Packed bits have the bits at their places and zeros behind. -/
theorem place_fill (count : Nat) (bits : List Bool) (i : Nat) (h : bits.length ≤ 8 * count) :
    place (fill count bits) i = bits.getD i false := by
  rw [← getD_ofBytes, ofBytes_fill count bits h]
  -- Behind the bits there are zeros to the end of the last byte, and then nothing.
  by_cases hi : i < bits.length
  · exact List.getD_append _ _ _ _ hi
  · rw [List.getD_append_right _ _ _ _ (by omega), List.getD_eq_default bits _ (by omega),
      List.getD_eq_getElem?_getD, List.getElem?_replicate]
    split <;> rfl

/-- The bytes that bits are packed to: so many, with the bits at their places and
    zeros behind. -/
theorem fill_eq_iff (count : Nat) (bits : List Bool) (data : Bytes)
    (h : bits.length ≤ 8 * count) :
    fill count bits = data ↔ data.length = count ∧ ∀ i, place data i = bits.getD i false := by
  constructor
  · rintro rfl
    exact ⟨length_fill count bits, fun i => place_fill count bits i h⟩
  · rintro ⟨hlength, hplaces⟩
    refine eq_of_places _ _ (by rw [length_fill, hlength]) fun i => ?_
    rw [place_fill count bits i h, hplaces i]

/-- The first bits of bytes are those at the first places. -/
theorem getD_take_ofBytes (data : Bytes) (count i : Nat) :
    ((ofBytes data).take count).getD i false = (decide (i < count) && place data i) := by
  rw [List.getD_eq_getElem?_getD, List.getElem?_take]
  by_cases hi : i < count
  · rw [if_pos hi, decide_eq_true hi, Bool.true_and, ← List.getD_eq_getElem?_getD, getD_ofBytes]
  · rw [if_neg hi, decide_eq_false hi, Bool.false_and]
    rfl

/-- Two byte strings begin with the same bits if they agree at the first places. -/
theorem take_ofBytes_eq_iff (data other : Bytes) (count : Nat) (h : count ≤ 8 * data.length)
    (h' : count ≤ 8 * other.length) :
    (ofBytes data).take count = (ofBytes other).take count ↔
      ∀ i < count, place data i = place other i := by
  constructor
  · intro hsame i hi
    have hbit := congrArg (fun bits => bits.getD i false) hsame
    simpa only [getD_take_ofBytes, decide_eq_true hi, Bool.true_and] using hbit
  · intro hplaces
    refine List.ext_getElem ?_ fun i hi hi' => ?_
    · rw [List.length_take, List.length_take, length_ofBytes, length_ofBytes]
      omega
    · rw [← List.getD_eq_getElem _ false hi, ← List.getD_eq_getElem _ false hi',
        getD_take_ofBytes, getD_take_ofBytes]
      by_cases hcount : i < count
      · rw [hplaces i hcount]
      · rw [decide_eq_false hcount, Bool.false_and, Bool.false_and]

/-! ### The highest bit of a byte -/

theorem highestAt_highest (b : UInt8) (h : b ≠ 0) : HighestAt b (highest b) := by
  have hne : b.toNat ≠ 0 := fun hzero => h (UInt8.toNat_inj.mp hzero)
  refine ⟨Nat.testBit_log2 hne, fun above habove => ?_⟩
  refine Nat.testBit_lt_two_pow (Nat.lt_of_lt_of_le Nat.lt_log2_self ?_)
  exact Nat.pow_le_pow_right (by omega) habove

theorem HighestAt.unique {b : UInt8} {p q : Nat} (hp : HighestAt b p) (hq : HighestAt b q) :
    p = q := by
  rcases Nat.lt_trichotomy p q with hlt | heq | hgt
  · exact absurd hq.1 (by rw [hp.2 q hlt]; exact Bool.false_ne_true)
  · exact heq
  · exact absurd hp.1 (by rw [hq.2 p hgt]; exact Bool.false_ne_true)

/-- A byte that is not zero has its highest bit where it is found. -/
theorem highestAt_iff (b : UInt8) (position : Nat) (h : b ≠ 0) :
    HighestAt b position ↔ highest b = position := by
  constructor
  · exact fun hposition => (highestAt_highest b h).unique hposition
  · rintro rfl
    exact highestAt_highest b h

theorem highest_lt (b : UInt8) (h : b ≠ 0) : highest b < 8 := by
  have hne : b.toNat ≠ 0 := fun hzero => h (UInt8.toNat_inj.mp hzero)
  exact (Nat.log2_lt hne).mpr b.toNat_lt

/-- The place of the delimiter is the last one at which a bit is set. -/
theorem place_delimiter (data : Bytes) (last : UInt8) (hlast : data.getLast? = some last)
    (h : last ≠ 0) :
    place data (8 * (data.length - 1) + highest last) = true ∧
      ∀ i, 8 * (data.length - 1) + highest last < i → place data i = false := by
  obtain ⟨hset, habove⟩ := highestAt_highest last h
  have hbit := highest_lt last h
  have hend : data.getD (data.length - 1) 0 = last := by
    rw [List.getLast?_eq_getElem?] at hlast
    rw [List.getD_eq_getElem?_getD, hlast, Option.getD_some]
  constructor
  · have hdiv : (8 * (data.length - 1) + highest last) / 8 = data.length - 1 := by omega
    have hmod : (8 * (data.length - 1) + highest last) % 8 = highest last := by omega
    rw [place, hdiv, hmod, hend, hset]
  · intro i hi
    by_cases hin : i / 8 = data.length - 1
    · rw [place, hin, hend, habove _ (by omega)]
    -- Behind the last byte there is nothing.
    · have hzero : (0 : UInt8).toNat = 0 := rfl
      rw [place, List.getD_eq_default _ _ (by omega), hzero, Nat.zero_testBit]

end Bits

namespace Schema

open Outcome

/-! ### Bit lists -/

/-- A bit list is read from bytes that end in a delimiter within the limit, and it is
    what stands before the delimiter. -/
theorem decode_bitlist_eq_ok_iff (name : String) (limit : Nat) (bs : Bytes) (v : Value) :
    (bitlist name limit).decode bs = .ok v ↔
      ∃ last, bs.getLast? = some last ∧ last ≠ 0 ∧
        8 * (bs.length - 1) + Bits.highest last ≤ limit ∧
        v = .bits ((Bits.ofBytes bs).take (8 * (bs.length - 1) + Bits.highest last)) := by
  rw [decode]
  rcases hlast : bs.getLast? with _ | last
  · simp only [reduceCtorEq, false_and, exists_false]
  simp only [Option.some.injEq, exists_eq_left']
  by_cases hzero : last = 0
  · rw [if_pos hzero]
    simp only [reduceCtorEq, hzero, ne_eq, not_true_eq_false, false_and]
  rw [if_neg hzero]
  by_cases hlimit : limit < 8 * (bs.length - 1) + Bits.highest last
  · rw [if_pos hlimit]
    simp only [reduceCtorEq, Nat.not_le.mpr hlimit, false_and, and_false]
  · rw [if_neg hlimit, Bits.unpack, if_pos (delimited_le bs last hlast)]
    simp only [Except.map, Except.ok.injEq, ne_eq, hzero, not_false_eq_true,
      Nat.le_of_not_lt hlimit, true_and]
    exact eq_comm

/-- What stands before the delimiter is packed to the bytes again. -/
theorem fill_delimited (bs : Bytes) (last : UInt8) (hlast : bs.getLast? = some last)
    (h : last ≠ 0) :
    let count := 8 * (bs.length - 1) + Bits.highest last
    Bits.fill (count / 8 + 1) ((Bits.ofBytes bs).take count ++ [true]) = bs := by
  intro count
  obtain ⟨hset, hbehind⟩ := Bits.place_delimiter bs last hlast h
  have hbit := Bits.highest_lt last h
  have hpos : 0 < bs.length := List.length_pos_of_ne_nil fun hnil => by
    rw [hnil, List.getLast?_nil] at hlast
    exact absurd hlast (by simp only [reduceCtorEq, not_false_eq_true])
  have hcount : count = 8 * (bs.length - 1) + Bits.highest last := rfl
  have hlen : ((Bits.ofBytes bs).take count).length = count := by
    rw [List.length_take, Bits.length_ofBytes]
    omega
  refine (Bits.fill_eq_iff _ _ bs ?_).mpr ⟨by omega, fun i => ?_⟩
  · rw [List.length_append, hlen, List.length_singleton]
    omega
  -- Before the delimiter the bits that were read, then the delimiter, then zeros.
  rcases Nat.lt_trichotomy i count with hbefore | rfl | hafter
  · rw [List.getD_append _ _ _ _ (by rw [hlen]; exact hbefore), Bits.getD_take_ofBytes,
      decide_eq_true hbefore, Bool.true_and]
  · rw [List.getD_append_right _ _ _ _ (Nat.le_of_eq hlen), hlen, Nat.sub_self]
    exact hset
  · rw [List.getD_eq_default _ _ (by rw [List.length_append, hlen, List.length_singleton]; omega),
      hbehind i hafter]

/-- A bit list is read from just those bytes that end in a byte that is not zero and
    whose highest bit stands no further than the limit. It encodes to the bytes it is
    read from, and every bit list within the limit encodes to bytes it is read from. -/
theorem bitlist_bijective (name : String) (limit : Nat) :
    (∀ bs : Bytes, (∃ v, (bitlist name limit).decode bs = .ok v) ↔
      ∃ last position, bs.getLast? = some last ∧ last ≠ 0 ∧ Bits.HighestAt last position ∧
        8 * (bs.length - 1) + position ≤ limit) ∧
    (∀ bs v, (bitlist name limit).decode bs = .ok v → (bitlist name limit).encode v = .ok bs) ∧
    ∀ bits : List Bool, bits.length ≤ limit →
      ∃ bs, (bitlist name limit).encode (.bits bits) = .ok bs ∧
        (bitlist name limit).decode bs = .ok (.bits bits) := by
  refine ⟨fun bs => ?_, fun bs v hdec => ?_, fun bits hlimit => ?_⟩
  · constructor
    · rintro ⟨v, hdec⟩
      obtain ⟨last, hlast, hzero, hlimit, -⟩ := (decode_bitlist_eq_ok_iff name limit bs v).mp hdec
      exact ⟨last, _, hlast, hzero, Bits.highestAt_highest last hzero, hlimit⟩
    · rintro ⟨last, position, hlast, hzero, hposition, hlimit⟩
      rw [← (Bits.highestAt_iff last position hzero).mp hposition] at hlimit
      exact ⟨_, (decode_bitlist_eq_ok_iff name limit bs _).mpr ⟨last, hlast, hzero, hlimit, rfl⟩⟩
  · obtain ⟨last, hlast, hzero, -, rfl⟩ := (decode_bitlist_eq_ok_iff name limit bs v).mp hdec
    have hinside := delimited_le bs last hlast
    have hlen : ((Bits.ofBytes bs).take (8 * (bs.length - 1) + Bits.highest last)).length
        = 8 * (bs.length - 1) + Bits.highest last := by
      rw [List.length_take, Bits.length_ofBytes]
      omega
    rw [encode, hlen, fill_delimited bs last hlast hzero]
  · exact ⟨_, rfl, decode_bitlist name limit bits hlimit⟩

/-! ### Bit vectors -/

/-- A bit vector is read from bytes of its size, and it is what stands at the places
    below its length. -/
theorem decode_bitvector_eq_ok_iff (name : String) (length : Nat) (bs : Bytes) (v : Value) :
    (bitvector name length).decode bs = .ok v ↔
      bs.length = (length + 7) / 8 ∧ v = .bits ((Bits.ofBytes bs).take length) := by
  rw [decode]
  by_cases hsize : bs.length = (length + 7) / 8
  · have hinside : length ≤ 8 * bs.length := by omega
    rw [if_pos hsize, Bits.unpack, if_pos hinside, and_iff_right hsize, Except.map,
      Except.ok.injEq]
    exact eq_comm
  · rw [if_neg hsize]
    simp only [reduceCtorEq, hsize, false_and]

/-- A bit vector in hex text is read as the bytes of the text are. -/
theorem read_bitvector_text_iff (name : String) (length : Nat) (t : Text) (v : Value) :
    (bitvector name length).read (.text t) = .ok v ↔
      ∃ bs, Hex.read t.legible = .ok bs ∧ (bitvector name length).decode bs = .ok v := by
  rw [read, readBitfield, Fault.refuse_eq_ok_iff, bind_eq_ok_iff, Bytes.ofDatum]
  rcases Hex.read t.legible with position | bs
  · simp only [reduceCtorEq, false_and, exists_false]
  · simp only [Except.ok.injEq, exists_eq_left']

/-- Bits of a bit vector fit in its bytes, so that packing them does not fail. -/
theorem encode_bitvector (name : String) (length : Nat) (bits : List Bool)
    (h : bits.length ≤ length) :
    (bitvector name length).encode (.bits bits) = .ok (Bits.fill ((length + 7) / 8) bits) := by
  have hdrop : bits.drop (8 * ((length + 7) / 8)) = [] := List.drop_of_length_le (by omega)
  rw [encode, Bits.pack, hdrop]
  rfl

/-- A decoded bit vector encodes to the bytes it was decoded from if they have nothing
    but zeros behind its length, and else to these bytes with zeros there. All byte
    strings of that size with the same bits before are decoded to it, and so is the hex
    text of each of them. -/
theorem encode_of_decode_bitvector (name : String) (length : Nat) (bs : Bytes) (v : Value)
    (hdec : (bitvector name length).decode bs = .ok v) :
    ((bitvector name length).encode v = .ok bs ↔ ∀ i, length ≤ i → Bits.place bs i = false) ∧
    (∃ cleared, (bitvector name length).encode v = .ok cleared ∧ cleared.length = bs.length ∧
      ∀ i, Bits.place cleared i = (decide (i < length) && Bits.place bs i)) ∧
    (∀ other, (bitvector name length).decode other = .ok v ↔
      other.length = bs.length ∧ ∀ i < length, Bits.place other i = Bits.place bs i) ∧
    ∀ t : Text, (bitvector name length).read (.text t) = .ok v ↔
      ∃ other, Hex.read t.legible = .ok other ∧ other.length = bs.length ∧
        ∀ i < length, Bits.place other i = Bits.place bs i := by
  obtain ⟨hsize, rfl⟩ := (decode_bitvector_eq_ok_iff name length bs v).mp hdec
  have hlen : ((Bits.ofBytes bs).take length).length = length := by
    rw [List.length_take, Bits.length_ofBytes]
    omega
  have henc := encode_bitvector name length _ (Nat.le_of_eq hlen)
  have hroom : ((Bits.ofBytes bs).take length).length ≤ 8 * ((length + 7) / 8) := by
    rw [hlen]
    omega
  -- Two byte strings of the size are read to the same bits if they agree below the length.
  have hsame : ∀ other : Bytes, (bitvector name length).decode other
        = .ok (.bits ((Bits.ofBytes bs).take length)) ↔
      other.length = bs.length ∧ ∀ i < length, Bits.place other i = Bits.place bs i := by
    intro other
    rw [decode_bitvector_eq_ok_iff, hsize, Value.bits.injEq]
    refine and_congr_right fun hother => ?_
    rw [Bits.take_ofBytes_eq_iff bs other length (by omega) (by omega)]
    exact forall_congr' fun i => forall_congr' fun _ => eq_comm
  refine ⟨?_, ⟨_, henc, by rw [Bits.length_fill, hsize], fun i => ?_⟩, hsame, fun t => ?_⟩
  · rw [henc, Except.ok.injEq, Bits.fill_eq_iff _ _ _ hroom, and_iff_right hsize]
    refine forall_congr' fun i => ?_
    rw [Bits.getD_take_ofBytes]
    by_cases hi : i < length
    · simp only [hi, decide_true, Bool.true_and, Nat.not_le.mpr hi, false_implies]
    · simp only [hi, decide_false, Bool.false_and, Nat.le_of_not_lt hi, true_implies]
  · rw [Bits.place_fill _ _ i hroom, Bits.getD_take_ofBytes]
  · rw [read_bitvector_text_iff]
    refine exists_congr fun other => and_congr_right fun _ => hsame other

/-- Eleven bits in two bytes, with one of the five bits behind them set. -/
theorem encode_of_decode_bitvector_padded :
    let s := bitvector "Flags" 11
    let v := Value.bits [true, false, true, false, false, false, false, false, true, true, false]
    s.decode [5, 131] = .ok v ∧
      (s.encode v = .ok [5, 131] ↔ ∀ i, 11 ≤ i → Bits.place [5, 131] i = false) ∧
      (∃ cleared, s.encode v = .ok cleared ∧ cleared.length = 2 ∧
        ∀ i, Bits.place cleared i = (decide (i < 11) && Bits.place [5, 131] i)) ∧
      s.decode [5, 3] = .ok v ∧ s.read (.text "0x0583") = .ok v ∧
      s.read (.text "0503") = .ok v := by
  intro s v
  have hdec : s.decode [5, 131] = .ok v := by decide
  obtain ⟨hsame, hcleared, hother, hread⟩ := encode_of_decode_bitvector "Flags" 11 _ v hdec
  have hagree : ∀ i < 11, Bits.place [5, 3] i = Bits.place [5, 131] i := by decide
  exact ⟨hdec, hsame, hcleared, (hother [5, 3]).mpr ⟨rfl, hagree⟩,
    (hread "0x0583").mpr ⟨[5, 131], by decide, rfl, fun _ _ => rfl⟩,
    (hread "0503").mpr ⟨[5, 3], by decide, rfl, hagree⟩⟩

/-- A bit vector of four bits is decoded from a byte that is not its encoding. -/
theorem decode_bitvector_padded :
    let s := bitvector "Flags" 4
    let v := Value.bits [true, false, true, false]
    s.decode [245] = .ok v ∧ s.decode [5] = .ok v ∧ s.encode v ≠ .ok [245] ∧
      s.read (.text "0xf5") = .ok v := by
  decide

end Schema

end Beacon
