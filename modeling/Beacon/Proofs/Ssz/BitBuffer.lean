import Beacon.Proofs.Ssz.BitString
import Beacon.Ssz.Encoding

/-!
# Bits Set in a Buffer

Packing bits eight at a time is one way to say it. The other is a buffer of zeros in
which every bit that is set is set, one after the other: bit `i` is or-ed into byte
`i / 8` at position `i % 8`, and if the buffer has no such byte there is a fault. This
is how bits are packed wherever they are, into an encoding and into the leaves of a
tree, and only the size of the buffer differs. Here the two ways are proved the same,
faults and all (`pack_eq_setBits`).

The argument goes by places. Setting a bit changes the one place that it names
(`place_setBit`), so a run over a row of bits changes the places of those that are set
(`place_setBits`), and bytes of one length are told by their places.

A bit list sets one bit more, its delimiter, right behind its last bit. Clearing that
one bit gives the packed bits back. The buffer was made with room for the delimiter,
which is a byte of its own if the bits fill all bytes before it, and then that byte is
left over with nothing in it (`undelimited_fill`).

## Main definitions

* `mask`: The byte in which one bit is set.
* `setBit`, `clearBit`: One bit of a buffer set, and cleared.
* `setBits`: The bits of a row set one after the other.
* `undelimited`: The encoding of a bit list without the delimiter.

## Theorems

* `place_setBit`, `place_setBits`: What is changed by setting bits.
* `setBits_fits`, `setBits_beyond`: When there is room for them.
* `pack_eq_setBits`: Packing is setting bits in a buffer of zeros.
* `encode_bitlist_eq_setBits`: A bit list is encoded by setting its delimiter too.
* `undelimited_fill`: Clearing it gives the packed bits.
-/

namespace Beacon

namespace Bits

open Outcome

/-- The byte in which the bit at a position is set. -/
def mask (position : Nat) : UInt8 := UInt8.ofNat (1 <<< position)

/-- Sets one bit of a buffer. There is none to set behind the last byte. -/
def setBit (data : Bytes) (i : Nat) : Except Fault Bytes :=
  if i / 8 < data.length then .ok (data.modify (i / 8) (· ||| mask (i % 8)))
  else .error .bitBeyond

/-- Sets the bits of a row that are set, one after the other, the first of them being
    bit `i` of the buffer. -/
def setBits (data : Bytes) (i : Nat) : List Bool → Except Fault Bytes
  | [] => .ok data
  | true :: rest => do
    let data ← setBit data i
    setBits data (i + 1) rest
  | false :: rest => setBits data (i + 1) rest

/-- Clears one bit. -/
def clearBit (data : Bytes) (i : Nat) : Bytes := data.modify (i / 8) (· &&& ~~~mask (i % 8))

/-- The encoding of a bit list of so many bits with the delimiter cleared, and without
    the last byte if there was nothing but the delimiter in it. -/
def undelimited (count : Nat) (data : Bytes) : Bytes :=
  if count % 8 = 0 then (clearBit data count).dropLast else clearBit data count

/-! ### Single bits -/

theorem testBit_mask (position j : Nat) (h : position < 8) :
    (mask position).toNat.testBit j = decide (position = j) := by
  have hlt : 2 ^ position < 2 ^ 8 := Nat.pow_lt_pow_right (by omega) h
  rw [mask, Nat.one_shiftLeft, UInt8.toNat_ofNat', Nat.mod_eq_of_lt hlt, Nat.testBit_two_pow]

theorem testBit_not (b : UInt8) (j : Nat) (h : j < 8) :
    (~~~b).toNat.testBit j = !b.toNat.testBit j := by
  have hnot : (~~~b).toNat = 2 ^ 8 - (b.toNat + 1) := by
    rw [UInt8.toNat_not, UInt8.size]
    omega
  rw [hnot, Nat.testBit_two_pow_sub_succ b.toNat_lt, decide_eq_true h, Bool.true_and]

/-- Changing one bit of a byte changes one place and no other, as long as the other bits
    of the byte stay. -/
theorem place_modify (data : Bytes) (i : Nat) (f : UInt8 → UInt8) (g : Bool → Bool → Bool)
    (h : i / 8 < data.length) (hsame : ∀ b, g b false = b)
    (hf : ∀ byte j, j < 8 → (f byte).toNat.testBit j
      = g (byte.toNat.testBit j) (decide (i % 8 = j))) (j : Nat) :
    place (data.modify (i / 8) f) j = g (place data j) (decide (i = j)) := by
  rw [place, place, List.getD_eq_getElem?_getD, List.getD_eq_getElem?_getD,
    List.getElem?_modify]
  by_cases hbyte : i / 8 = j / 8
  -- In one byte, places are the same if positions are.
  · have hplace : decide (i % 8 = j % 8) = decide (i = j) := by
      rw [decide_eq_decide]
      omega
    rw [← hbyte, List.getElem?_eq_getElem h]
    simp only [Option.map_eq_map, Option.map_some, if_true, Option.getD_some]
    rw [hf _ _ (Nat.mod_lt j (by omega)), hplace]
  · have hne : i ≠ j := fun heq => hbyte (congrArg (· / 8) heq)
    simp only [if_neg hbyte, Option.map_eq_map, Option.map_id_fun', id_eq]
    rw [decide_eq_false hne, hsame]

theorem setBit_of_lt {data : Bytes} {i : Nat} (h : i / 8 < data.length) :
    setBit data i = .ok (data.modify (i / 8) (· ||| mask (i % 8))) := if_pos h

/-- Setting a bit changes its place and no other. -/
theorem place_setBit {data out : Bytes} {i : Nat} (h : setBit data i = .ok out) :
    out.length = data.length ∧ ∀ j, place out j = (place data j || decide (i = j)) := by
  rw [setBit] at h
  obtain ⟨hlt, rfl⟩ := ite_eq_ok_iff.mp h
  refine ⟨List.length_modify _ _ _, place_modify data i _ or hlt Bool.or_false ?_⟩
  intro byte j _
  rw [UInt8.toNat_or, Nat.testBit_or, testBit_mask _ _ (Nat.mod_lt i (by omega))]

/-- Clearing a bit changes its place and no other. -/
theorem place_clearBit (data : Bytes) (i j : Nat) (h : i / 8 < data.length) :
    place (clearBit data i) j = (place data j && !decide (i = j)) := by
  refine place_modify data i _ (fun b cleared => b && !cleared) h Bool.and_true ?_ j
  intro byte j hj
  rw [UInt8.toNat_and, Nat.testBit_and, testBit_not _ _ hj,
    testBit_mask _ _ (Nat.mod_lt i (by omega))]

/-! ### Rows of bits -/

/-- The bits of a row that starts at a place: the first stands there, and the others
    are a row that starts one place later. -/
theorem getD_row (b : Bool) (rest : List Bool) (i j : Nat) :
    (decide (i ≤ j) && (b :: rest).getD (j - i) false)
      = (decide (i = j) && b || (decide (i + 1 ≤ j) && rest.getD (j - (i + 1)) false)) := by
  rcases Nat.lt_trichotomy i j with hlt | rfl | hgt
  · have hstep : j - i = j - (i + 1) + 1 := by omega
    rw [hstep, List.getD_cons_succ, decide_eq_false (Nat.ne_of_lt hlt),
      decide_eq_true (Nat.succ_le_of_lt hlt), decide_eq_true (Nat.le_of_lt hlt),
      Bool.false_and, Bool.false_or]
  · rw [Nat.sub_self, List.getD_cons_zero, decide_eq_true rfl, decide_eq_true (Nat.le_refl i),
      decide_eq_false (Nat.not_succ_le_self i), Bool.false_and, Bool.or_false]
  · rw [decide_eq_false (Nat.ne_of_gt hgt), decide_eq_false (by omega : ¬i + 1 ≤ j),
      decide_eq_false (Nat.not_le_of_gt hgt)]
    rfl

/-- Setting the bits of a row changes the places of those that are set. -/
theorem place_setBits {data out : Bytes} {i : Nat} {bits : List Bool}
    (h : setBits data i bits = .ok out) :
    out.length = data.length ∧
      ∀ j, place out j = (place data j || (decide (i ≤ j) && bits.getD (j - i) false)) := by
  induction bits generalizing data i with
  | nil =>
      rw [← Except.ok.inj h]
      refine ⟨rfl, fun j => ?_⟩
      rw [List.getD_nil, Bool.and_false, Bool.or_false]
  | cons b rest ih =>
      cases b with
      | true =>
          obtain ⟨next, hnext, hrest⟩ := bind_eq_ok_iff.mp h
          obtain ⟨hlength, hplaces⟩ := ih hrest
          obtain ⟨hsame, hset⟩ := place_setBit hnext
          refine ⟨hlength.trans hsame, fun j => ?_⟩
          rw [hplaces, hset, getD_row, Bool.and_true, Bool.or_assoc]
      | false =>
          obtain ⟨hlength, hplaces⟩ := ih h
          refine ⟨hlength, fun j => ?_⟩
          rw [hplaces, getD_row, Bool.and_false, Bool.false_or]

/-- There is room for a row of bits if there is for each that is set. -/
theorem setBits_fits (data : Bytes) (i : Nat) (bits : List Bool)
    (h : ∀ j, bits.getD j false = true → (i + j) / 8 < data.length) :
    ∃ out, setBits data i bits = .ok out := by
  induction bits generalizing data i with
  | nil => exact ⟨data, rfl⟩
  | cons b rest ih =>
      have hrest : ∀ j, rest.getD j false = true → (i + 1 + j) / 8 < data.length := by
        intro j hj
        have hlater := h (j + 1) (by rw [List.getD_cons_succ]; exact hj)
        rwa [Nat.add_right_comm]
      cases b with
      | true =>
          have hfirst : i / 8 < data.length := h 0 rfl
          rw [setBits, setBit_of_lt hfirst, ok_bind]
          exact ih _ _ (by rwa [List.length_modify])
      | false => exact ih data (i + 1) hrest

/-- There is a fault if a bit is set for which there is no room. -/
theorem setBits_beyond (data : Bytes) (i : Nat) (bits : List Bool) (j : Nat)
    (hset : bits.getD j false = true) (h : data.length ≤ (i + j) / 8) :
    setBits data i bits = .error .bitBeyond := by
  induction bits generalizing data i j with
  | nil =>
      rw [List.getD_nil] at hset
      exact absurd hset Bool.false_ne_true
  | cons b rest ih =>
      cases j with
      | zero =>
          have hb : b = true := hset
          have hnone : setBit data i = .error .bitBeyond := if_neg (Nat.not_lt_of_le h)
          rw [hb, setBits, hnone]
          rfl
      | succ j =>
          rw [List.getD_cons_succ] at hset
          have hrest : data.length ≤ (i + 1 + j) / 8 := by rwa [Nat.add_right_comm]
          cases b with
          | false => exact ih data (i + 1) j hset hrest
          | true =>
              rw [setBits, setBit]
              split
              · exact ih _ (i + 1) j hset (by rwa [List.length_modify])
              · rfl

/-! ### Packing -/

theorem place_zeros (count j : Nat) : place (Bytes.zeros count) j = false := by
  have hzero : (Bytes.zeros count).getD (j / 8) 0 = 0 := by
    rw [Bytes.zeros, List.getD_eq_getElem?_getD, List.getElem?_replicate]
    split <;> rfl
  rw [place, hzero]
  exact Nat.zero_testBit _

/-- Packing looks at no more bits than there is room for. -/
theorem fill_take (count : Nat) (bits : List Bool) :
    fill count (bits.take (8 * count)) = fill count bits := by
  induction count generalizing bits with
  | zero => rfl
  | succ count ih =>
      have hfirst : (bits.take (8 * (count + 1))).take 8 = bits.take 8 := by
        rw [List.take_take, Nat.min_eq_left (by omega)]
      have hrest : (bits.take (8 * (count + 1))).drop 8 = (bits.drop 8).take (8 * count) := by
        rw [List.drop_take]
        congr 1
      rw [fill, fill, hfirst, hrest, ih]

theorem getD_eq_true_iff {bits : List Bool} {j : Nat} :
    bits.getD j false = true ↔ bits[j]? = some true := by
  rw [List.getD_eq_getElem?_getD]
  cases bits[j]? with
  | none => exact iff_of_false Bool.false_ne_true (Ne.symm (Option.some_ne_none true))
  | some b => rw [Option.getD_some, Option.some.injEq]

/-- What is looked for behind the last byte is a bit that is set. -/
theorem any_drop_iff (bits : List Bool) (count : Nat) :
    (bits.drop count).any id = true ↔ ∃ j, count ≤ j ∧ bits.getD j false = true := by
  rw [List.any_eq_true]
  constructor
  · rintro ⟨b, hmem, hb⟩
    obtain ⟨k, hk⟩ := List.mem_iff_getElem?.mp hmem
    rw [List.getElem?_drop, show b = true from hb] at hk
    exact ⟨count + k, Nat.le_add_right _ _, getD_eq_true_iff.mpr hk⟩
  · rintro ⟨j, hle, hset⟩
    refine ⟨true, List.mem_iff_getElem?.mpr ⟨j - count, ?_⟩, rfl⟩
    rw [List.getElem?_drop, Nat.add_sub_cancel' hle]
    exact getD_eq_true_iff.mp hset

/-- Bits that are set in the buffer only are all there is to pack. -/
theorem getD_take (bits : List Bool) (count j : Nat)
    (h : ∀ j, bits.getD j false = true → j < count) :
    (bits.take count).getD j false = bits.getD j false := by
  rw [Bool.eq_iff_iff, getD_eq_true_iff, getD_eq_true_iff, List.getElem?_take]
  by_cases hj : j < count
  · rw [if_pos hj]
  · rw [if_neg hj]
    refine iff_of_false (Ne.symm (Option.some_ne_none true)) fun hset => ?_
    exact hj (h j (getD_eq_true_iff.mpr hset))

/-- Packing is setting bits in a buffer of zeros, with the same fault if one of them
    is beyond it. -/
theorem pack_eq_setBits (count : Nat) (bits : List Bool) :
    pack count bits = setBits (Bytes.zeros count) 0 bits := by
  rw [pack]
  by_cases hbeyond : (bits.drop (8 * count)).any id = true
  · obtain ⟨j, hle, hset⟩ := (any_drop_iff bits _).mp hbeyond
    have hroom : (Bytes.zeros count).length ≤ (0 + j) / 8 := by
      rw [Bytes.length_zeros]
      omega
    rw [if_pos hbeyond, setBits_beyond _ 0 bits j hset hroom]
  · have hinside : ∀ j, bits.getD j false = true → j < 8 * count := by
      intro j hset
      by_contra hge
      exact hbeyond ((any_drop_iff bits _).mpr ⟨j, Nat.le_of_not_lt hge, hset⟩)
    obtain ⟨out, hout⟩ := setBits_fits (Bytes.zeros count) 0 bits fun j hset => by
      have hlt := hinside j hset
      rw [Bytes.length_zeros]
      omega
    obtain ⟨hlength, hplaces⟩ := place_setBits hout
    rw [if_neg hbeyond, hout, ← fill_take, Except.ok.injEq,
      fill_eq_iff _ _ _ (List.length_take_le _ _)]
    refine ⟨by rw [hlength, Bytes.length_zeros], fun j => ?_⟩
    rw [hplaces, place_zeros, Bool.false_or, decide_eq_true (Nat.zero_le j), Bool.true_and,
      Nat.sub_zero, getD_take bits _ j hinside]

/-- Bits for which there is room are packed. -/
theorem setBits_zeros (count : Nat) (bits : List Bool) (h : bits.length ≤ 8 * count) :
    setBits (Bytes.zeros count) 0 bits = .ok (fill count bits) := by
  rw [← pack_eq_setBits, pack, List.drop_of_length_le h]
  rfl

/-! ### The delimiter -/

/-- A row with the delimiter behind it, bit by bit. -/
theorem getD_delimited (bits : List Bool) (j : Nat) :
    (bits ++ [true]).getD j false = (bits.getD j false || decide (bits.length = j)) := by
  rcases Nat.lt_trichotomy bits.length j with hlt | rfl | hgt
  · rw [List.getD_eq_default _ _ (by rw [List.length_append, List.length_singleton]; omega),
      List.getD_eq_default _ _ (Nat.le_of_lt hlt), decide_eq_false (Nat.ne_of_lt hlt)]
    rfl
  · rw [List.getD_append_right _ _ _ _ (Nat.le_refl _), Nat.sub_self, decide_eq_true rfl,
      Bool.or_true]
    rfl
  · rw [List.getD_append _ _ _ _ hgt, decide_eq_false (Nat.ne_of_gt hgt), Bool.or_false]

theorem length_delimited_le {bits : List Bool} {count : Nat} (h : bits.length < 8 * count) :
    (bits ++ [true]).length ≤ 8 * count := by
  rw [List.length_append, List.length_singleton]
  omega

/-- The delimiter is one more bit that is set. -/
theorem setBit_fill (count : Nat) (bits : List Bool) (h : bits.length < 8 * count) :
    setBit (fill count bits) bits.length = .ok (fill count (bits ++ [true])) := by
  have hroom : bits.length / 8 < (fill count bits).length := by
    rw [length_fill]
    omega
  have hset := setBit_of_lt hroom
  obtain ⟨hlength, hplaces⟩ := place_setBit hset
  rw [hset, Except.ok.injEq, eq_comm, fill_eq_iff _ _ _ (length_delimited_le h)]
  refine ⟨by rw [hlength, length_fill], fun j => ?_⟩
  rw [hplaces, place_fill count bits j (Nat.le_of_lt h), getD_delimited]

theorem clearBit_fill (count : Nat) (bits : List Bool) (h : bits.length < 8 * count) :
    clearBit (fill count (bits ++ [true])) bits.length = fill count bits := by
  rw [eq_comm, fill_eq_iff _ _ _ (Nat.le_of_lt h)]
  refine ⟨by rw [clearBit, List.length_modify, length_fill], fun j => ?_⟩
  rw [place_clearBit _ _ _ (by rw [length_fill]; omega),
    place_fill _ _ _ (length_delimited_le h), getD_delimited]
  -- The place of the delimiter was not set, and no other place is touched.
  by_cases hj : bits.length = j
  · rw [decide_eq_true hj, List.getD_eq_default _ _ (by omega)]
    rfl
  · rw [decide_eq_false hj, Bool.or_false, Bool.not_false, Bool.and_true]

theorem dropLast_fill (count : Nat) (bits : List Bool) :
    (fill (count + 1) bits).dropLast = fill count bits := by
  induction count generalizing bits with
  | zero => rfl
  | succ count ih =>
      have hne : fill (count + 1) (bits.drop 8) ≠ [] := List.cons_ne_nil _ _
      rw [fill, List.dropLast_cons_of_ne_nil hne, ih, ← fill]

/-- A bit list without its delimiter is its bits, packed into no more bytes than they
    need. -/
theorem undelimited_fill (bits : List Bool) :
    undelimited bits.length (fill (bits.length / 8 + 1) (bits ++ [true]))
      = fill ((bits.length + 7) / 8) bits := by
  rw [undelimited, clearBit_fill _ bits (by omega)]
  by_cases hwhole : bits.length % 8 = 0
  · have hcount : (bits.length + 7) / 8 = bits.length / 8 := by omega
    rw [if_pos hwhole, dropLast_fill, hcount]
  · have hcount : (bits.length + 7) / 8 = bits.length / 8 + 1 := by omega
    rw [if_neg hwhole, hcount]

end Bits

namespace Schema

open Outcome Bits

/-- A bit list is encoded in a buffer with room for one bit more, which is set behind
    all others. -/
theorem encode_bitlist_eq_setBits (name : String) (limit : Nat) (bits : List Bool) :
    (bitlist name limit).encode (.bits bits)
      = setBits (Bytes.zeros (bits.length / 8 + 1)) 0 bits >>= (setBit · bits.length) := by
  rw [encode, setBits_zeros _ bits (by omega), ok_bind, setBit_fill _ bits (by omega)]

end Schema

end Beacon
