import Beacon.Merkle.Chunk
import Beacon.Proofs.Merkle.PaddedTree
import Beacon.Proofs.Ssz.BitPacking

/-!
# What Stands at a Leaf

A leaf of thirty-two bytes said place by place. The byte at place `j` of leaf
`i` is the byte at place `32 * i + j` of what was packed, and it is zero where
nothing was; bits come to bytes in the same way, bit `8 * k + j` weighing
`2 ^ j` in byte `k`.

Packing cuts pieces off a list one after the other, and so it does twice, bytes
into chunks and bits into bytes. Reading a place of a list that was made that
way is the same argument both times (`getD_pieces`).

## Main definitions

* `leafAt`: The chunk at a leaf, by the byte at each place.
* `bitByte`: The byte at a place of packed bits.

## Theorems

* `getD_ofBytes`: The leaves of packed bytes.
* `getD_ofBits`: The leaves of packed bits, which hold no delimiter.
-/

namespace Beacon

namespace Chunk

open Merkle

/-- The chunk at a leaf, `byte` telling the byte at each place of what was
    packed. -/
def leafAt (byte : Nat → UInt8) (i : Nat) : Bytes :=
  (List.range size).map fun j => byte (size * i + j)

/-- The byte at a place of packed bits, zeros standing behind them. -/
def bitByte (bs : List Bool) (k : Nat) : UInt8 :=
  UInt8.ofNat ((List.range 8).map fun j => if bs.getD (8 * k + j) false then 2 ^ j else 0).sum

/-- A place in a list of pieces that are cut off one after the other, if there
    are pieces enough for all of what is cut. -/
theorem getD_pieces {α β : Type} (width : Nat) (make : List α → β)
    (pieces : Nat → List α → List β) (hnone : ∀ xs, pieces 0 xs = [])
    (hsome : ∀ count xs,
      pieces (count + 1) xs = make (xs.take width) :: pieces count (xs.drop width))
    (count : Nat) (xs : List α) (i : Nat) (h : xs.length ≤ width * count) :
    (pieces count xs).getD i (make []) = make ((xs.drop (width * i)).take width) := by
  induction count generalizing xs i with
  | zero =>
      rw [List.eq_nil_of_length_eq_zero (Nat.le_zero.mp h), hnone, List.getD_nil, List.drop_nil,
        List.take_nil]
  | succ count ih =>
      rw [hsome]
      cases i with
      | zero => rw [List.getD_cons_zero, Nat.mul_zero, List.drop_zero]
      | succ i =>
          have hrest : (xs.drop width).length ≤ width * count := by
            rw [List.length_drop]
            rw [Nat.mul_succ] at h
            omega
          rw [List.getD_cons_succ, ih _ i hrest, List.drop_drop, Nat.mul_succ,
            Nat.add_comm width]

/-- The leaves of packed bytes. -/
theorem getD_ofBytes (data : Bytes) (i : Nat) :
    (ofBytes data).getD i zero = leafAt (fun k => data.getD k 0) i := by
  have hroom : data.length ≤ size * needed data.length size := by
    rw [needed, size]
    omega
  -- The last piece is filled up, and the other pieces are filled up with nothing.
  have hpieces := getD_pieces size (fun piece => piece ++ Bytes.zeros (size - piece.length)) split
    (fun _ => rfl) (fun _ _ => rfl) (needed data.length size) data i hroom
  have hpiece : ((data.drop (size * i)).take size).length ≤ size := List.length_take_le _ _
  have hzero : zero = [] ++ Bytes.zeros (size - ([] : Bytes).length) := rfl
  rw [ofBytes, hzero, hpieces, Bytes.zeros, ← map_range_getD 0 size _ hpiece, leafAt]
  refine List.map_congr_left ?_
  intro j hj
  rw [List.getD_eq_getElem?_getD, List.getElem?_take_of_lt (List.mem_range.mp hj),
    List.getElem?_drop, ← List.getD_eq_getElem?_getD]

/-- The first bits spell the sum of the weights of the places where they are
    set. -/
theorem value_take (width : Nat) (bs : List Bool) :
    Bits.value (bs.take width)
      = ((List.range width).map fun j => if bs.getD j false then 2 ^ j else 0).sum := by
  induction width with
  | zero => rfl
  | succ width ih =>
      rw [List.range_succ, List.map_append, List.sum_append, ← ih, List.take_add_one,
        Bits.value_append, List.map_singleton, List.sum_singleton, List.getD_eq_getElem?_getD]
      -- Behind the last bit nothing more is taken and nothing more is weighed.
      rcases hbit : bs[width]? with _ | b
      · rfl
      · have hlt : width < bs.length := (List.getElem?_eq_some_iff.mp hbit).1
        have hlen : (bs.take width).length = width := List.length_take_of_le (Nat.le_of_lt hlt)
        rw [hlen]
        cases b with
        | true =>
            have hone : Bits.value [true] = 1 := rfl
            rw [Option.toList_some, hone, Nat.mul_one, Option.getD_some, if_pos rfl]
        | false => rfl

/-- The bytes of packed bits. -/
theorem getD_fill (count : Nat) (bs : List Bool) (k : Nat) (h : bs.length ≤ 8 * count) :
    (Bits.fill count bs).getD k 0 = bitByte bs k := by
  have hpieces := getD_pieces 8 Bits.toByte Bits.fill (fun _ => rfl) (fun _ _ => rfl) count bs k h
  have hzero : (0 : UInt8) = Bits.toByte [] := rfl
  rw [hzero, hpieces, Bits.toByte, value_take, bitByte]
  refine congrArg (fun places => UInt8.ofNat (List.sum places)) (List.map_congr_left ?_)
  intro j _
  rw [List.getD_eq_getElem?_getD, List.getElem?_drop, ← List.getD_eq_getElem?_getD]

/-- The leaves of packed bits. There is nothing at a place behind the last bit,
    a delimiter as little as anything else. -/
theorem getD_ofBits (bs : List Bool) (i : Nat) :
    (ofBits bs).getD i zero = leafAt (bitByte bs) i := by
  have hroom : bs.length ≤ 8 * needed bs.length 8 := by
    rw [needed]
    omega
  rw [ofBits, getD_ofBytes, leafAt, leafAt]
  refine List.map_congr_left ?_
  intro j _
  exact getD_fill _ bs _ hroom

/-- Bits need as many chunks as the bytes that they fill. -/
theorem length_ofBits (bs : List Bool) : (ofBits bs).length = needed bs.length bits := by
  rw [ofBits, length_ofBytes, Bits.length_fill, needed, needed, needed, size, bits]
  omega

theorem needed_mono {units more : Nat} (perChunk : Nat) (h : units ≤ more) :
    needed units perChunk ≤ needed more perChunk :=
  Nat.div_le_div_right (by omega)

end Chunk

end Beacon
