import Beacon.Merkle.Root
import Beacon.Proofs.Merkle.Leaves
import Beacon.Proofs.Ssz.BitBuffer

/-!
# The Leaves of Bits Are Their Encoding

A root is to commit to what is transmitted. For bits the two are made apart: the
leaves of a tree come from a buffer that the hashing fills, and the encoding from one
that the type fills, each with its own size and its own rounding. This module says
that the bits in both are the same.

The leaves of a bit vector are its encoding, cut into chunks. The leaves of a bit list
are its encoding with one bit of it gone, the delimiter: a list commits to its length
by mixing it in, and does not need the delimiter for that. If the bits fill all bytes
before the delimiter, then the delimiter's byte is gone with it. It would make a chunk
of its own if those bytes fill all chunks.

## Main definitions

* `Chunk.cut`: Bytes cut into chunks, the last of them filled up with zeros.

## Theorems

* `Chunk.ofBytes_eq_cut`: Packing bytes is cutting them.
* `Chunk.ofBits_eq_setBits`: Packing bits is setting them in a buffer and packing it.
* `Schema.leaves_of_bits`: The leaves of bits are cut from their encoding.
-/

namespace Beacon

namespace Chunk

open Bits

/-- Bytes cut into chunks: zeros follow up to a whole number of chunks, and chunk `i`
    begins at byte `32 * i`. -/
def cut (data : Bytes) : List Bytes :=
  let count := needed data.length size
  let padded := data ++ Bytes.zeros (size * count - data.length)
  (List.range count).map fun i => (padded.drop (size * i)).take size

/-- The first chunk, and what is left of the zeros behind the others. -/
theorem split_eq_cut (count : Nat) (data : Bytes) (h : data.length ≤ size * count) :
    split count data
      = (List.range count).map fun i =>
        ((data ++ Bytes.zeros (size * count - data.length)).drop (size * i)).take size := by
  induction count generalizing data with
  | zero => rfl
  | succ count ih =>
      have hrest : (data.drop size).length ≤ size * count := by
        rw [List.length_drop, Nat.mul_succ] at *
        omega
      have hfirst : (data ++ Bytes.zeros (size * (count + 1) - data.length)).take size
          = data.take size ++ Bytes.zeros (size - (data.take size).length) := by
        rw [List.take_append, Bytes.zeros, List.take_replicate, List.length_take, Bytes.zeros]
        congr 2
        rw [Nat.mul_succ]
        omega
      have hdrop : (data ++ Bytes.zeros (size * (count + 1) - data.length)).drop size
          = data.drop size ++ Bytes.zeros (size * count - (data.drop size).length) := by
        rw [List.drop_append, Bytes.zeros, List.drop_replicate, List.length_drop, Bytes.zeros]
        congr 2
        rw [Nat.mul_succ] at *
        omega
      rw [split, ih _ hrest, List.range_succ_eq_map, List.map_cons, List.map_map, Nat.mul_zero,
        List.drop_zero, hfirst]
      congr 1
      refine List.map_congr_left fun i _ => ?_
      have hnext : size * i.succ = size + size * i := by rw [Nat.mul_succ, Nat.add_comm]
      rw [Function.comp_apply, ← hdrop, List.drop_drop, hnext]

/-- Packing bytes is cutting them. -/
theorem ofBytes_eq_cut (data : Bytes) : ofBytes data = cut data := by
  refine split_eq_cut _ data ?_
  rw [needed, size]
  omega

/-- Packing bits is setting them one after the other in a buffer with as many bytes as
    they need, and packing the buffer. -/
theorem ofBits_eq_setBits (bits : List Bool) :
    (setBits (Bytes.zeros (needed bits.length 8)) 0 bits).map ofBytes = .ok (ofBits bits) := by
  have hroom : bits.length ≤ 8 * needed bits.length 8 := by
    rw [needed]
    omega
  rw [setBits_zeros _ bits hroom, ofBits]
  rfl

end Chunk

namespace Schema

open Bits

/-- The encoding of a bit list has the delimiter behind the bits, and without it the
    leaves are cut from it. -/
theorem ofBits_eq_cut_undelimited (bits : List Bool) :
    Chunk.ofBits bits
      = Chunk.cut (undelimited bits.length (fill (bits.length / 8 + 1) (bits ++ [true]))) := by
  rw [undelimited_fill, ← Chunk.ofBytes_eq_cut]
  rfl

theorem place_delimited (bits : List Bool) :
    place (fill (bits.length / 8 + 1) (bits ++ [true])) bits.length = true := by
  rw [place_fill _ _ _ (length_delimited_le (by omega)), getD_delimited, decide_eq_true rfl,
    Bool.or_true]

/-- Bits are packed alike for hashing and for encoding, each time by setting them one
    after the other in a buffer: as many bytes as groups of eight bits are needed in one
    case, the length divided by eight and rounded up in the next, and a byte with room for
    the delimiter, which is then set as well, for a bit list.

    So the leaves that are hashed for a bit vector are its encoding, cut into chunks with
    zeros behind. The leaves that are hashed for a bit list are its encoding cut likewise,
    with the one bit cleared that is the delimiter, and without the delimiter's byte if it
    had that for itself. -/
theorem leaves_of_bits (name : String) (limit : Nat) (bits : List Bool) :
    (setBits (Bytes.zeros (Chunk.needed bits.length 8)) 0 bits).map Chunk.ofBytes
        = .ok (Chunk.ofBits bits) ∧
      setBits (Bytes.zeros ((bits.length + 7) / 8)) 0 bits = pack ((bits.length + 7) / 8) bits ∧
      setBits (Bytes.zeros (bits.length / 8 + 1)) 0 bits >>= (setBit · bits.length)
        = (bitlist name limit).encode (.bits bits) ∧
      ∃ packed delimited,
        pack ((bits.length + 7) / 8) bits = .ok packed ∧
        Chunk.ofBits bits = Chunk.ofBytes packed ∧
        (bitvector name bits.length).encode (.bits bits) = .ok packed ∧
        Chunk.ofBits bits = Chunk.cut packed ∧
        (bitvector name bits.length).root (.bits bits)
          = Merkle.root (Chunk.cut packed) (some (Chunk.needed bits.length Chunk.bits)) ∧
        (bitlist name limit).encode (.bits bits) = .ok delimited ∧
        place delimited bits.length = true ∧
        Chunk.ofBits bits = Chunk.cut (undelimited bits.length delimited) ∧
        (bitlist name limit).root (.bits bits) = (do
          let contents ← Merkle.root (Chunk.cut (undelimited bits.length delimited))
            (some (Chunk.needed limit Chunk.bits))
          Merkle.mixInLength contents bits.length) := by
  have hpack : pack ((bits.length + 7) / 8) bits = .ok (fill ((bits.length + 7) / 8) bits) := by
    rw [pack_eq_setBits, setBits_zeros _ bits (by omega)]
  have hleaves : Chunk.ofBits bits = Chunk.ofBytes (fill ((bits.length + 7) / 8) bits) := rfl
  have hvector := hleaves.trans (Chunk.ofBytes_eq_cut _)
  have hlist := ofBits_eq_cut_undelimited bits
  refine ⟨Chunk.ofBits_eq_setBits bits, (pack_eq_setBits _ bits).symm,
    (encode_bitlist_eq_setBits name limit bits).symm, _, _, hpack, hleaves, ?_, hvector, ?_, rfl,
    place_delimited bits, hlist, ?_⟩
  · rw [encode, hpack]
  · rw [root, hvector]
  · rw [root, hlist]

/-- Eight bits fill their byte, so that the delimiter has one for itself. -/
example : Chunk.ofBits (List.replicate 8 true) = [255 :: Bytes.zeros 31] ∧
    (bitlist "Row" 8).encode (.bits (List.replicate 8 true)) = .ok [255, 1] := by decide

end Schema

end Beacon
