import Beacon.Ssz.Bits

/-!
# Chunks

The leaves of a Merkle tree are chunks of thirty-two bytes. Bytes are packed
into chunks in order and the last one is filled up with zeros; bits are packed
into bytes first, without the delimiter that a bit list carries in its
encoding.

The count of chunks is a division rounded up. It is defined for any integers,
because the counting function is offered by itself, and `Chunk.count_ofNat`
says that on the sizes of values it is the count that the trees use.

## Main definitions

* `Chunk.needed`: The chunks needed for a number of units.
* `Chunk.count`: The same on integers, where the units of a chunk may be zero.
* `Chunk.ofBytes`, `Chunk.ofBits`: Bytes and bits packed into chunks.

## Theorems

* `Chunk.count_ofNat`: The two counts agree.
* `Chunk.length_ofBytes`: Packing makes as many chunks as are needed.
-/

namespace Beacon

namespace Chunk

/-- The bytes of a chunk. -/
def size : Nat := 32

/-- The bits of a chunk. -/
def bits : Nat := 256

/-- The chunk of zeros. -/
def zero : Bytes := Bytes.zeros size

/-- The chunks needed for a number of units, `perChunk` of them going into one. -/
def needed (units perChunk : Nat) : Nat := (units + perChunk - 1) / perChunk

/-- The chunks needed for a number of units, rounding up, for any integers.
    There is no count when a chunk holds no units. -/
def count (units perChunk : Int) : Option Int :=
  if perChunk = 0 then none else some (-((-units).fdiv perChunk))

/-- The first `count` chunks of a byte string, zeros following its end. -/
def split : (count : Nat) → Bytes → List Bytes
  | 0, _ => []
  | count + 1, data =>
    let piece := data.take size
    (piece ++ Bytes.zeros (size - piece.length)) :: split count (data.drop size)

/-- Bytes packed into chunks. -/
def ofBytes (data : Bytes) : List Bytes := split (needed data.length size) data

/-- Bits packed into chunks. -/
def ofBits (bs : List Bool) : List Bytes := ofBytes (Bits.fill (needed bs.length 8) bs)

@[simp] theorem length_split (count : Nat) (data : Bytes) : (split count data).length = count := by
  induction count generalizing data with
  | zero => rfl
  | succ count ih => simp [split, ih]

/-- Packing makes as many chunks as are needed. -/
theorem length_ofBytes (data : Bytes) : (ofBytes data).length = needed data.length size :=
  length_split _ _

/-- On sizes the two counts agree. -/
theorem count_ofNat (units perChunk : Nat) (h : 0 < perChunk) :
    count units perChunk = some (needed units perChunk : Int) := by
  have hne : (perChunk : Int) ≠ 0 := by omega
  have hdiv : (-(units : Int)).fdiv perChunk
      = -(((units + perChunk - 1) / perChunk : Nat) : Int) := by
    rw [Int.fdiv_eq_ediv_of_nonneg _ (by omega)]
    have hle := Nat.div_mul_le_self (units + perChunk - 1) perChunk
    have hlt := Nat.lt_div_mul_add h (a := units + perChunk - 1)
    generalize (units + perChunk - 1) / perChunk = q at hle hlt ⊢
    refine Int.ediv_eq_iff_of_pos (by omega) |>.2 ?_
    have hmul : ((q * perChunk : Nat) : Int) = (q : Int) * perChunk := by simp
    constructor
    · rw [Int.neg_mul]; omega
    · rw [Int.neg_mul]; omega
  simp only [count, hne, if_false, hdiv, needed, Int.neg_neg]

end Chunk

end Beacon
