import Beacon.Ssz.Fault

/-!
# The Offset Layout

How the members of a composite value share one byte string. First comes a
fixed part with a place for every member in order: a member of fixed size
stands there itself, and a member of variable size leaves a four-byte offset
instead. The bytes of the variable members follow, in the same order, each
offset saying where its member's bytes start.

Going back, the fixed part is cut by the known sizes, the offsets are read
from it, and each variable member runs from its offset to the next one, the
last to the end.

## Main definitions

* `Layout.Part`: The encoding of a member, and whether it is of fixed size.
* `Layout.encode`: Lays parts out.
* `Layout.splitFixed`: Cuts the fixed part.
* `Layout.fixedPart`: The same, and where the fixed part ends.
* `Layout.sliceVariable`: Cuts the variable part at its offsets.
* `Layout.splitUniform`: Cuts bytes into elements of one size.
-/

namespace Beacon

namespace Layout

/-- The width of an offset. -/
def offsetSize : Nat := 4

/-- The encoding of a member. -/
structure Part where
  /-- Whether the member is of fixed size. -/
  fixed : Bool
  /-- The member's bytes. -/
  bytes : Bytes
  deriving DecidableEq, Repr

/-- The room a part takes in the fixed part. -/
def Part.headSize (p : Part) : Nat := if p.fixed then p.bytes.length else offsetSize

/-- The bytes a part leaves to the variable part. -/
def Part.tail (p : Part) : Bytes := if p.fixed then [] else p.bytes

/-- An offset in four bytes. -/
def encodeOffset (offset : Int) : Except Fault Bytes :=
  match offset with
  | .ofNat n =>
    if n < Nat.pow 256 offsetSize then .ok (Bytes.ofNat offsetSize n) else .error .tooWide
  | .negSucc _ => .error .negative

/-- The offset that bytes spell. -/
def decodeOffset (bs : Bytes) : Nat := Bytes.toNat bs

/-- The fixed part of the members, the next variable member starting at
    `start`. -/
def heads (start : Nat) : List Part → Except Fault Bytes
  | [] => .ok []
  | p :: rest =>
    if p.fixed then (heads start rest).map (p.bytes ++ ·)
    else do
      let offset ← encodeOffset (Int.ofNat start)
      let rest ← heads (start + p.bytes.length) rest
      pure (offset ++ rest)

/-- The size of pieces of the given sizes together. -/
def total : List Nat → Nat
  | [] => 0
  | size :: sizes => size + total sizes

/-- Lays members out in order. -/
def encode (parts : List Part) : Except Fault Bytes :=
  (heads (total (parts.map Part.headSize)) parts).map (· ++ parts.flatMap Part.tail)

/-- Cuts pieces of the given sizes from the front. -/
def splitFixed (type : String) : List Nat → Bytes → Except Fault (List Bytes)
  | [], _ => .ok []
  | size :: sizes, data =>
    let piece := data.take size
    if piece.length = size then
      (splitFixed type sizes (data.drop size)).map (piece :: ·)
    else .error (.cause (.decode type (.truncated size piece.length)))

/-- Cuts pieces of the given sizes from the front, and says where they end. -/
def fixedPart (type : String) (sizes : List Nat) (data : Bytes) :
    Except Fault (List Bytes × Nat) :=
  (splitFixed type sizes data).map fun pieces => (pieces, total sizes)

/-- Cuts the members that start at the given offsets, `length` being the length
    of `data`. Each runs to the next offset, and the last to the end. -/
def slices (type : String) (data : Bytes) (length fixedEnd : Nat) :
    List (String × Nat) → Except Fault (List Bytes)
  | [] => .ok []
  | (field, start) :: rest =>
    let stop := match rest with
      | [] => length
      | (_, next) :: _ => next
    if fixedEnd ≤ start ∧ start ≤ stop ∧ stop ≤ length then
      (slices type data length fixedEnd rest).map ((data.drop start).take (stop - start) :: ·)
    else .error (.cause (.decode type (.offsets field start stop)))

/-- Cuts the variable part at its offsets. -/
def sliceVariable (type : String) (data : Bytes) (fixedEnd : Nat)
    (offsets : List (String × Nat)) : Except Fault (List Bytes) :=
  slices type data data.length fixedEnd offsets

/-- The first `count` pieces of `size` bytes. -/
def pieces (size : Nat) : (count : Nat) → Bytes → List Bytes
  | 0, _ => []
  | count + 1, data => data.take size :: pieces size count (data.drop size)

/-- Cuts bytes into elements of one size. -/
def splitUniform (type : String) (data : Bytes) (size : Nat) : Except Fault (List Bytes) :=
  if size = 0 then .error .sizelessElement
  else if data.length % size = 0 then .ok (pieces size (data.length / size) data)
  else .error (.cause (.decode type (.indivisible data.length size)))

end Layout

end Beacon
