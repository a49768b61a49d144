import Beacon.Merkle.Chunk
import Beacon.Merkle.Sha256
import Beacon.Ssz.Fault

/-!
# Merkle Trees

The root of a binary tree whose leaves are chunks, filled up with zero chunks
to the width that the limit of the chunks asks for.

The zero leaves are never built. Going up a level, neighbours are hashed in
pairs, and a last node without a neighbour is hashed with the root of the zero
subtree of that level. The roots of the zero subtrees are kept for every level
up to `maxDepth`. A tree can be asked for that is deeper, and then there is a
root only as long as no zero subtree below the kept ones is needed.

## Main definitions

* `RootFault`: Why there is no root.
* `Merkle.hashPair`: The node above two nodes.
* `Merkle.zeroHash`, `Merkle.zeroHashes`: The root of a zero subtree, and the
  roots that are kept.
* `Merkle.depthFor`, `Merkle.nextPowerOfTwo`: The depth and the width of the
  narrowest tree with room for a number of leaves.
* `Merkle.root`: The root of chunks under a limit.
* `Merkle.mixInLength`: The root of a list from the root of its contents.

## Theorems

* `Merkle.getElem_zeroHashes`: The kept roots are the roots of zero subtrees.
-/

namespace Beacon

/-- Why there is no root. -/
inductive RootFault
  /-- There are more chunks than the tree is limited to. -/
  | tooMany (chunks : Nat) (limit : Int)
  /-- A zero subtree is needed that is deeper than those that are kept. -/
  | tooDeep
  /-- A length is below zero. -/
  | negativeLength
  /-- A length does not fit in a chunk. -/
  | lengthTooWide
  /-- Chunks that hold no units cannot be counted. -/
  | noUnits
  /-- A value of this type is not a value of an SSZ type. -/
  | untyped (given : String)
  /-- A part of the value has no encoding. -/
  | encoding (fault : Fault)
  deriving DecidableEq, Repr

/-- The text of a fault. -/
def RootFault.message : RootFault → Text
  | .tooMany chunks limit =>
    s!"merkleize: {chunks} chunks exceed limit {Decimal.signed limit}"
  | .tooDeep => "tuple index out of range"
  | .negativeLength => "length must be non-negative"
  | .lengthTooWide => "int too big to convert"
  | .noUnits => "integer division or modulo by zero"
  | .untyped given => s!"hash_tree_root: unsupported value type {given}"
  | .encoding fault => fault.message

namespace Merkle

/-- The deepest tree whose zero subtrees are kept. -/
def maxDepth : Nat := 64

/-- The node above two nodes. -/
def hashPair (left right : Bytes) : Bytes := Sha256.digest (left ++ right)

/-- The root of the tree of a depth with nothing but zero leaves. -/
def zeroHash : (depth : Nat) → Bytes
  | 0 => Chunk.zero
  | depth + 1 => hashPair (zeroHash depth) (zeroHash depth)

/-- A root and the `count` roots above it, each made of two of the one before. -/
def doublings : (count : Nat) → Bytes → List Bytes
  | 0, root => [root]
  | count + 1, root => root :: doublings count (hashPair root root)

/-- The roots of the zero subtrees of every depth up to `maxDepth`. -/
def zeroHashes : List Bytes := doublings maxDepth Chunk.zero

/-- The kept root at a place, negative places counting from the deepest one. -/
def zeroHashAt (place : Int) : Except RootFault Bytes :=
  match place with
  | .ofNat n => (zeroHashes[n]?).elim (.error .tooDeep) .ok
  | .negSucc n => (zeroHashes.reverse[n]?).elim (.error .tooDeep) .ok

/-- The depth of the narrowest tree with room for `n` leaves. -/
def depthFor (n : Nat) : Nat := if n ≤ 1 then 0 else (n - 1).log2 + 1

/-- The width of the narrowest tree with room for a number of leaves. It is
    never below one. -/
def nextPowerOfTwo (n : Int) : Nat := Nat.pow 2 (depthFor n.toNat)

/-- The nodes above a level. The last one of an odd number is hashed with
    `filler`. -/
def pairUp (filler : Bytes) : List Bytes → List Bytes
  | left :: right :: rest => hashPair left right :: pairUp filler rest
  | [left] => [hashPair left filler]
  | [] => []

/-- The nodes `count` levels above a level. -/
def climb (level : Nat) : (count : Nat) → List Bytes → Except RootFault (List Bytes)
  | 0, nodes => .ok nodes
  | count + 1, nodes =>
    if nodes.length % 2 = 0 then climb (level + 1) count (pairUp Chunk.zero nodes)
    else match zeroHashes[level]? with
      | some filler => climb (level + 1) count (pairUp filler nodes)
      | none => .error .tooDeep

/-- The root of chunks in a tree of a depth that has room for them. -/
def rootOfDepth (depth : Nat) (chunks : List Bytes) : Except RootFault Bytes :=
  if chunks.isEmpty then (zeroHashes[depth]?).elim (.error .tooDeep) .ok
  else (climb 0 depth chunks).map fun nodes => nodes.headD Chunk.zero

/-- The root of chunks in a tree with room for `limit` chunks, or for just the
    chunks there are if no limit is given. -/
def root (chunks : List Bytes) (limit : Option Int) : Except RootFault Bytes :=
  match limit with
  | none => rootOfDepth (depthFor chunks.length) chunks
  | some limit =>
    if limit < chunks.length then .error (.tooMany chunks.length limit)
    else rootOfDepth (depthFor limit.toNat) chunks

/-- The root of a list from the root of its contents and its length. -/
def mixInLength (root : Bytes) (length : Int) : Except RootFault Bytes :=
  match length with
  | .negSucc _ => .error .negativeLength
  | .ofNat n =>
    if n < Nat.pow 256 Chunk.size then .ok (hashPair root (Bytes.ofNat Chunk.size n))
    else .error .lengthTooWide

@[simp] theorem length_hashPair (left right : Bytes) : (hashPair left right).length = 32 := rfl

@[simp] theorem length_zeroHash (depth : Nat) : (zeroHash depth).length = 32 := by
  cases depth <;> simp [zeroHash, Chunk.zero, Chunk.size]

/-- Doubling the root of a zero subtree gives the roots of the deeper ones. -/
theorem getElem_doublings (count depth n : Nat) (h : n ≤ count) :
    (doublings count (zeroHash depth))[n]? = some (zeroHash (depth + n)) := by
  induction count generalizing depth n with
  | zero =>
    obtain rfl : n = 0 := by omega
    rfl
  | succ count ih =>
    cases n with
    | zero => rfl
    | succ n =>
      have step : hashPair (zeroHash depth) (zeroHash depth) = zeroHash (depth + 1) := rfl
      rw [doublings, List.getElem?_cons_succ, step, ih (depth + 1) n (by omega)]
      congr 2
      omega

/-- The kept roots are the roots of zero subtrees. -/
theorem getElem_zeroHashes (n : Nat) (h : n ≤ maxDepth) : zeroHashes[n]? = some (zeroHash n) := by
  have := getElem_doublings maxDepth 0 n h
  rwa [Nat.zero_add] at this

end Merkle

end Beacon
