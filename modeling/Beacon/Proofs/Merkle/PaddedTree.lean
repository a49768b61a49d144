import Beacon.Merkle.Tree
import Mathlib.Algebra.Ring.Nat
import Mathlib.Data.List.GetD
import Mathlib.Data.Nat.Log

/-!
# Trees with All Their Leaves

The tree that a root is meant to be the root of, with nothing left out.

A tree with room for some chunks has as many leaves as the next power of two,
and here every one of them is there: the chunks come first and zero chunks fill
the rest. Going up, each level is hashed in neighbouring pairs until one node
is left. Such a tree is given by what stands at each of its leaves, so a list
of chunks and the bytes that were packed into it are the same tree as soon as
they agree leaf by leaf.

The program builds no zero leaf and no node of a zero subtree. What carries its
roots over to the full tree is that the nodes of a level, with roots of zero
subtrees following them up to the full width, are hashed to the nodes of the
next level with roots of zero subtrees following them (`above_padded`). The
filler that is borrowed for a node without a neighbour is just the first of the
roots that follow (`neighbours_padded`). One level at a time this leads up to the root
(`climb_eq_fold`), and it needs a kept zero root only on a level where nodes
are odd in number, which never lies above the kept ones if the tree has room
for `2 ^ maxDepth` chunks at most.

## Main definitions

* `neighbours`: The pairs of nodes that are hashed on a full level.
* `pairsUp`: The pairs of nodes that are hashed on a level as it is built.
* `above`: The level above a full level.
* `fold`: The node that is left after some levels.
* `fullRoot`: The root of the full tree with room for some chunks.

## Theorems

* `depthFor_eq_clog`: The depth of a tree is the rounded-up logarithm.
* `neighbours_padded`: The pairs on a full level are the pairs on the level as
  it is built, and pairs of zero subtrees.
* `above_padded`: Zero subtrees beside a level are zero subtrees above it.
* `climb_eq_fold`: Climbing gives the root of the full tree.
* `root_eq_fullRoot`, `root_eq_fullRoot_of_length`: The root of chunks is the
  root of the full tree, under a limit and without one.
-/

namespace Beacon

namespace Merkle

/-- The pairs of neighbouring nodes on a level with an even number of them. -/
def neighbours : List Bytes → List (Bytes × Bytes)
  | left :: right :: rest => (left, right) :: neighbours rest
  | _ => []

/-- The pairs that are hashed to the nodes above a level, the last node of an
    odd number paired with `filler`. -/
def pairsUp (filler : Bytes) : List Bytes → List (Bytes × Bytes)
  | left :: right :: rest => (left, right) :: pairsUp filler rest
  | [left] => [(left, filler)]
  | [] => []

/-- The level above a full level. -/
def above (nodes : List Bytes) : List Bytes :=
  (neighbours nodes).map fun pair => hashPair pair.1 pair.2

/-- The node that is left when full levels are hashed `count` times. -/
def fold : (count : Nat) → List Bytes → Bytes
  | 0, nodes => nodes.headD Chunk.zero
  | count + 1, nodes => fold count (above nodes)

/-- The leaves of a tree with room for `room` chunks, all of them. -/
def fullLeaves (room : Nat) (leaf : Nat → Bytes) : List Bytes :=
  (List.range (2 ^ Nat.clog 2 room)).map leaf

/-- The root of the full tree with room for `room` chunks, by what stands at
    each of its leaves. -/
def fullRoot (room : Nat) (leaf : Nat → Bytes) : Bytes :=
  fold (Nat.clog 2 room) (fullLeaves room leaf)

theorem depthFor_eq_clog (n : Nat) : depthFor n = Nat.clog 2 n := by
  rw [depthFor]
  by_cases h : n ≤ 1
  · rw [if_pos h, Nat.clog_of_right_le_one h]
  · have hne : n - 1 ≠ 0 := by omega
    have hle : 2 ^ (n - 1).log2 ≤ n - 1 := Nat.log2_self_le hne
    have hlt : n - 1 < 2 ^ ((n - 1).log2 + 1) := Nat.lt_log2_self
    rw [if_neg h]
    -- One less than the number lies between two powers, and so the number does up to the second.
    refine Nat.le_antisymm ?_ ?_
    · exact (Nat.lt_clog_iff_pow_lt (by omega)).mpr (by omega)
    · exact (Nat.clog_le_iff_le_pow (by omega)).mpr (by omega)

/-- What is read off a list place by place, the same value standing everywhere
    behind it, is the list with that value following it. -/
theorem map_range_getD {α : Type} (filler : α) (width : Nat) (xs : List α)
    (h : xs.length ≤ width) :
    (List.range width).map (fun i => xs.getD i filler)
      = xs ++ List.replicate (width - xs.length) filler := by
  refine List.ext_getElem ?_ ?_
  · rw [List.length_map, List.length_range, List.length_append, List.length_replicate]
    omega
  · intro i hi _
    rw [List.getElem_map, List.getElem_range]
    by_cases hin : i < xs.length
    · rw [List.getElem_append_left hin, List.getD_eq_getElem xs filler hin]
    · rw [List.getElem_append_right (by omega), List.getElem_replicate,
        List.getD_eq_default xs filler (by omega)]

theorem length_pairUp (filler : Bytes) (nodes : List Bytes) :
    (pairUp filler nodes).length = (nodes.length + 1) / 2 := by
  induction nodes using pairUp.induct with
  | case1 left right rest ih =>
      rw [pairUp, List.length_cons, ih, List.length_cons, List.length_cons]
      omega
  | case2 left => rw [pairUp, List.length_singleton, List.length_singleton]
  | case3 => rfl

/-- A filler is of no use where every node has a neighbour. -/
theorem pairUp_of_even (filler other : Bytes) (nodes : List Bytes) (h : nodes.length % 2 = 0) :
    pairUp filler nodes = pairUp other nodes := by
  induction nodes using pairUp.induct with
  | case1 left right rest ih =>
      rw [List.length_cons, List.length_cons] at h
      rw [pairUp, pairUp, ih (by omega)]
  | case2 left => exact absurd h (by rw [List.length_singleton]; omega)
  | case3 => rfl

/-- The nodes above a level are the hashes of the pairs. -/
theorem map_pairsUp (filler : Bytes) (nodes : List Bytes) :
    (pairsUp filler nodes).map (fun pair => hashPair pair.1 pair.2) = pairUp filler nodes := by
  induction nodes using pairUp.induct with
  | case1 left right rest ih => rw [pairsUp, List.map_cons, ih, pairUp]
  | case2 left => rfl
  | case3 => rfl

theorem neighbours_replicate (node : Bytes) (width : Nat) :
    neighbours (List.replicate (2 * width) node) = List.replicate width (node, node) := by
  induction width with
  | zero => rfl
  | succ width ih =>
      have hdouble : 2 * (width + 1) = 2 * width + 1 + 1 := by omega
      rw [hdouble, List.replicate_succ, List.replicate_succ, neighbours, ih, List.replicate_succ]

/-- Where copies of one node follow a level, the first of them is the neighbour
    of a node without one, and the rest are each other's. -/
theorem neighbours_padded (filler : Bytes) (width : Nat) (nodes : List Bytes)
    (h : nodes.length ≤ 2 * width) :
    neighbours (nodes ++ List.replicate (2 * width - nodes.length) filler)
      = pairsUp filler nodes
        ++ List.replicate (width - (nodes.length + 1) / 2) (filler, filler) := by
  induction nodes using pairUp.induct generalizing width with
  | case1 left right rest ih =>
      rw [List.length_cons, List.length_cons] at h
      have hrest := ih (width - 1) (by omega)
      have hwidth : 2 * (width - 1) - rest.length = 2 * width - (rest.length + 1 + 1) := by omega
      have hcount : width - 1 - (rest.length + 1) / 2 = width - (rest.length + 1 + 1 + 1) / 2 := by
        omega
      rw [hwidth, hcount] at hrest
      rw [pairsUp, List.length_cons, List.length_cons, List.cons_append, List.cons_append,
        neighbours, hrest, List.cons_append]
  | case2 left =>
      rw [List.length_singleton] at h
      have hwidth : 2 * width - [left].length = 2 * (width - 1) + 1 := by
        rw [List.length_singleton]
        omega
      rw [hwidth, List.replicate_succ, List.singleton_append, neighbours, neighbours_replicate,
        List.length_singleton]
      rfl
  | case3 =>
      rw [List.nil_append, List.length_nil, Nat.sub_zero, neighbours_replicate]
      rfl

theorem length_above (nodes : List Bytes) : (above nodes).length = nodes.length / 2 := by
  rw [above, List.length_map]
  induction nodes using neighbours.induct with
  | case1 left right rest ih =>
      rw [neighbours, List.length_cons, ih, List.length_cons, List.length_cons]
      omega
  | case2 nodes hnodes =>
      rcases nodes with _ | ⟨a, _ | ⟨b, rest⟩⟩
      · rfl
      · rw [List.length_singleton]
        rfl
      · exact (hnodes a b rest rfl).elim

/-- The nodes of a level with zero subtrees following them are hashed to the
    nodes above with zero subtrees following them. -/
theorem above_padded (level width : Nat) (nodes : List Bytes) (h : nodes.length ≤ 2 * width) :
    above (nodes ++ List.replicate (2 * width - nodes.length) (zeroHash level))
      = pairUp (zeroHash level) nodes
        ++ List.replicate (width - (nodes.length + 1) / 2) (zeroHash (level + 1)) := by
  rw [above, neighbours_padded _ _ _ h, List.map_append, map_pairsUp, List.map_replicate, zeroHash]

theorem fold_zeros (count level : Nat) :
    fold count (List.replicate (2 ^ count) (zeroHash level)) = zeroHash (level + count) := by
  induction count generalizing level with
  | zero => rfl
  | succ count ih =>
      have hlevel : level + 1 + count = level + (count + 1) := by omega
      rw [Nat.pow_succ, Nat.mul_comm, fold, above, neighbours_replicate, List.map_replicate,
        ← zeroHash, ih (level + 1), hlevel]

/-- One step up, where the zero subtree of the level is a kept one or is not
    needed. -/
theorem climb_succ (level count : Nat) (nodes : List Bytes) (h : level ≤ maxDepth) :
    climb level (count + 1) nodes
      = climb (level + 1) count (pairUp (zeroHash level) nodes) := by
  rw [climb]
  by_cases heven : nodes.length % 2 = 0
  · rw [if_pos heven, pairUp_of_even Chunk.zero (zeroHash level) nodes heven]
  · rw [if_neg heven, getElem_zeroHashes level h]

/-- Climbing ends with one node, the root of the full tree over the level. -/
theorem climb_eq_fold (level count : Nat) (nodes : List Bytes) (hne : nodes ≠ [])
    (hroom : nodes.length ≤ 2 ^ count) (hdepth : level + count ≤ maxDepth) :
    climb level count nodes = .ok [fold count
      (nodes ++ List.replicate (2 ^ count - nodes.length) (zeroHash level))] := by
  induction count generalizing level nodes with
  | zero =>
      obtain ⟨node, rfl⟩ : ∃ node, nodes = [node] := by
        have hpos := List.length_pos_iff.mpr hne
        rw [Nat.pow_zero] at hroom
        exact List.length_eq_one_iff.mp (by omega)
      rfl
  | succ count ih =>
      rw [Nat.pow_succ, Nat.mul_comm] at hroom
      -- The level above has nodes if this one has, and half as much room.
      have hlen := length_pairUp (zeroHash level) nodes
      have hnext : pairUp (zeroHash level) nodes ≠ [] := by
        have hpos := List.length_pos_iff.mpr hne
        refine List.ne_nil_of_length_pos ?_
        rw [hlen]
        omega
      rw [climb_succ level count nodes (by omega), ih (level + 1) _ hnext (by omega) (by omega),
        hlen, Nat.pow_succ, Nat.mul_comm (2 ^ count), fold, above_padded level _ nodes hroom]

theorem clog_le_maxDepth {room : Nat} (h : room ≤ 2 ^ maxDepth) : Nat.clog 2 room ≤ maxDepth :=
  (Nat.clog_le_iff_le_pow (by omega)).mpr h

/-- The root of chunks in a tree that has room for them is that of the full
    tree. -/
theorem rootOfDepth_eq_fullRoot (room : Nat) (chunks : List Bytes) (hroom : chunks.length ≤ room)
    (hdepth : room ≤ 2 ^ maxDepth) :
    rootOfDepth (depthFor room) chunks
      = .ok (fullRoot room fun i => chunks.getD i Chunk.zero) := by
  have hclog := clog_le_maxDepth hdepth
  have hwidth : chunks.length ≤ 2 ^ Nat.clog 2 room :=
    Nat.le_trans hroom (Nat.le_pow_clog (by omega) room)
  rw [rootOfDepth, depthFor_eq_clog, fullRoot, fullLeaves, map_range_getD _ _ _ hwidth]
  by_cases hne : chunks = []
  · -- Nothing is climbed without chunks: the root is looked up among the kept ones.
    subst hne
    have hzeros := fold_zeros (Nat.clog 2 room) 0
    rw [Nat.zero_add] at hzeros
    rw [List.isEmpty_nil, if_pos rfl, getElem_zeroHashes _ hclog, List.nil_append,
      List.length_nil, Nat.sub_zero, ← hzeros]
    rfl
  · have hsome : chunks.isEmpty = false := List.isEmpty_eq_false_iff.mpr hne
    rw [hsome, if_neg Bool.false_ne_true, climb_eq_fold 0 _ chunks hne hwidth (by omega)]
    rfl

/-- Under a limit the full tree has room for as many chunks as the limit, and
    chunks within the limit have its root. -/
theorem root_eq_fullRoot (limit : Nat) (chunks : List Bytes) (hroom : chunks.length ≤ limit)
    (hdepth : limit ≤ 2 ^ maxDepth) :
    root chunks (some limit) = .ok (fullRoot limit fun i => chunks.getD i Chunk.zero) := by
  have hlimit : ¬ (limit : Int) < (chunks.length : Int) := by omega
  rw [root, if_neg hlimit, Int.toNat_natCast]
  exact rootOfDepth_eq_fullRoot limit chunks hroom hdepth

/-- Without a limit the full tree has room for just the chunks there are. -/
theorem root_eq_fullRoot_of_length (chunks : List Bytes) (hdepth : chunks.length ≤ 2 ^ maxDepth) :
    root chunks none = .ok (fullRoot chunks.length fun i => chunks.getD i Chunk.zero) :=
  rootOfDepth_eq_fullRoot chunks.length chunks (Nat.le_refl _) hdepth

end Merkle

end Beacon
