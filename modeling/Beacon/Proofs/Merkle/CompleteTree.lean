import Mathlib.Algebra.Ring.Int.Defs
import Mathlib.Order.Bounds.Defs
import Beacon.Failure.Kind
import Beacon.Proofs.Merkle.PaddedTree

/-!
# Complete Trees

The root of chunks as the root of a tree that is drawn in full.

A full tree was given so far by its levels, because levels are what the program
goes through. Here it is a tree in the plain sense: a leaf is a chunk, a node has
two subtrees, and its root hashes theirs. The tree is complete when all of its
leaves lie at one depth. Reading its leaves from left to right loses nothing, so
for every list of two to the depth chunks there is one such tree
(`exists_complete`).

Levels go upwards and subtrees go downwards, and the two meet in `fold_append`:
the two halves of a level are hashed apart from each other until a node of each
is left. With that the node that is left of the leaves of a complete tree is its
root (`Complete.fold_leaves`), and the program's root is that of the complete
tree over the chunks with zero chunks behind them.

The number of leaves is the next power of two. `isLeast_nextPowerOfTwo` says
that it is what its name says, also for limits of zero and below.

## Main definitions

* `HashTree`, `HashTree.leaves`, `HashTree.root`: A tree, its chunks and its root.
* `HashTree.Complete`: All leaves lie at one depth.

## Theorems

* `HashTree.exists_complete`: Chunks as many as a power of two are the leaves of a
  complete tree.
* `fold_append`: The halves of a level are hashed apart from each other.
* `HashTree.Complete.fold_leaves`: Hashing the leaves level by level gives the root.
* `isLeast_nextPowerOfTwo`: The width is the least power of two with room enough.
* `root_completeTree`: When chunks have a root, and that it is the root of the
  complete tree.
-/

namespace Beacon

namespace Merkle

/-- A binary tree with a chunk at every leaf. -/
inductive HashTree
  | leaf (chunk : Bytes)
  | node (left right : HashTree)

namespace HashTree

/-- The chunks of a tree, from left to right. -/
def leaves : HashTree → List Bytes
  | leaf chunk => [chunk]
  | node left right => left.leaves ++ right.leaves

/-- The root of a tree. A node hashes the roots of its two subtrees. -/
def root : HashTree → Bytes
  | leaf chunk => chunk
  | node left right => hashPair left.root right.root

/-- All leaves of a tree lie at one depth. -/
inductive Complete : Nat → HashTree → Prop
  | leaf (chunk : Bytes) : Complete 0 (.leaf chunk)
  | node {depth : Nat} {left right : HashTree} (hleft : Complete depth left)
      (hright : Complete depth right) : Complete (depth + 1) (.node left right)

theorem Complete.length_leaves {depth : Nat} {tree : HashTree} (h : Complete depth tree) :
    tree.leaves.length = 2 ^ depth := by
  induction h with
  | leaf _ => rfl
  | node _ _ ihleft ihright =>
      rw [leaves, List.length_append, ihleft, ihright, Nat.pow_succ, Nat.mul_two]

/-- Chunks as many as a power of two are the leaves of a complete tree. -/
theorem exists_complete (depth : Nat) (chunks : List Bytes) (h : chunks.length = 2 ^ depth) :
    ∃ tree, Complete depth tree ∧ tree.leaves = chunks := by
  induction depth generalizing chunks with
  | zero =>
      obtain ⟨chunk, rfl⟩ := List.length_eq_one_iff.mp h
      exact ⟨.leaf chunk, .leaf chunk, rfl⟩
  | succ depth ih =>
      -- The first half of the chunks goes to the left, the second half to the right.
      rw [Nat.pow_succ] at h
      obtain ⟨left, hleft, hfront⟩ := ih (chunks.take (2 ^ depth)) (by
        rw [List.length_take]
        omega)
      obtain ⟨right, hright, hback⟩ := ih (chunks.drop (2 ^ depth)) (by
        rw [List.length_drop]
        omega)
      refine ⟨.node left right, .node hleft hright, ?_⟩
      rw [leaves, hfront, hback, List.take_append_drop]

end HashTree

/-- Where a level is cut at an even place, no pair is cut. -/
theorem neighbours_append (xs ys : List Bytes) (h : xs.length % 2 = 0) :
    neighbours (xs ++ ys) = neighbours xs ++ neighbours ys := by
  induction xs using neighbours.induct with
  | case1 left right rest ih =>
      rw [List.length_cons, List.length_cons] at h
      rw [List.cons_append, List.cons_append, neighbours, neighbours, ih (by omega),
        List.cons_append]
  | case2 xs hxs =>
      -- A level of even length without a pair is empty.
      rcases xs with _ | ⟨a, _ | ⟨b, rest⟩⟩
      · rfl
      · exact absurd h (by rw [List.length_singleton]; omega)
      · exact absurd rfl (hxs a b rest)

/-- The halves of a level are hashed apart from each other until one node of each
    is left, and these two make the node above. -/
theorem fold_append (count : Nat) (xs ys : List Bytes) (hx : xs.length = 2 ^ count)
    (hy : ys.length = 2 ^ count) :
    fold (count + 1) (xs ++ ys) = hashPair (fold count xs) (fold count ys) := by
  induction count generalizing xs ys with
  | zero =>
      obtain ⟨x, rfl⟩ := List.length_eq_one_iff.mp hx
      obtain ⟨y, rfl⟩ := List.length_eq_one_iff.mp hy
      rfl
  | succ count ih =>
      -- Both halves are of even length, so the level above falls into halves as well.
      rw [Nat.pow_succ] at hx hy
      have habove : above (xs ++ ys) = above xs ++ above ys := by
        rw [above, neighbours_append xs ys (by omega), List.map_append, above, above]
      have hxlen := length_above xs
      have hylen := length_above ys
      rw [fold, habove, ih (above xs) (above ys) (by omega) (by omega), fold, fold]

/-- Hashing the leaves of a complete tree level by level gives its root. -/
theorem HashTree.Complete.fold_leaves {depth : Nat} {tree : HashTree} (h : Complete depth tree) :
    fold depth tree.leaves = tree.root := by
  induction h with
  | leaf _ => rfl
  | node hleft hright ihleft ihright =>
      rw [leaves, fold_append _ _ _ hleft.length_leaves hright.length_leaves, ihleft, ihright,
        HashTree.root]

theorem nextPowerOfTwo_eq (n : Int) : nextPowerOfTwo n = 2 ^ Nat.clog 2 n.toNat := by
  rw [nextPowerOfTwo, depthFor_eq_clog, Nat.pow_eq]

/-- The width of the narrowest tree with room for a number of leaves is the least
    power of two that is not below the number. -/
theorem isLeast_nextPowerOfTwo (n : Int) :
    IsLeast {width : Nat | (∃ depth, width = 2 ^ depth) ∧ n ≤ width} (nextPowerOfTwo n) := by
  rw [nextPowerOfTwo_eq]
  constructor
  · -- A number below zero needs no room, and the one leaf there is has enough of it.
    have hroom := Nat.le_pow_clog (b := 2) (by omega) n.toNat
    exact ⟨⟨_, rfl⟩, by omega⟩
  · rintro _ ⟨⟨depth, rfl⟩, hroom⟩
    refine Nat.pow_le_pow_right (by omega) ?_
    exact (Nat.clog_le_iff_le_pow (by omega)).mpr (Int.toNat_le.mpr hroom)

/-- The root of chunks in a tree that has room for them is that of the complete
    tree, if the tree is no deeper than the kept zero subtrees. -/
theorem rootOfDepth_complete (room : Nat) (chunks : List Bytes) (hroom : chunks.length ≤ room)
    (hdepth : room ≤ 2 ^ maxDepth) {depth : Nat} {tree : HashTree}
    (htree : HashTree.Complete depth tree)
    (hleaves : tree.leaves
      = chunks ++ List.replicate (2 ^ Nat.clog 2 room - chunks.length) Chunk.zero) :
    rootOfDepth (depthFor room) chunks = .ok tree.root := by
  have hwidth : chunks.length ≤ 2 ^ Nat.clog 2 room :=
    Nat.le_trans hroom (Nat.le_pow_clog (by omega) room)
  -- As many leaves as there are fix the depth of the tree.
  have hcount : 2 ^ depth = 2 ^ Nat.clog 2 room := by
    rw [← htree.length_leaves, hleaves, List.length_append, List.length_replicate]
    omega
  have hlevel : depth = Nat.clog 2 room := Nat.pow_right_injective (Nat.le_refl 2) hcount
  rw [rootOfDepth_eq_fullRoot room chunks hroom hdepth, fullRoot, fullLeaves,
    map_range_getD _ _ _ hwidth, ← hleaves, ← hlevel, htree.fold_leaves]

/-- Under a limit that they are within, and without one, chunks have the root of a
    tree that has room for them. -/
theorem root_eq_rootOfDepth (chunks : List Bytes) (limit : Option Int)
    (hlimit : ∀ most, limit = some most → chunks.length ≤ most ∧ most ≤ 2 ^ 64)
    (hlength : limit = none → chunks.length ≤ 2 ^ 64) :
    ∃ room, root chunks limit = rootOfDepth (depthFor room) chunks ∧ chunks.length ≤ room ∧
      room ≤ 2 ^ maxDepth ∧ nextPowerOfTwo (limit.getD chunks.length) = 2 ^ Nat.clog 2 room := by
  have hmax : 2 ^ maxDepth = 2 ^ 64 := rfl
  rw [hmax, nextPowerOfTwo_eq]
  cases limit with
  | none =>
      -- Without a limit the tree is as wide as the chunks need it to be.
      have hlen := hlength rfl
      exact ⟨chunks.length, rfl, Nat.le_refl _, hlen, rfl⟩
  | some most =>
      obtain ⟨hlen, hmost⟩ := hlimit most rfl
      exact ⟨most.toNat, by rw [root, if_neg (by omega)], by omega, by omega, rfl⟩

/-- Chunks have no root exactly when there are more of them than the limit. In
    every other case the tree over them is determined: its leaves are the chunks
    with zero chunks behind them up to the next power of two, and whichever
    complete tree has these leaves has the root. -/
theorem root_completeTree (chunks : List Bytes) (limit : Option Int)
    (hlimit : ∀ most, limit = some most → most ≤ 2 ^ 64)
    (hlength : limit = none → chunks.length ≤ 2 ^ 64) :
    let width := nextPowerOfTwo (limit.getD chunks.length)
    let leaves := chunks ++ List.replicate (width - chunks.length) Chunk.zero
    ((∃ fault, root chunks limit = .error fault ∧ fault.kind = .value) ↔
      ∃ most, limit = some most ∧ most < chunks.length) ∧
    ((¬∃ most, limit = some most ∧ most < chunks.length) →
      leaves.length = width ∧
      (∃ depth tree, HashTree.Complete depth tree ∧ tree.leaves = leaves) ∧
      ∀ depth tree, HashTree.Complete depth tree → tree.leaves = leaves →
        root chunks limit = .ok tree.root) := by
  intro width leaves
  have hfits : (¬∃ most, limit = some most ∧ most < chunks.length) →
      leaves.length = width ∧
      (∃ depth tree, HashTree.Complete depth tree ∧ tree.leaves = leaves) ∧
      ∀ depth tree, HashTree.Complete depth tree → tree.leaves = leaves →
        root chunks limit = .ok tree.root := by
    intro hfew
    -- Of a limit that is given it is known now that it is not exceeded.
    have hwithin : ∀ most, limit = some most → chunks.length ≤ most ∧ most ≤ 2 ^ 64 := by
      intro most hmost
      refine ⟨?_, hlimit most hmost⟩
      by_contra hmany
      exact hfew ⟨most, hmost, by omega⟩
    obtain ⟨room, hroot, hroom, hdepth, hwidth⟩ :=
      root_eq_rootOfDepth chunks limit hwithin hlength
    have hpow : width = 2 ^ Nat.clog 2 room := hwidth
    have hlen : leaves.length = width := by
      have hpad := Nat.le_pow_clog (b := 2) (by omega) room
      simp only [leaves, List.length_append, List.length_replicate]
      omega
    refine ⟨hlen, ⟨_, HashTree.exists_complete _ leaves (hlen.trans hpow)⟩, ?_⟩
    intro depth tree htree hleaves
    rw [hroot]
    exact rootOfDepth_complete room chunks hroom hdepth htree (by rw [hleaves, ← hpow])
  refine ⟨⟨?_, ?_⟩, hfits⟩
  · -- Where the chunks are few enough there is a tree, and it has the root.
    rintro ⟨fault, hfault, -⟩
    by_contra hfew
    obtain ⟨-, ⟨depth, tree, htree, hleaves⟩, hroot⟩ := hfits hfew
    rw [hroot depth tree htree hleaves] at hfault
    exact absurd hfault (by simp only [reduceCtorEq, not_false_eq_true])
  · rintro ⟨most, rfl, hmany⟩
    exact ⟨.tooMany chunks.length most, by rw [root, if_pos hmany], rfl⟩

/-- Three chunks under a limit of five: the tree has eight leaves, and five of them
    are zero. -/
theorem root_completeTree_three :
    let chunks : List Bytes := [1, 2, 3].map (List.replicate 32)
    (∀ most : Int, some 5 = some most → most ≤ 2 ^ 64) ∧
    ((some 5 : Option Int) = none → chunks.length ≤ 2 ^ 64) ∧
    (¬∃ most : Int, some 5 = some most ∧ most < chunks.length) ∧
    nextPowerOfTwo 5 = 8 ∧
    ∃ tree, HashTree.Complete 3 tree ∧ tree.leaves = chunks ++ List.replicate 5 Chunk.zero ∧
      root chunks (some 5) = .ok tree.root := by
  intro chunks
  have hlimit : ∀ most : Int, some 5 = some most → most ≤ 2 ^ 64 := by
    intro most hmost
    rw [← Option.some.inj hmost]
    decide
  have hlength : (some 5 : Option Int) = none → chunks.length ≤ 2 ^ 64 := by
    intro hnone
    exact absurd hnone (by simp only [reduceCtorEq, not_false_eq_true])
  have hfew : ¬∃ most : Int, some 5 = some most ∧ most < chunks.length := by
    rintro ⟨most, hmost, hmany⟩
    rw [← Option.some.inj hmost] at hmany
    exact absurd hmany (by decide)
  obtain ⟨tree, htree, hleaves⟩ := HashTree.exists_complete 3
    (chunks ++ List.replicate 5 Chunk.zero) rfl
  refine ⟨hlimit, hlength, hfew, by decide, tree, htree, hleaves, ?_⟩
  have hroot := ((root_completeTree chunks (some 5) hlimit hlength).2 hfew).2.2 3 tree htree
  exact hroot (hleaves.trans (by decide))

end Merkle

end Beacon
