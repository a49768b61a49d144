import Beacon.Proofs.Merkle.Hashed
import Beacon.Proofs.Merkle.Numeric

/-!
# Evaluating Roots

The root of a value as a number that a proof can compute.

`evaluated` goes the way the root goes, but its nodes are numbers and two of them are
`joined` instead of hashed. The subtree of zeros that stands beside the last node of
a level is joined with itself on the way to the next level. So the subtrees of zeros
come along on the way up, and none of them has to be looked up (`climbed`).

That the number is the one the root spells is proved along the tree. It comes down
to the hash of two nodes, whose number is the one that the two numbers are joined
to, provided that all nodes are chunks (`Sized`).

## Main definitions

* `Merkle.climbed`: The number of the root of a tree, from those of its nodes.
* `Schema.evaluated`: The number of the root of a value.

## Theorems

* `Merkle.climbed_spelled`: What is climbed to is the root of the full tree.
* `Schema.spelled_reference`: A root spells the number that is evaluated.
* `Schema.root_ne`: Values with different numbers have different roots.
-/

namespace Beacon

namespace Merkle

/-- The nodes above a level, all of them numbers. -/
def joinedPairs (filler : Nat) : List Nat → List Nat
  | left :: right :: rest => joined left right :: joinedPairs filler rest
  | [left] => [joined left filler]
  | [] => []

/-- The node `count` levels above some nodes, `filler` standing behind them as often
    as there is room. -/
def climbed (filler : Nat) : (count : Nat) → List Nat → Nat
  | 0, nodes => nodes.headD filler
  | count + 1, nodes => climbed (joined filler filler) count (joinedPairs filler nodes)

theorem joinedPairs_spelled (filler : Bytes) (hfiller : filler.length = Chunk.size)
    (nodes : List Bytes) (h : Sized nodes) :
    joinedPairs filler.spelled (nodes.map Bytes.spelled)
      = (pairUp filler nodes).map Bytes.spelled := by
  induction nodes using pairUp.induct with
  | case1 left right rest ih =>
      have hleft := h left List.mem_cons_self
      have hright := h right (List.mem_cons_of_mem _ List.mem_cons_self)
      have hrest : Sized rest := fun node hnode =>
        h node (List.mem_cons_of_mem _ (List.mem_cons_of_mem _ hnode))
      rw [pairUp, List.map_cons, List.map_cons, List.map_cons, joinedPairs, ih hrest,
        spelled_hashPair left right hleft hright]
  | case2 left =>
      rw [pairUp, List.map_singleton, List.map_singleton, joinedPairs,
        spelled_hashPair left filler (h left List.mem_cons_self) hfiller]
  | case3 => rw [pairUp, List.map_nil, joinedPairs]

/-- What is climbed to is the root of the full tree. -/
theorem climbed_spelled (level count : Nat) (nodes : List Bytes) (h : Sized nodes)
    (hroom : nodes.length ≤ 2 ^ count) :
    climbed (zeroHash level).spelled count (nodes.map Bytes.spelled)
      = Bytes.spelled (fold count
        (nodes ++ List.replicate (2 ^ count - nodes.length) (zeroHash level))) := by
  induction count generalizing level nodes with
  | zero =>
      rcases nodes with _ | ⟨node, rest⟩
      · rfl
      · rfl
  | succ count ih =>
      have hzero : (zeroHash level).length = Chunk.size := length_zeroHash level
      have hnext : joined (zeroHash level).spelled (zeroHash level).spelled
          = (zeroHash (level + 1)).spelled := by
        rw [zeroHash, spelled_hashPair _ _ hzero hzero]
      have hlen := length_pairUp (zeroHash level) nodes
      rw [Nat.pow_succ, Nat.mul_comm] at hroom
      unfold climbed
      rw [hnext, joinedPairs_spelled _ hzero nodes h,
        ih (level + 1) _ (sized_pairUp _ _) (by omega), hlen, Nat.pow_succ,
        Nat.mul_comm (2 ^ count), fold, above_padded level _ nodes hroom]

/-- The number of the root of the full tree over some chunks. -/
theorem climbed_fullRoot (room : Nat) (chunks : List Bytes) (h : Sized chunks)
    (hroom : chunks.length ≤ room) :
    climbed 0 (depthFor room) (chunks.map Bytes.spelled)
      = Bytes.spelled (fullRoot room fun i => chunks.getD i Chunk.zero) := by
  have hwidth : chunks.length ≤ 2 ^ Nat.clog 2 room :=
    Nat.le_trans hroom (Nat.le_pow_clog (by omega) room)
  have hzero : Bytes.spelled (zeroHash 0) = 0 := by rfl
  rw [fullRoot, fullLeaves, map_range_getD _ _ _ hwidth, depthFor_eq_clog, ← hzero]
  exact climbed_spelled 0 _ chunks h hwidth

end Merkle

namespace Schema

open Merkle

/-- The number of the root of a tree with room for some chunks. -/
def evaluatedTree (room : Nat) (chunks : List Bytes) : Nat :=
  climbed 0 (depthFor room) (chunks.map Bytes.spelled)

/-- The number of a root with a count mixed in. -/
def evaluatedMix (root count : Nat) : Nat :=
  joined root (Bytes.ofNat Chunk.size count).spelled

/-- The number of the root of a tree with room for `capacity` elements, `roots` being
    the numbers of their own roots. -/
def evaluatedElements (element : Schema) (capacity : Nat) (vs : List Value) (roots : List Nat) :
    Nat :=
  match element.sharedSize? with
  | some size =>
    evaluatedTree (Chunk.needed (capacity * size) Chunk.size) (Chunk.ofBytes (numberBytes size vs))
  | none => climbed 0 (depthFor capacity) roots

mutual

/-- The number of the root of a value of a type. For what is no value of the type it
    is of no meaning. -/
def evaluated : Schema → Value → Nat
  | .uint _ bits, .uint n =>
      evaluatedTree (Chunk.needed (bits / 8) Chunk.size) (Chunk.ofBytes (Bytes.ofNat (bits / 8) n))
  | .bytes _ length, .bytes bs =>
      evaluatedTree (Chunk.needed length Chunk.size) (Chunk.ofBytes bs)
  | .byteList _ limit, .bytes bs =>
      evaluatedMix (evaluatedTree (Chunk.needed limit Chunk.size) (Chunk.ofBytes bs)) bs.length
  | .bitvector _ length, .bits bs =>
      evaluatedTree (Chunk.needed length Chunk.bits) (Chunk.ofBits bs)
  | .bitlist _ limit, .bits bs =>
      evaluatedMix (evaluatedTree (Chunk.needed limit Chunk.bits) (Chunk.ofBits bs)) bs.length
  | .vector _ element length, .row vs =>
      evaluatedElements element length vs (vs.map element.evaluated)
  | .list _ element limit, .row vs =>
      evaluatedMix (evaluatedElements element limit vs (vs.map element.evaluated)) vs.length
  | .container _ fields, .row vs =>
      climbed 0 (depthFor fields.toList.length) (evaluatedAll fields vs)
  | _, _ => 0

/-- The numbers of the roots of a container's fields, in their order. -/
def evaluatedAll : Fields → List Value → List Nat
  | .cons _ type rest, v :: vs => type.evaluated v :: evaluatedAll rest vs
  | _, _ => []

end

theorem evaluatedTree_bytes (units : Nat) (data : Bytes) (h : data.length ≤ units) :
    evaluatedTree (Chunk.needed units Chunk.size) (Chunk.ofBytes data)
      = (bytesRoot units data).spelled := by
  have hroom : (Chunk.ofBytes data).length ≤ Chunk.needed units Chunk.size := by
    rw [Chunk.length_ofBytes]
    exact Chunk.needed_mono _ h
  rw [evaluatedTree, climbed_fullRoot _ _ (sized_ofBytes data) hroom, bytesRoot]
  simp only [Chunk.getD_ofBytes]

theorem evaluatedTree_bits (units : Nat) (bs : List Bool) (h : bs.length ≤ units) :
    evaluatedTree (Chunk.needed units Chunk.bits) (Chunk.ofBits bs)
      = (bitsRoot units bs).spelled := by
  have hroom : (Chunk.ofBits bs).length ≤ Chunk.needed units Chunk.bits := by
    rw [Chunk.length_ofBits]
    exact Chunk.needed_mono _ h
  have hsized : Sized (Chunk.ofBits bs) := sized_ofBytes _
  rw [evaluatedTree, climbed_fullRoot _ _ hsized hroom, bitsRoot]
  simp only [Chunk.getD_ofBits]

theorem evaluatedMix_spelled (root : Bytes) (count : Nat) (h : root.length = Chunk.size) :
    evaluatedMix root.spelled count = (mixed root count).spelled := by
  rw [evaluatedMix, mixed, spelled_hashPair _ _ h (Bytes.length_ofNat _ _)]

theorem evaluatedElements_spelled (element : Schema) (capacity : Nat) (vs : List Value)
    (h : element.every whole = true) (hvs : ∀ v ∈ vs, element.Admits v)
    (hroots : ∀ v ∈ vs, (element.reference v).spelled = element.evaluated v)
    (hroom : vs.length ≤ capacity) :
    evaluatedElements element capacity vs (vs.map element.evaluated)
      = (elementsRoot element capacity vs (vs.map element.reference)).spelled := by
  have hmap : vs.map element.evaluated = (vs.map element.reference).map Bytes.spelled := by
    rw [List.map_map]
    exact List.map_congr_left fun v hv => (hroots v hv).symm
  unfold evaluatedElements elementsRoot
  rw [hmap]
  rcases element.sharedSize? with _ | size
  · refine climbed_fullRoot capacity _ (sized_map_reference element vs h hvs) ?_
    rwa [List.length_map]
  · refine evaluatedTree_bytes _ _ ?_
    rw [length_numberBytes]
    exact Nat.mul_le_mul_right size hroom

mutual

/-- A root spells the number that is evaluated. -/
theorem spelled_reference : ∀ (s : Schema) (v : Value), s.every whole = true → s.Admits v →
    (s.reference v).spelled = s.evaluated v
  | .uint _ bits, .uint n, _, _ => by
      rw [reference, evaluated, evaluatedTree_bytes _ _ (Nat.le_of_eq (Bytes.length_ofNat _ _))]
  | .bytes _ length, .bytes bs, _, hadmits => by
      rw [reference, evaluated, evaluatedTree_bytes _ _ (Nat.le_of_eq hadmits)]
  | .byteList _ limit, .bytes bs, _, hadmits => by
      rw [reference, evaluated, evaluatedTree_bytes _ _ hadmits]
      exact (evaluatedMix_spelled _ _ (length_fullRoot _ _ (length_leafAt _))).symm
  | .bitvector _ length, .bits bs, _, hadmits => by
      rw [reference, evaluated, evaluatedTree_bits _ _ (Nat.le_of_eq hadmits)]
  | .bitlist _ limit, .bits bs, _, hadmits => by
      rw [reference, evaluated, evaluatedTree_bits _ _ hadmits]
      exact (evaluatedMix_spelled _ _ (length_fullRoot _ _ (length_leafAt _))).symm
  | .vector _ element length, .row vs, h, hadmits => by
      simp only [every, Bool.and_eq_true] at h
      have hroots := fun v hv => spelled_reference element v h.2 (hadmits.2 v hv)
      rw [reference, evaluated, evaluatedElements_spelled element length vs h.2 hadmits.2 hroots
        (Nat.le_of_eq hadmits.1)]
  | .list _ element limit, .row vs, h, hadmits => by
      simp only [every, Bool.and_eq_true] at h
      have hroots := fun v hv => spelled_reference element v h.2 (hadmits.2 v hv)
      have hnodes := sized_map_reference element vs h.2 hadmits.2
      have hsized := length_elementsRoot element limit vs _ hnodes
      rw [reference, evaluated, evaluatedElements_spelled element limit vs h.2 hadmits.2 hroots
        hadmits.1, evaluatedMix_spelled _ _ hsized]
  | .container _ fields, .row vs, h, hadmits => by
      simp only [every, Bool.and_eq_true] at h
      have hlen := length_referenceAll fields vs hadmits
      rw [reference, nodesRoot, evaluated, ← spelled_referenceAll fields vs h.2 hadmits,
        climbed_fullRoot _ _ (sized_referenceAll fields vs h.2 hadmits) (Nat.le_of_eq hlen)]
  | .unfinished _ _, _, h, _ => absurd h (by simp only [every, whole, Bool.false_eq_true,
      not_false_eq_true])

theorem spelled_referenceAll : ∀ (fields : Fields) (vs : List Value),
    everyField whole fields = true → AdmitsAll fields vs →
    (referenceAll fields vs).map Bytes.spelled = evaluatedAll fields vs
  | .nil, [], _, _ => rfl
  | .cons _ type rest, v :: vs, h, hadmits => by
      simp only [everyField, Bool.and_eq_true] at h
      rw [referenceAll, evaluatedAll, List.map_cons, spelled_reference type v h.1 hadmits.1,
        spelled_referenceAll rest vs h.2 hadmits.2]
  | .nil, _ :: _, _, hadmits | .cons _ _ _, [], _, hadmits => hadmits.elim

end

/-- Values with different numbers have different roots. -/
theorem root_ne {s : Schema} {v w : Value} (h : s.WellFormed) (hroom : s.Roomy)
    (hv : s.Admits v) (hw : s.Admits w) (hne : s.evaluated v ≠ s.evaluated w) :
    s.root v ≠ s.root w := by
  rw [root_eq s v h hroom hv, root_eq s w h hroom hw, ne_eq, Except.ok.injEq]
  intro hsame
  rw [← spelled_reference s v h hv, ← spelled_reference s w h hw, hsame] at hne
  exact hne rfl

end Schema

end Beacon
