import Beacon.Proofs.Merkle.Reference

/-!
# The Pairs That Are Hashed

What a root is computed from, kept as a list.

Every node of a tree is the hash of a pair of nodes, so the course of a
computation is told by the pairs. They are written down here along the
computation itself: `climbPairs` climbs as `Merkle.climb` does and lists the
pairs of each level, and `hashed` follows a value as `root` does, listing what
is hashed for its parts, then the tree over their chunks, then the pair of a
root and a count. The kept roots of zero subtrees are built from pairs too,
those of `zeroPairs`.

Only pairs that are really hashed are listed. The full tree over the same
chunks would hash more of them, yet none that is not listed either for the
value or for the zero subtrees (`foldPairs_padded`), so the list is enough to
speak of the full tree. Each pair is a message of two nodes, and since a left
node always has thirty-two bytes (`length_left`), different pairs are different
messages.

## Main definitions

* `climbPairs`, `rootPairs`: The pairs hashed for the root of chunks.
* `zeroPairs`: The pairs hashed for the kept roots of zero subtrees.
* `foldPairs`: The pairs of a full tree.
* `hashed`, `hashedAll`: The pairs hashed for the root of a value.

## Theorems

* `foldPairs_padded`: Every pair of the full tree is listed.
* `length_left`: A left node has the size of a chunk.
-/

namespace Beacon

namespace Merkle

/-- The pairs hashed in climbing `count` levels. -/
def climbPairs (level : Nat) : (count : Nat) → List Bytes → List (Bytes × Bytes)
  | 0, _ => []
  | count + 1, nodes =>
      let filler := zeroHashes[level]?.getD Chunk.zero
      pairsUp filler nodes ++ climbPairs (level + 1) count (pairUp filler nodes)

/-- The pairs hashed for the root of chunks. -/
def rootPairs (chunks : List Bytes) (limit : Option Int) : List (Bytes × Bytes) :=
  match limit with
  | none => climbPairs 0 (depthFor chunks.length) chunks
  | some limit => climbPairs 0 (depthFor limit.toNat) chunks

/-- The pairs hashed for the kept roots, all of which but the last are hashed
    with themselves. -/
def zeroPairs : List (Bytes × Bytes) := (zeroHashes.take maxDepth).map fun node => (node, node)

/-- The pairs of `count` full levels. -/
def foldPairs : (count : Nat) → List Bytes → List (Bytes × Bytes)
  | 0, _ => []
  | count + 1, nodes => neighbours nodes ++ foldPairs count (above nodes)

theorem mem_zeroPairs (level : Nat) (h : level < maxDepth) :
    (zeroHash level, zeroHash level) ∈ zeroPairs := by
  refine List.mem_map.mpr ⟨zeroHash level, ?_, rfl⟩
  rw [List.mem_iff_getElem?]
  refine ⟨level, ?_⟩
  rw [List.getElem?_take_of_lt h, getElem_zeroHashes level (Nat.le_of_lt h)]

/-- Every pair of a full tree is hashed in climbing or is a pair of zero
    subtrees. -/
theorem foldPairs_padded (level count : Nat) (nodes : List Bytes)
    (hroom : nodes.length ≤ 2 ^ count) (hdepth : level + count ≤ maxDepth) :
    foldPairs count (nodes ++ List.replicate (2 ^ count - nodes.length) (zeroHash level))
      ⊆ climbPairs level count nodes ++ zeroPairs := by
  induction count generalizing level nodes with
  | zero => exact List.nil_subset _
  | succ count ih =>
      have hlen := length_pairUp (zeroHash level) nodes
      rw [Nat.pow_succ, Nat.mul_comm] at hroom ⊢
      have hnext := ih (level + 1) (pairUp (zeroHash level) nodes) (by omega) (by omega)
      have hfiller := getElem_zeroHashes level (by omega)
      rw [hlen] at hnext
      rw [foldPairs, neighbours_padded _ _ _ hroom, above_padded _ _ _ hroom, climbPairs, hfiller,
        Option.getD_some]
      intro pair hpair
      -- A pair of this level has a node that was built or it has not, and higher ones are listed
      -- by induction.
      rcases List.mem_append.mp hpair with hlevel | habove
      · rcases List.mem_append.mp hlevel with hnode | hzero
        · exact List.mem_append_left _ (List.mem_append_left _ hnode)
        · have hmem := mem_zeroPairs level (by omega)
          rw [← List.eq_of_mem_replicate hzero] at hmem
          exact List.mem_append_right _ hmem
      · rcases List.mem_append.mp (hnext habove) with hclimbed | hzero
        · exact List.mem_append_left _ (List.mem_append_right _ hclimbed)
        · exact List.mem_append_right _ hzero

/-- The nodes of a level all have the size of a chunk. -/
def Sized (nodes : List Bytes) : Prop := ∀ node ∈ nodes, node.length = Chunk.size

theorem sized_map_hash (pairs : List (Bytes × Bytes)) :
    Sized (pairs.map fun pair => hashPair pair.1 pair.2) := by
  intro node hnode
  obtain ⟨pair, -, rfl⟩ := List.mem_map.mp hnode
  exact length_hashPair pair.1 pair.2

theorem sized_pairUp (filler : Bytes) (nodes : List Bytes) : Sized (pairUp filler nodes) := by
  rw [← map_pairsUp]
  exact sized_map_hash _

theorem left_mem_of_mem_pairsUp (filler : Bytes) (nodes : List Bytes) (pair : Bytes × Bytes)
    (h : pair ∈ pairsUp filler nodes) : pair.1 ∈ nodes := by
  induction nodes using pairUp.induct with
  | case1 left right rest ih =>
      rw [pairsUp, List.mem_cons] at h
      rcases h with rfl | hrest
      · exact List.mem_cons_self
      · exact List.mem_cons_of_mem _ (List.mem_cons_of_mem _ (ih hrest))
  | case2 left =>
      rw [pairsUp, List.mem_singleton] at h
      rw [h]
      exact List.mem_cons_self
  | case3 => exact absurd h List.not_mem_nil

theorem length_left_climbPairs (level count : Nat) (nodes : List Bytes) (hnodes : Sized nodes)
    (pair : Bytes × Bytes) (h : pair ∈ climbPairs level count nodes) :
    pair.1.length = Chunk.size := by
  induction count generalizing level nodes with
  | zero => exact absurd h List.not_mem_nil
  | succ count ih =>
      rcases List.mem_append.mp h with hlevel | habove
      · exact hnodes _ (left_mem_of_mem_pairsUp _ nodes pair hlevel)
      · exact ih (level + 1) _ (sized_pairUp _ nodes) habove

theorem length_left_rootPairs (chunks : List Bytes) (limit : Option Int) (hchunks : Sized chunks)
    (pair : Bytes × Bytes) (h : pair ∈ rootPairs chunks limit) : pair.1.length = Chunk.size := by
  cases limit with
  | none => exact length_left_climbPairs 0 _ chunks hchunks pair h
  | some limit => exact length_left_climbPairs 0 _ chunks hchunks pair h

theorem length_left_zeroPairs (pair : Bytes × Bytes) (h : pair ∈ zeroPairs) :
    pair.1.length = Chunk.size := by
  obtain ⟨node, hnode, rfl⟩ := List.mem_map.mp h
  -- Every kept root is the root of a zero subtree, and there are none at other places.
  obtain ⟨i, hi⟩ := List.mem_iff_getElem?.mp (List.mem_of_mem_take hnode)
  by_cases hkept : i ≤ maxDepth
  · rw [getElem_zeroHashes i hkept, Option.some.injEq] at hi
    rw [← hi]
    exact length_zeroHash i
  · have hlen : zeroHashes.length = maxDepth + 1 := by rfl
    rw [List.getElem?_eq_none (by omega)] at hi
    exact absurd hi (by simp only [reduceCtorEq, not_false_eq_true])

theorem length_fold (count : Nat) (nodes : List Bytes) (h : Sized nodes) :
    (fold count nodes).length = Chunk.size := by
  induction count generalizing nodes with
  | zero =>
      cases nodes with
      | nil => rfl
      | cons node rest => exact h node List.mem_cons_self
  | succ count ih => exact ih (above nodes) (sized_map_hash _)

theorem length_fullRoot (room : Nat) (leaf : Nat → Bytes)
    (h : ∀ i, (leaf i).length = Chunk.size) : (fullRoot room leaf).length = Chunk.size := by
  refine length_fold _ _ fun node hnode => ?_
  obtain ⟨i, -, rfl⟩ := List.mem_map.mp hnode
  exact h i

theorem length_getD (nodes : List Bytes) (h : Sized nodes) (i : Nat) :
    (nodes.getD i Chunk.zero).length = Chunk.size := by
  by_cases hi : i < nodes.length
  · rw [List.getD_eq_getElem nodes Chunk.zero hi]
    exact h _ (List.getElem_mem hi)
  · rw [List.getD_eq_default nodes Chunk.zero (by omega)]
    rfl

theorem length_leafAt (byte : Nat → UInt8) (i : Nat) :
    (Chunk.leafAt byte i).length = Chunk.size := by
  rw [Chunk.leafAt, List.length_map, List.length_range]

theorem sized_ofBytes (data : Bytes) : Sized (Chunk.ofBytes data) := by
  intro node hnode
  obtain ⟨i, hi⟩ := List.mem_iff_getElem?.mp hnode
  have hleaf := Chunk.getD_ofBytes data i
  rw [List.getD_eq_getElem?_getD, hi, Option.getD_some] at hleaf
  rw [hleaf]
  exact length_leafAt _ i

end Merkle

namespace Schema

open Outcome Merkle

/-- What a computation of a list has given, nothing if it has failed. -/
def given {ε α : Type} (outcome : Except ε (List α)) : List α := outcome.toOption.getD []

/-- The pairs hashed for the elements of a sequence, `below` being those for
    their own roots. Numbers that share chunks have no roots of their own. -/
def elementsHashed (element : Schema) (below : List (Bytes × Bytes)) : List (Bytes × Bytes) :=
  match element.sharedSize? with
  | some _ => []
  | none => below

mutual

/-- The pairs hashed for the root of a value. -/
def hashed : Schema → Value → List (Bytes × Bytes)
  | .uint name bits, v =>
      rootPairs (Chunk.ofBytes (given ((uint name bits).encode v))) none
  | .bytes _ _, .bytes bs => rootPairs (Chunk.ofBytes bs) none
  | .byteList _ limit, .bytes bs =>
      let room := Chunk.needed limit Chunk.size
      let contents := given (Merkle.root (Chunk.ofBytes bs) (some room))
      rootPairs (Chunk.ofBytes bs) (some room) ++ [(contents, Bytes.ofNat Chunk.size bs.length)]
  | .bitvector _ length, .bits bs =>
      rootPairs (Chunk.ofBits bs) (some (Chunk.needed length Chunk.bits))
  | .bitlist _ limit, .bits bs =>
      let room := Chunk.needed limit Chunk.bits
      let contents := given (Merkle.root (Chunk.ofBits bs) (some room))
      rootPairs (Chunk.ofBits bs) (some room) ++ [(contents, Bytes.ofNat Chunk.size bs.length)]
  | .vector _ element length, .row vs =>
      let chunks := given (elementChunks element vs)
      elementsHashed element (vs.flatMap element.hashed)
        ++ rootPairs chunks (some (element.room length))
  | .list _ element limit, .row vs =>
      let chunks := given (elementChunks element vs)
      let contents := given (Merkle.root chunks (some (element.room limit)))
      elementsHashed element (vs.flatMap element.hashed)
        ++ rootPairs chunks (some (element.room limit))
        ++ [(contents, Bytes.ofNat Chunk.size vs.length)]
  | .container name fields, .row vs =>
      hashedAll fields vs ++ rootPairs (given (rootAll name fields vs)) none
  | _, _ => []

/-- The pairs hashed for the roots of a container's fields. -/
def hashedAll : Fields → List Value → List (Bytes × Bytes)
  | .cons _ type rest, v :: vs => type.hashed v ++ hashedAll rest vs
  | _, _ => []

end

theorem length_elementsRoot (element : Schema) (capacity : Nat) (vs : List Value)
    (roots : List Bytes) (h : Sized roots) :
    (elementsRoot element capacity vs roots).length = Chunk.size := by
  rw [elementsRoot]
  rcases element.sharedSize? with _ | size
  · exact length_fullRoot _ _ (length_getD roots h)
  · exact length_fullRoot _ _ (length_leafAt _)

theorem sized_elementLeaves (element : Schema) (vs : List Value) (roots : List Bytes)
    (h : Sized roots) : Sized (elementLeaves element vs roots) := by
  rw [elementLeaves]
  rcases element.sharedSize? with _ | size
  · exact h
  · exact sized_ofBytes _

theorem given_ok {ε α : Type} (xs : List α) : given (.ok xs : Except ε (List α)) = xs := rfl

theorem mem_of_mem_elementsHashed (element : Schema) (below : List (Bytes × Bytes))
    (pair : Bytes × Bytes) (h : pair ∈ elementsHashed element below) : pair ∈ below := by
  rw [elementsHashed] at h
  rcases hshared : element.sharedSize? with _ | size
  · rwa [hshared] at h
  · rw [hshared] at h
    exact absurd h List.not_mem_nil

mutual

/-- The root of a value has the size of a chunk. -/
theorem length_reference : ∀ (s : Schema) (v : Value), s.every whole = true → s.Admits v →
    (s.reference v).length = Chunk.size
  | .uint _ _, .uint _, _, _ | .bytes _ _, .bytes _, _, _ | .bitvector _ _, .bits _, _, _ =>
      length_fullRoot _ _ (length_leafAt _)
  | .byteList _ _, .bytes _, _, _ | .bitlist _ _, .bits _, _, _ | .list _ _ _, .row _, _, _ =>
      length_hashPair _ _
  | .vector _ element _, .row vs, h, hadmits => by
      simp only [every, Bool.and_eq_true] at h
      refine length_elementsRoot _ _ _ _ fun node hnode => ?_
      obtain ⟨v, hv, rfl⟩ := List.mem_map.mp hnode
      exact length_reference element v h.2 (hadmits.2 v hv)
  | .container _ fields, .row vs, h, hadmits => by
      simp only [every, Bool.and_eq_true] at h
      exact length_fullRoot _ _ (length_getD _ (sized_referenceAll fields vs h.2 hadmits))
  | .unfinished _ _, _, h, _ => absurd h (by simp only [every, whole, Bool.false_eq_true,
      not_false_eq_true])

theorem sized_referenceAll : ∀ (fields : Fields) (vs : List Value),
    everyField whole fields = true → AdmitsAll fields vs → Sized (referenceAll fields vs)
  | .nil, [], _, _ => fun _ hnode => absurd hnode List.not_mem_nil
  | .cons _ type rest, v :: vs, h, hadmits => by
      simp only [everyField, Bool.and_eq_true] at h
      intro node hnode
      rw [referenceAll, List.mem_cons] at hnode
      rcases hnode with rfl | hrest
      · exact length_reference type v h.1 hadmits.1
      · exact sized_referenceAll rest vs h.2 hadmits.2 node hrest
  | .nil, _ :: _, _, hadmits | .cons _ _ _, [], _, hadmits => hadmits.elim

end

theorem sized_map_reference (element : Schema) (vs : List Value)
    (h : element.every whole = true) (hvs : ∀ v ∈ vs, element.Admits v) :
    Sized (vs.map element.reference) := by
  intro node hnode
  obtain ⟨v, hv, rfl⟩ := List.mem_map.mp hnode
  exact length_reference element v h (hvs v hv)

mutual

/-- The left node of a pair has the size of a chunk. -/
theorem length_left : ∀ (s : Schema) (v : Value), s.every whole = true →
    s.every roomy = true → s.Admits v → ∀ pair ∈ s.hashed v, pair.1.length = Chunk.size
  | .uint _ _, .uint _, _, _, _, pair, hpair | .bytes _ _, .bytes _, _, _, _, pair, hpair
  | .bitvector _ _, .bits _, _, _, _, pair, hpair =>
      length_left_rootPairs _ _ (sized_ofBytes _) pair hpair
  | .byteList _ limit, .bytes bs, _, hroom, hadmits, pair, hpair => by
      simp only [every, roomy, decide_eq_true_eq] at hroom
      simp only [hashed, root_ofBytes limit bs hadmits hroom, given_ok] at hpair
      rcases List.mem_append.mp hpair with hbelow | hmixed
      · exact length_left_rootPairs _ _ (sized_ofBytes _) pair hbelow
      · rw [List.mem_singleton.mp hmixed]
        exact length_fullRoot _ _ (length_leafAt _)
  | .bitlist _ limit, .bits bs, _, hroom, hadmits, pair, hpair => by
      simp only [every, roomy, decide_eq_true_eq] at hroom
      simp only [hashed, root_ofBits limit bs hadmits hroom, given_ok] at hpair
      rcases List.mem_append.mp hpair with hbelow | hmixed
      · exact length_left_rootPairs _ _ (sized_ofBytes _) pair hbelow
      · rw [List.mem_singleton.mp hmixed]
        exact length_fullRoot _ _ (length_leafAt _)
  | .vector _ element length, .row vs, h, hroom, hadmits, pair, hpair => by
      simp only [every, roomy, Bool.and_eq_true, decide_eq_true_eq] at h hroom
      have hroots := fun v hv => root_eq element v h.2 hroom.2 (hadmits.2 v hv)
      simp only [hashed, elementChunks_eq element vs h.2 hadmits.2 hroots, given_ok] at hpair
      rcases List.mem_append.mp hpair with hbelow | htree
      · have hbelow := mem_of_mem_elementsHashed element _ pair hbelow
        obtain ⟨v, hv, hmem⟩ := List.mem_flatMap.mp hbelow
        exact length_left element v h.2 hroom.2 (hadmits.2 v hv) pair hmem
      · have hsized := sized_map_reference element vs h.2 hadmits.2
        exact length_left_rootPairs _ _ (sized_elementLeaves element vs _ hsized) pair htree
  | .list _ element limit, .row vs, h, hroom, hadmits, pair, hpair => by
      simp only [every, roomy, Bool.and_eq_true, decide_eq_true_eq] at h hroom
      have hroots := fun v hv => root_eq element v h.2 hroom.2 (hadmits.2 v hv)
      have hsized := sized_map_reference element vs h.2 hadmits.2
      simp only [hashed, elementChunks_eq element vs h.2 hadmits.2 hroots, given_ok,
        root_elementLeaves element limit vs hadmits.1 hroom.1] at hpair
      rcases List.mem_append.mp hpair with hbelow | hmixed
      · rcases List.mem_append.mp hbelow with hbelow | htree
        · have hbelow := mem_of_mem_elementsHashed element _ pair hbelow
          obtain ⟨v, hv, hmem⟩ := List.mem_flatMap.mp hbelow
          exact length_left element v h.2 hroom.2 (hadmits.2 v hv) pair hmem
        · exact length_left_rootPairs _ _ (sized_elementLeaves element vs _ hsized) pair htree
      · rw [List.mem_singleton.mp hmixed]
        exact length_elementsRoot element limit vs _ hsized
  | .container name fields, .row vs, h, hroom, hadmits, pair, hpair => by
      simp only [every, roomy, Bool.and_eq_true, decide_eq_true_eq] at h hroom
      simp only [hashed, rootAll_eq name fields vs h.2 hroom.2 hadmits, given_ok] at hpair
      rcases List.mem_append.mp hpair with hbelow | htree
      · exact length_left_all fields vs h.2 hroom.2 hadmits pair hbelow
      · exact length_left_rootPairs _ _ (sized_referenceAll fields vs h.2 hadmits) pair htree
  | .unfinished _ _, _, h, _, _, _, _ => absurd h (by simp only [every, whole, Bool.false_eq_true,
      not_false_eq_true])

theorem length_left_all : ∀ (fields : Fields) (vs : List Value),
    everyField whole fields = true → everyField roomy fields = true → AdmitsAll fields vs →
    ∀ pair ∈ hashedAll fields vs, pair.1.length = Chunk.size
  | .nil, [], _, _, _, _, hpair => absurd hpair List.not_mem_nil
  | .cons _ type rest, v :: vs, h, hroom, hadmits, pair, hpair => by
      simp only [everyField, Bool.and_eq_true] at h hroom
      rcases List.mem_append.mp hpair with hfirst | hrest
      · exact length_left type v h.1 hroom.1 hadmits.1 pair hfirst
      · exact length_left_all rest vs h.2 hroom.2 hadmits.2 pair hrest
  | .nil, _ :: _, _, _, hadmits, _, _ | .cons _ _ _, [], _, _, hadmits, _, _ => hadmits.elim

end

end Schema

end Beacon
