import Beacon.Proofs.Merkle.Hashed

/-!
# A Root Binds Its Value

Different values of a type have different roots, unless a collision is met.

A root says nothing about a value on its own: nodes are hashes, and hashes may
collide. What holds is that nothing else goes wrong. As long as the pairs that
were hashed for two values and for the zero subtrees have different hashes
where they are different (`Apart`), equal roots come from equal values: padding
and zero subtrees hide nothing, and neither does the delimiter that bits lose.

Trees are compared level by level, downwards from the root. One side may have a
node of its own where the other has the root of a zero subtree, so it is the
full trees that are compared (`fold_inj`). Their leaves then agree place by
place, and what is left is to tell values from leaves. Behind the end of a
value there is nothing but zeros, so leaves tell two values apart only if they
are known to end at the same place. Where the type does not fix the place, the
count that was mixed in does, and it was hashed as well.

## Main definitions

* `Apart`: Different pairs have different hashes.
* `Collides`: Two different messages among the pairs have the same hash.

## Theorems

* `fold_inj`: Equal roots of full trees have equal leaves.
* `getD_eq_of_fullRoot_eq`: Equal roots of trees have equal chunks at the leaves.
* `ofBytes_inj`, `ofBits_inj`: Bytes and bits are told apart by their chunks.
* `mixed_inj`: A count is told by the root it was mixed into.
* `eq_of_reference_eq`: Values of equal roots are equal if the pairs are apart.
* `root_ne_or_collides`: Different values have different roots or a collision.
-/

namespace Beacon

namespace Merkle

open Outcome

/-- Different pairs have different hashes. -/
def Apart (pairs : List (Bytes × Bytes)) : Prop :=
  ∀ p ∈ pairs, ∀ q ∈ pairs, hashPair p.1 p.2 = hashPair q.1 q.2 → p = q

/-- Two different messages among the pairs have the same hash. -/
def Collides (pairs : List (Bytes × Bytes)) : Prop :=
  ∃ p ∈ pairs, ∃ q ∈ pairs, p.1 ++ p.2 ≠ q.1 ++ q.2 ∧ hashPair p.1 p.2 = hashPair q.1 q.2

/-- Pairs of which no two messages collide are apart, left nodes being of one
    size. -/
theorem apart_of_not_collides (pairs : List (Bytes × Bytes))
    (hleft : ∀ p ∈ pairs, p.1.length = Chunk.size) (h : ¬ Collides pairs) : Apart pairs := by
  intro p hp q hq hhash
  have hsame : p.1 ++ p.2 = q.1 ++ q.2 := by
    by_contra hne
    exact h ⟨p, hp, q, hq, hne, hhash⟩
  have hlen : p.1.length = q.1.length := by rw [hleft p hp, hleft q hq]
  obtain ⟨hfst, hsnd⟩ := List.append_inj hsame hlen
  exact Prod.ext hfst hsnd

/-- Lists that are equal after a map are equal, if the map tells their members
    apart. -/
theorem eq_of_map_eq {α β : Type} (f : α → β) (xs ys : List α)
    (hinj : ∀ x ∈ xs, ∀ y ∈ ys, f x = f y → x = y) (h : xs.map f = ys.map f) : xs = ys := by
  induction xs generalizing ys with
  | nil => exact (List.map_eq_nil_iff.mp h.symm).symm
  | cons x xs ih =>
      cases ys with
      | nil => exact absurd h (by simp only [List.map_cons, List.map_nil, reduceCtorEq,
          not_false_eq_true])
      | cons y ys =>
          rw [List.map_cons, List.map_cons, List.cons.injEq] at h
          have hhead := hinj x List.mem_cons_self y List.mem_cons_self h.1
          have htail := ih ys (fun a ha b hb =>
            hinj a (List.mem_cons_of_mem _ ha) b (List.mem_cons_of_mem _ hb)) h.2
          rw [hhead, htail]

/-- Lists of one length are equal if they agree at every place. -/
theorem eq_of_getD_eq {α : Type} (filler : α) (xs ys : List α) (hlen : xs.length = ys.length)
    (h : ∀ i, xs.getD i filler = ys.getD i filler) : xs = ys := by
  refine List.ext_getElem hlen ?_
  intro i hx hy
  have hi := h i
  rwa [List.getD_eq_getElem xs filler hx, List.getD_eq_getElem ys filler hy] at hi

theorem neighbours_inj (xs ys : List Bytes) (hx : xs.length % 2 = 0) (hy : ys.length % 2 = 0)
    (h : neighbours xs = neighbours ys) : xs = ys := by
  induction xs using neighbours.induct generalizing ys with
  | case1 left right rest ih =>
      rcases ys with _ | ⟨left', _ | ⟨right', rest'⟩⟩
      · exact absurd h (by simp only [neighbours, reduceCtorEq, not_false_eq_true])
      · exact absurd h (by simp only [neighbours, reduceCtorEq, not_false_eq_true])
      · simp only [List.length_cons] at hx hy
        rw [neighbours, neighbours, List.cons.injEq, Prod.mk.injEq] at h
        rw [ih rest' (by omega) (by omega) h.2, h.1.1, h.1.2]
  | case2 xs hxs =>
      -- A level of even length without a pair is empty, and so is one with no pairs.
      rcases xs with _ | ⟨a, _ | ⟨b, rest⟩⟩
      · rcases ys with _ | ⟨a, _ | ⟨b, rest⟩⟩
        · rfl
        · exact absurd hy (by rw [List.length_singleton]; omega)
        · exact absurd h (by simp only [neighbours, reduceCtorEq, not_false_eq_true])
      · exact absurd hx (by rw [List.length_singleton]; omega)
      · exact (hxs a b rest rfl).elim

theorem length_fullLeaves (room : Nat) (leaf : Nat → Bytes) :
    (fullLeaves room leaf).length = 2 ^ Nat.clog 2 room := by
  rw [fullLeaves, List.length_map, List.length_range]

/-- Equal roots of full trees have equal leaves, downwards level by level. -/
theorem fold_inj (pairs : List (Bytes × Bytes)) (hapart : Apart pairs) (count : Nat)
    (xs ys : List Bytes) (hx : xs.length = 2 ^ count) (hy : ys.length = 2 ^ count)
    (hxpairs : foldPairs count xs ⊆ pairs) (hypairs : foldPairs count ys ⊆ pairs)
    (h : fold count xs = fold count ys) : xs = ys := by
  induction count generalizing xs ys with
  | zero =>
      obtain ⟨x, rfl⟩ := List.length_eq_one_iff.mp hx
      obtain ⟨y, rfl⟩ := List.length_eq_one_iff.mp hy
      exact congrArg List.singleton h
  | succ count ih =>
      rw [Nat.pow_succ] at hx hy
      rw [foldPairs, List.append_subset] at hxpairs hypairs
      -- The levels above are equal by induction, and they are hashes of pairs that are apart.
      have hxlen := length_above xs
      have hylen := length_above ys
      have habove := ih (above xs) (above ys) (by omega) (by omega) hxpairs.2 hypairs.2 h
      have hneighbours := eq_of_map_eq _ (neighbours xs) (neighbours ys)
        (fun p hp q hq => hapart p (hxpairs.1 hp) q (hypairs.1 hq)) habove
      exact neighbours_inj xs ys (by omega) (by omega) hneighbours

/-- Trees with room for as many chunks have the same chunk at every leaf if
    their roots are equal. -/
theorem getD_eq_of_fullRoot_eq (pairs : List (Bytes × Bytes)) (hapart : Apart pairs)
    (hzero : zeroPairs ⊆ pairs) (limit : Nat) (xs ys : List Bytes)
    (hx : xs.length ≤ limit) (hy : ys.length ≤ limit) (hroom : limit ≤ 2 ^ maxDepth)
    (hxpairs : rootPairs xs (some limit) ⊆ pairs) (hypairs : rootPairs ys (some limit) ⊆ pairs)
    (h : fullRoot limit (fun i => xs.getD i Chunk.zero)
      = fullRoot limit fun i => ys.getD i Chunk.zero) (i : Nat) :
    xs.getD i Chunk.zero = ys.getD i Chunk.zero := by
  have hwidth := Nat.le_pow_clog (b := 2) (by omega) limit
  have hdepth := clog_le_maxDepth hroom
  -- The full trees are compared, all of whose pairs are listed.
  have hlisted : ∀ zs : List Bytes, zs.length ≤ limit → rootPairs zs (some limit) ⊆ pairs →
      foldPairs (Nat.clog 2 limit) (fullLeaves limit fun i => zs.getD i Chunk.zero) ⊆ pairs := by
    intro zs hz hzpairs
    rw [rootPairs, Int.toNat_natCast, depthFor_eq_clog] at hzpairs
    rw [fullLeaves, map_range_getD _ _ zs (by omega)]
    intro pair hpair
    have hmem := foldPairs_padded 0 _ zs (by omega) (by omega) hpair
    rcases List.mem_append.mp hmem with hclimbed | hkept
    · exact hzpairs hclimbed
    · exact hzero hkept
  have hleaves := fold_inj pairs hapart _ _ _ (length_fullLeaves limit _)
    (length_fullLeaves limit _) (hlisted xs hx hxpairs) (hlisted ys hy hypairs) h
  -- There are no chunks beyond the leaves.
  by_cases hi : i < 2 ^ Nat.clog 2 limit
  · exact (List.map_inj_left.mp hleaves) i (List.mem_range.mpr hi)
  · rw [List.getD_eq_default xs _ (by omega), List.getD_eq_default ys _ (by omega)]

theorem rootPairs_none (chunks : List Bytes) :
    rootPairs chunks none = rootPairs chunks (some chunks.length) := by
  rw [rootPairs, rootPairs, Int.toNat_natCast]

end Merkle

namespace Chunk

/-- The leaves tell the byte at every place. -/
theorem leafAt_inj (f g : Nat → UInt8) (h : ∀ i, leafAt f i = leafAt g i) (k : Nat) :
    f k = g k := by
  have hplace := (List.map_inj_left.mp (h (k / size))) (k % size)
    (List.mem_range.mpr (Nat.mod_lt k (by decide)))
  rwa [Nat.div_add_mod] at hplace

/-- Bytes of one length are told apart by their chunks. -/
theorem ofBytes_inj (a b : Bytes) (hlen : a.length = b.length)
    (h : ∀ i, (ofBytes a).getD i zero = (ofBytes b).getD i zero) : a = b := by
  refine Merkle.eq_of_getD_eq 0 a b hlen (leafAt_inj _ _ fun i => ?_)
  rw [← getD_ofBytes, ← getD_ofBytes, h i]

/-- Bits of one count are told apart by their chunks. -/
theorem ofBits_inj (a b : List Bool) (hlen : a.length = b.length)
    (h : ∀ i, (ofBits a).getD i zero = (ofBits b).getD i zero) : a = b := by
  have hroom : b.length ≤ 8 * needed b.length 8 := by
    rw [needed]
    omega
  have hbyte : ∀ k, bitByte a k = bitByte b k := leafAt_inj _ _ fun i => by
    rw [← getD_ofBits, ← getD_ofBits, h i]
  have hfill : Bits.fill (needed b.length 8) a = Bits.fill (needed b.length 8) b := by
    refine Merkle.eq_of_getD_eq 0 _ _ (by rw [Bits.length_fill, Bits.length_fill]) fun k => ?_
    rw [getD_fill _ a k (by omega), getD_fill _ b k hroom, hbyte k]
  -- Unpacked again, both are followed by equally many zeros.
  have hunpacked := congrArg Bits.ofBytes hfill
  rw [Bits.ofBytes_fill _ a (by omega), Bits.ofBytes_fill _ b hroom] at hunpacked
  exact (List.append_inj hunpacked hlen).1

end Chunk

namespace Bytes

/-- A number that fits in a width is told by its bytes. -/
theorem ofNat_inj (width m n : Nat) (hm : m < Nat.pow 256 width) (hn : n < Nat.pow 256 width)
    (h : ofNat width m = ofNat width n) : m = n := by
  have hnat := congrArg toNat h
  rwa [toNat_ofNat, toNat_ofNat, Nat.mod_eq_of_lt hm, Nat.mod_eq_of_lt hn] at hnat

end Bytes

namespace Schema

open Merkle

/-- Numbers of one width are told apart by their bytes. -/
theorem numberBytes_inj (name : String) (bits : Nat) (vs ws : List Value)
    (h : (uint name bits).every whole = true) (hvs : ∀ v ∈ vs, (uint name bits).Admits v)
    (hws : ∀ w ∈ ws, (uint name bits).Admits w) (hlen : vs.length = ws.length)
    (hbytes : numberBytes (bits / 8) vs = numberBytes (bits / 8) ws) : vs = ws := by
  induction vs generalizing ws with
  | nil => exact (List.eq_nil_of_length_eq_zero hlen.symm).symm
  | cons v vs ih =>
      cases ws with
      | nil => exact absurd hlen (Nat.succ_ne_zero _)
      | cons w ws =>
          rw [List.forall_mem_cons] at hvs hws
          rw [numberBytes, numberBytes, List.flatMap_cons, List.flatMap_cons] at hbytes
          obtain ⟨hfirst, hrest⟩ := List.append_inj hbytes (by rw [Bytes.length_ofNat,
            Bytes.length_ofNat])
          cases v with
          | uint m =>
              cases w with
              | uint n =>
                  have hm := lt_pow_of_whole name bits m h hvs.1
                  have hn := lt_pow_of_whole name bits n h hws.1
                  rw [ih ws hvs.2 hws.2 (Nat.succ.inj hlen) hrest,
                    Bytes.ofNat_inj (bits / 8) m n hm hn hfirst]
              | _ => exact hws.1.elim
          | _ => exact hvs.1.elim

/-- The pairs of a sequence are pairs of its elements too, where these have
    roots of their own. -/
theorem hashed_subset (element : Schema) (vs : List Value) (pairs : List (Bytes × Bytes))
    (hnone : element.sharedSize? = none)
    (h : elementsHashed element (vs.flatMap element.hashed) ⊆ pairs) (v : Value) (hv : v ∈ vs) :
    element.hashed v ⊆ pairs := by
  rw [elementsHashed, hnone] at h
  intro pair hpair
  exact h (List.mem_flatMap.mpr ⟨v, hv, hpair⟩)

section

variable (pairs : List (Bytes × Bytes)) (hapart : Apart pairs) (hzero : zeroPairs ⊆ pairs)

include hapart

/-- A root and a count that were mixed are told by what they were mixed to. -/
theorem mixed_inj (a b : Bytes) (m n : Nat) (hm : m < Nat.pow 256 Chunk.size)
    (hn : n < Nat.pow 256 Chunk.size) (ha : (a, Bytes.ofNat Chunk.size m) ∈ pairs)
    (hb : (b, Bytes.ofNat Chunk.size n) ∈ pairs) (h : mixed a m = mixed b n) : a = b ∧ m = n := by
  have hpair := hapart _ ha _ hb h
  rw [Prod.mk.injEq] at hpair
  exact ⟨hpair.1, Bytes.ofNat_inj Chunk.size m n hm hn hpair.2⟩

include hzero

/-- Nodes of one number are told by the root over them. -/
theorem nodesRoot_inj (room : Nat) (xs ys : List Bytes) (hlen : xs.length = ys.length)
    (hx : xs.length ≤ room) (hroom : room ≤ 2 ^ maxDepth)
    (hxpairs : rootPairs xs (some room) ⊆ pairs) (hypairs : rootPairs ys (some room) ⊆ pairs)
    (h : nodesRoot room xs = nodesRoot room ys) : xs = ys :=
  eq_of_getD_eq Chunk.zero xs ys hlen
    (getD_eq_of_fullRoot_eq pairs hapart hzero room xs ys hx (hlen ▸ hx) hroom hxpairs hypairs h)

/-- Bytes of one length are told by the root over them. -/
theorem bytesRoot_inj (units : Nat) (a b : Bytes) (hlen : a.length = b.length)
    (ha : a.length ≤ units) (hroom : Chunk.needed units Chunk.size ≤ 2 ^ maxDepth)
    (hapairs : rootPairs (Chunk.ofBytes a) (some (Chunk.needed units Chunk.size)) ⊆ pairs)
    (hbpairs : rootPairs (Chunk.ofBytes b) (some (Chunk.needed units Chunk.size)) ⊆ pairs)
    (h : bytesRoot units a = bytesRoot units b) : a = b := by
  simp only [bytesRoot, ← funext (Chunk.getD_ofBytes _)] at h
  refine Chunk.ofBytes_inj a b hlen
    (getD_eq_of_fullRoot_eq pairs hapart hzero _ _ _ ?_ ?_ hroom hapairs hbpairs h)
  · rw [Chunk.length_ofBytes]
    exact Chunk.needed_mono _ ha
  · rw [Chunk.length_ofBytes, ← hlen]
    exact Chunk.needed_mono _ ha

/-- Bits of one count are told by the root over them. -/
theorem bitsRoot_inj (units : Nat) (a b : List Bool) (hlen : a.length = b.length)
    (ha : a.length ≤ units) (hroom : Chunk.needed units Chunk.bits ≤ 2 ^ maxDepth)
    (hapairs : rootPairs (Chunk.ofBits a) (some (Chunk.needed units Chunk.bits)) ⊆ pairs)
    (hbpairs : rootPairs (Chunk.ofBits b) (some (Chunk.needed units Chunk.bits)) ⊆ pairs)
    (h : bitsRoot units a = bitsRoot units b) : a = b := by
  simp only [bitsRoot, ← funext (Chunk.getD_ofBits _)] at h
  refine Chunk.ofBits_inj a b hlen
    (getD_eq_of_fullRoot_eq pairs hapart hzero _ _ _ ?_ ?_ hroom hapairs hbpairs h)
  · rw [Chunk.length_ofBits]
    exact Chunk.needed_mono _ ha
  · rw [Chunk.length_ofBits, ← hlen]
    exact Chunk.needed_mono _ ha

/-- Elements of one number are told by the root over them, if their own roots
    tell them where they have any. -/
theorem elementsRoot_inj (element : Schema) (capacity : Nat) (vs ws : List Value)
    (h : element.every whole = true) (hvs : ∀ v ∈ vs, element.Admits v)
    (hws : ∀ w ∈ ws, element.Admits w) (hlen : vs.length = ws.length)
    (hcap : vs.length ≤ capacity) (hroom : element.room capacity ≤ 2 ^ maxDepth)
    (hvpairs : rootPairs (elementLeaves element vs (vs.map element.reference))
      (some (element.room capacity)) ⊆ pairs)
    (hwpairs : rootPairs (elementLeaves element ws (ws.map element.reference))
      (some (element.room capacity)) ⊆ pairs)
    (hown : element.sharedSize? = none → ∀ v ∈ vs, ∀ w ∈ ws,
      element.reference v = element.reference w → v = w)
    (heq : elementsRoot element capacity vs (vs.map element.reference)
      = elementsRoot element capacity ws (ws.map element.reference)) : vs = ws := by
  rw [room] at hroom hvpairs hwpairs
  rw [elementLeaves] at hvpairs hwpairs
  rw [elementsRoot, elementsRoot] at heq
  rcases hshared : element.sharedSize? with _ | size
  · rw [hshared] at hroom hvpairs hwpairs heq
    refine eq_of_map_eq element.reference vs ws (hown hshared) ?_
    exact nodesRoot_inj pairs hapart hzero capacity _ _
      (by rw [List.length_map, List.length_map, hlen]) (by rwa [List.length_map]) hroom
      hvpairs hwpairs heq
  · -- Numbers that share chunks are told by their bytes, and have no pairs of their own.
    rw [hshared] at hroom hvpairs hwpairs heq
    obtain ⟨name, bits, rfl, rfl⟩ := eq_uint_of_sharedSize? hshared
    refine numberBytes_inj name bits vs ws h hvs hws hlen ?_
    refine bytesRoot_inj pairs hapart hzero _ _ _ ?_ ?_ hroom hvpairs hwpairs heq
    · rw [length_numberBytes, length_numberBytes, hlen]
    · rw [length_numberBytes]
      exact Nat.mul_le_mul_right _ hcap

end

mutual

/-- Values are told by their reference roots. -/
theorem eq_of_reference_eq (pairs : List (Bytes × Bytes)) (hapart : Apart pairs)
    (hzero : zeroPairs ⊆ pairs) :
    ∀ (s : Schema) (v w : Value), s.every whole = true →
    s.every roomy = true → s.Admits v → s.Admits w → s.hashed v ⊆ pairs → s.hashed w ⊆ pairs →
    s.reference v = s.reference w → v = w
  | .uint name bits, .uint m, .uint n, h, hroom, hv, hw, hvpairs, hwpairs, heq => by
      simp only [every, roomy, decide_eq_true_eq] at hroom
      simp only [hashed, encode_uint name bits _ h hv, encode_uint name bits _ h hw, given_ok,
        rootPairs_none, Chunk.length_ofBytes, Bytes.length_ofNat] at hvpairs hwpairs
      simp only [reference] at heq
      have hlen := Bytes.length_ofNat (bits / 8)
      have hbytes := bytesRoot_inj pairs hapart hzero _ _ _ (by rw [hlen, hlen])
        (Nat.le_of_eq (hlen m)) hroom hvpairs hwpairs heq
      have hm := lt_pow_of_whole name bits m h hv
      have hn := lt_pow_of_whole name bits n h hw
      rw [Bytes.ofNat_inj (bits / 8) m n hm hn hbytes]
  | .bytes _ length, .bytes a, .bytes b, _, hroom, hv, hw, hvpairs, hwpairs, heq => by
      simp only [every, roomy, decide_eq_true_eq] at hroom
      obtain rfl : a.length = length := hv
      have hlen : b.length = a.length := hw
      simp only [hashed, rootPairs_none, Chunk.length_ofBytes, hlen] at hvpairs hwpairs
      simp only [reference] at heq
      rw [bytesRoot_inj pairs hapart hzero _ a b hlen.symm (Nat.le_refl _) hroom hvpairs hwpairs
        heq]
  | .byteList _ limit, .bytes a, .bytes b, _, hroom, hv, hw, hvpairs, hwpairs, heq => by
      simp only [every, roomy, decide_eq_true_eq] at hroom
      simp only [hashed, root_ofBytes limit _ hv hroom, root_ofBytes limit _ hw hroom, given_ok,
        List.append_subset, List.cons_subset] at hvpairs hwpairs
      simp only [reference] at heq
      -- The count was hashed beside the contents, so both are told apart.
      obtain ⟨hcontents, hlen⟩ := mixed_inj pairs hapart _ _ _ _
        (count_lt_of_needed _ limit _ hv (by decide) hroom)
        (count_lt_of_needed _ limit _ hw (by decide) hroom) hvpairs.2.1 hwpairs.2.1 heq
      rw [bytesRoot_inj pairs hapart hzero limit a b hlen hv hroom hvpairs.1 hwpairs.1 hcontents]
  | .bitvector _ length, .bits a, .bits b, _, hroom, hv, hw, hvpairs, hwpairs, heq => by
      simp only [every, roomy, decide_eq_true_eq] at hroom
      simp only [hashed] at hvpairs hwpairs
      simp only [reference] at heq
      have hlen : a.length = b.length := Eq.trans hv (Eq.symm hw)
      rw [bitsRoot_inj pairs hapart hzero length a b hlen (Nat.le_of_eq hv) hroom hvpairs hwpairs
        heq]
  | .bitlist _ limit, .bits a, .bits b, _, hroom, hv, hw, hvpairs, hwpairs, heq => by
      simp only [every, roomy, decide_eq_true_eq] at hroom
      simp only [hashed, root_ofBits limit _ hv hroom, root_ofBits limit _ hw hroom, given_ok,
        List.append_subset, List.cons_subset] at hvpairs hwpairs
      simp only [reference] at heq
      obtain ⟨hcontents, hlen⟩ := mixed_inj pairs hapart _ _ _ _
        (count_lt_of_needed _ limit _ hv (by decide) hroom)
        (count_lt_of_needed _ limit _ hw (by decide) hroom) hvpairs.2.1 hwpairs.2.1 heq
      rw [bitsRoot_inj pairs hapart hzero limit a b hlen hv hroom hvpairs.1 hwpairs.1 hcontents]
  | .vector _ element length, .row vs, .row ws, h, hroom, hv, hw, hvpairs, hwpairs, heq => by
      simp only [every, roomy, Bool.and_eq_true, decide_eq_true_eq] at h hroom
      have hvroots := fun v hmem => root_eq element v h.2 hroom.2 (hv.2 v hmem)
      have hwroots := fun w hmem => root_eq element w h.2 hroom.2 (hw.2 w hmem)
      simp only [hashed, elementChunks_eq element vs h.2 hv.2 hvroots,
        elementChunks_eq element ws h.2 hw.2 hwroots, given_ok,
        List.append_subset] at hvpairs hwpairs
      simp only [reference] at heq
      have hlen : vs.length = ws.length := Eq.trans hv.1 (Eq.symm hw.1)
      refine congrArg Value.row (elementsRoot_inj pairs hapart hzero element length vs ws h.2
        hv.2 hw.2 hlen (Nat.le_of_eq hv.1) hroom.1 hvpairs.2 hwpairs.2 ?_ heq)
      intro hnone v hvmem w hwmem
      have hvown := hashed_subset element vs pairs hnone hvpairs.1 v hvmem
      have hwown := hashed_subset element ws pairs hnone hwpairs.1 w hwmem
      exact eq_of_reference_eq pairs hapart hzero element v w h.2 hroom.2 (hv.2 v hvmem)
        (hw.2 w hwmem) hvown hwown
  | .list _ element limit, .row vs, .row ws, h, hroom, hv, hw, hvpairs, hwpairs, heq => by
      simp only [every, roomy, Bool.and_eq_true, decide_eq_true_eq] at h hroom
      have hvroots := fun v hmem => root_eq element v h.2 hroom.2 (hv.2 v hmem)
      have hwroots := fun w hmem => root_eq element w h.2 hroom.2 (hw.2 w hmem)
      simp only [hashed, elementChunks_eq element vs h.2 hv.2 hvroots,
        elementChunks_eq element ws h.2 hw.2 hwroots, given_ok,
        root_elementLeaves element limit vs hv.1 hroom.1,
        root_elementLeaves element limit ws hw.1 hroom.1,
        List.append_subset, List.cons_subset] at hvpairs hwpairs
      simp only [reference] at heq
      obtain ⟨hcontents, hlen⟩ := mixed_inj pairs hapart _ _ _ _
        (count_lt_of_room element limit _ h.2 hv.1 hroom.1)
        (count_lt_of_room element limit _ h.2 hw.1 hroom.1) hvpairs.2.1 hwpairs.2.1 heq
      refine congrArg Value.row (elementsRoot_inj pairs hapart hzero element limit vs ws h.2
        hv.2 hw.2 hlen hv.1 hroom.1 hvpairs.1.2 hwpairs.1.2 ?_ hcontents)
      intro hnone v hvmem w hwmem
      have hvown := hashed_subset element vs pairs hnone hvpairs.1.1 v hvmem
      have hwown := hashed_subset element ws pairs hnone hwpairs.1.1 w hwmem
      exact eq_of_reference_eq pairs hapart hzero element v w h.2 hroom.2 (hv.2 v hvmem)
        (hw.2 w hwmem) hvown hwown
  | .container name fields, .row vs, .row ws, h, hroom, hv, hw, hvpairs, hwpairs, heq => by
      simp only [every, roomy, Bool.and_eq_true, decide_eq_true_eq] at h hroom
      have hvlen := length_referenceAll fields vs hv
      have hwlen := length_referenceAll fields ws hw
      simp only [hashed, rootAll_eq name fields _ h.2 hroom.2 hv,
        rootAll_eq name fields _ h.2 hroom.2 hw, given_ok, rootPairs_none, hvlen, hwlen,
        List.append_subset] at hvpairs hwpairs
      simp only [reference] at heq
      have hnodes := nodesRoot_inj pairs hapart hzero _ _ _ (by rw [hvlen, hwlen])
        (Nat.le_of_eq hvlen) hroom.1 hvpairs.2 hwpairs.2 heq
      rw [eq_of_referenceAll_eq pairs hapart hzero fields vs ws h.2 hroom.2 hv hw hvpairs.1
        hwpairs.1 hnodes]
  | .unfinished _ _, _, _, h, _, _, _, _, _, _ => absurd h (by simp only [every, whole,
      Bool.false_eq_true, not_false_eq_true])

theorem eq_of_referenceAll_eq (pairs : List (Bytes × Bytes)) (hapart : Apart pairs)
    (hzero : zeroPairs ⊆ pairs) :
    ∀ (fields : Fields) (vs ws : List Value),
    everyField whole fields = true → everyField roomy fields = true → AdmitsAll fields vs →
    AdmitsAll fields ws → hashedAll fields vs ⊆ pairs → hashedAll fields ws ⊆ pairs →
    referenceAll fields vs = referenceAll fields ws → vs = ws
  | .nil, [], [], _, _, _, _, _, _, _ => rfl
  | .cons _ type rest, v :: vs, w :: ws, h, hroom, hv, hw, hvpairs, hwpairs, heq => by
      simp only [everyField, Bool.and_eq_true] at h hroom
      rw [hashedAll, List.append_subset] at hvpairs hwpairs
      rw [referenceAll, referenceAll, List.cons.injEq] at heq
      rw [eq_of_reference_eq pairs hapart hzero type v w h.1 hroom.1 hv.1 hw.1 hvpairs.1 hwpairs.1
          heq.1,
        eq_of_referenceAll_eq pairs hapart hzero rest vs ws h.2 hroom.2 hv.2 hw.2 hvpairs.2
          hwpairs.2 heq.2]
  | .nil, _ :: _, _, _, _, hv, _, _, _, _ | .cons _ _ _, [], _, _, _, hv, _, _, _, _ => hv.elim
  | .nil, [], _ :: _, _, _, _, hw, _, _, _ | .cons _ _ _, _ :: _, [], _, _, _, hw, _, _, _ =>
      hw.elim

end

/-- Different values of a type have different roots, or a collision was met. -/
theorem ne_or_collides (s : Schema) (v w : Value) (h : s.every whole = true)
    (hroom : s.every roomy = true) (hv : s.Admits v) (hw : s.Admits w) (hne : v ≠ w) :
    s.root v ≠ s.root w ∨ Collides (s.hashed v ++ s.hashed w ++ zeroPairs) := by
  by_cases hcollides : Collides (s.hashed v ++ s.hashed w ++ zeroPairs)
  · exact Or.inr hcollides
  · refine Or.inl fun heq => hne ?_
    have hleft : ∀ p ∈ s.hashed v ++ s.hashed w ++ zeroPairs, p.1.length = Chunk.size := by
      intro p hp
      rcases List.mem_append.mp hp with hvalues | hzero
      · rcases List.mem_append.mp hvalues with hfirst | hsecond
        · exact length_left s v h hroom hv p hfirst
        · exact length_left s w h hroom hw p hsecond
      · exact length_left_zeroPairs p hzero
    have hapart := apart_of_not_collides _ hleft hcollides
    rw [root_eq s v h hroom hv, root_eq s w h hroom hw, Except.ok.injEq] at heq
    exact eq_of_reference_eq _ hapart (List.subset_append_right _ _) s v w h hroom hv hw
      (fun p hp => List.mem_append_left _ (List.mem_append_left _ hp))
      (fun p hp => List.mem_append_left _ (List.mem_append_right _ hp)) heq

/-- Different values of a well-formed type have different roots, unless two
    different messages that were hashed for them or for the zero subtrees have
    the same hash. In particular two blocks of one fork share a root through
    such a collision only. -/
theorem root_ne_or_collides :
    (∀ (s : Schema) (v w : Value), s.WellFormed → s.Roomy → s.Admits v → s.Admits w → v ≠ w →
      s.root v ≠ s.root w ∨ Collides (s.hashed v ++ s.hashed w ++ zeroPairs)) ∧
    ∀ (fork : Fork) (v w : Value), fork.block.Admits v → fork.block.Admits w → v ≠ w →
      fork.block.root v ≠ fork.block.root w ∨
        Collides (fork.block.hashed v ++ fork.block.hashed w ++ zeroPairs) := by
  refine ⟨ne_or_collides, ?_⟩
  intro fork v w
  exact ne_or_collides fork.block v w (block_wellFormed fork) (block_roomy fork)

/-- Values whose leaves are all zero and whose counts alone differ. -/
theorem root_ne_or_collides_zeros :
    let s := record "Ballot" [("numbers", .list "Numbers" (.uint "uint8" 8) (2 ^ 40)),
      ("marks", .bitlist "Marks" 300)]
    let v := Value.row [.row [.uint 0], .bits [false, false]]
    let w := Value.row [.row [.uint 0, .uint 0], .bits []]
    s.WellFormed ∧ s.Roomy ∧ s.Admits v ∧ s.Admits w ∧ v ≠ w ∧
      (s.root v ≠ s.root w ∨ Collides (s.hashed v ++ s.hashed w ++ zeroPairs)) := by
  intro s v w
  have hwhole : s.WellFormed := by decide
  have hroom : s.Roomy := by decide
  have hv : s.Admits v := by decide
  have hw : s.Admits w := by decide
  have hne : v ≠ w := by decide
  exact ⟨hwhole, hroom, hv, hw, hne, root_ne_or_collides.1 s v w hwhole hroom hv hw hne⟩

end Schema

end Beacon
