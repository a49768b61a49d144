import Beacon.Merkle.Root
import Beacon.Proofs.Merkle.Leaves
import Beacon.Proofs.Ssz.EncodedSize

/-!
# The Root in Full

The root that a value is meant to have, and that it has it.

`reference` reads the root off the type. It follows the type's structure,
builds every tree with all of its leaves and cannot fail: a number and a byte
string stand at the leaves byte by byte, a bit string bit by bit, and of
numbers in a sequence the bytes stand there one number after the other, while
any other element and every field stands at a leaf by its own root. The tree of
a sequence has room for as much as the type allows, whatever the value holds,
and the count is mixed in where the type leaves it open.

The computed root stops at the chunks there are, so what has to be shown for
each kind of type is that these are no more than there is room for, and that
there is room for no more than trees of the kept zero subtrees have. The first
follows from the value belonging to its type, since chunks are counted by the
same rounded-up division on both sides (`Chunk.needed_mono`). The second is a
condition on the type alone, `Roomy`: no type nested in it asks for more than
`2 ^ maxDepth` chunks. Fields count as chunks as well; no container has that
many, but nothing in the type language forbids it.

## Main definitions

* `Roomy`: No nested type asks for more chunks than trees have room for.
* `numberBytes`: The bytes of numbers that share chunks.
* `reference`: The root of a value, with nothing left out.

## Theorems

* `encodeRow_numbers`: The encoding of numbers that share chunks.
* `root_eq`, `rootAll_eq`: The computed root is the reference root.
* `root_eq_reference`: A value of a type has its reference root.
-/

namespace Beacon

namespace Schema

open Outcome Merkle

/-- Whether a type, its parts aside, asks for no more chunks than the trees of
    the kept zero subtrees have room for. -/
def roomy : Schema → Bool
  | .uint _ bits => Chunk.needed (bits / 8) Chunk.size ≤ 2 ^ maxDepth
  | .bytes _ length => Chunk.needed length Chunk.size ≤ 2 ^ maxDepth
  | .byteList _ limit => Chunk.needed limit Chunk.size ≤ 2 ^ maxDepth
  | .bitvector _ length => Chunk.needed length Chunk.bits ≤ 2 ^ maxDepth
  | .bitlist _ limit => Chunk.needed limit Chunk.bits ≤ 2 ^ maxDepth
  | .vector _ element length => element.room length ≤ 2 ^ maxDepth
  | .list _ element limit => element.room limit ≤ 2 ^ maxDepth
  | .container _ fields => fields.toList.length ≤ 2 ^ maxDepth
  | .unfinished _ _ => true

/-- No type, at any depth, asks for more chunks than trees have room for. -/
def Roomy (s : Schema) : Prop := s.every roomy = true

instance (s : Schema) : Decidable s.Roomy := inferInstanceAs (Decidable (_ = true))

/-- The number that a value is, other values counting as zero. -/
def number : Value → Nat
  | .uint n => n
  | _ => 0

/-- The bytes of numbers of `size` bytes each, one after the other. -/
def numberBytes (size : Nat) (vs : List Value) : Bytes :=
  vs.flatMap fun v => Bytes.ofNat size (number v)

/-- The root of the full tree with room for `units` bytes, over the bytes that
    are there. -/
def bytesRoot (units : Nat) (data : Bytes) : Bytes :=
  fullRoot (Chunk.needed units Chunk.size) (Chunk.leafAt fun k => data.getD k 0)

/-- The root of the full tree with room for `units` bits, over the bits that are
    there. -/
def bitsRoot (units : Nat) (bs : List Bool) : Bytes :=
  fullRoot (Chunk.needed units Chunk.bits) (Chunk.leafAt (Chunk.bitByte bs))

/-- The root of the full tree with room for `room` nodes, over the nodes that
    are there. -/
def nodesRoot (room : Nat) (nodes : List Bytes) : Bytes :=
  fullRoot room fun i => nodes.getD i Chunk.zero

/-- A root with a count mixed in. -/
def mixed (root : Bytes) (count : Nat) : Bytes :=
  hashPair root (Bytes.ofNat Chunk.size count)

/-- The root of the full tree with room for `capacity` elements, `roots` being
    their own roots. -/
def elementsRoot (element : Schema) (capacity : Nat) (vs : List Value) (roots : List Bytes) :
    Bytes :=
  match element.sharedSize? with
  | some size => bytesRoot (capacity * size) (numberBytes size vs)
  | none => nodesRoot capacity roots

mutual

/-- The root of a value of a type, with every leaf of every tree. What is no
    value of the type has no root, and the answer for it is of no meaning. -/
def reference : Schema → Value → Bytes
  | .uint _ bits, .uint n => bytesRoot (bits / 8) (Bytes.ofNat (bits / 8) n)
  | .bytes _ length, .bytes bs => bytesRoot length bs
  | .byteList _ limit, .bytes bs => mixed (bytesRoot limit bs) bs.length
  | .bitvector _ length, .bits bs => bitsRoot length bs
  | .bitlist _ limit, .bits bs => mixed (bitsRoot limit bs) bs.length
  | .vector _ element length, .row vs =>
      elementsRoot element length vs (vs.map element.reference)
  | .list _ element limit, .row vs =>
      mixed (elementsRoot element limit vs (vs.map element.reference)) vs.length
  | .container _ fields, .row vs => nodesRoot fields.toList.length (referenceAll fields vs)
  | _, _ => []

/-- The roots of a container's fields, in their order. -/
def referenceAll : Fields → List Value → List Bytes
  | .cons _ type rest, v :: vs => type.reference v :: referenceAll rest vs
  | _, _ => []

end

/-- The chunks of the elements of a sequence. -/
def elementChunks (element : Schema) (vs : List Value) : Except RootFault (List Bytes) :=
  match element.sharedSize? with
  | some _ => (RootFault.ofEncoding (encodeRow element vs)).map Chunk.ofBytes
  | none => vs.mapM element.root

theorem root_vector (name : String) (element : Schema) (length : Nat) (vs : List Value) :
    (vector name element length).root (.row vs)
      = elementChunks element vs >>= fun chunks =>
        Merkle.root chunks (some (element.room length)) := by
  rw [root, elementChunks]
  simp only [encode_vector]
  cases element.sharedSize? with
  | none => rfl
  | some _ => rfl

theorem root_list (name : String) (element : Schema) (limit : Nat) (vs : List Value) :
    (list name element limit).root (.row vs)
      = elementChunks element vs >>= fun chunks =>
        Merkle.root chunks (some (element.room limit)) >>= fun contents =>
        mixInLength contents vs.length := by
  rw [root, elementChunks]
  simp only [encode_list]
  cases element.sharedSize? with
  | none => rfl
  | some _ => rfl

theorem root_none (chunks : List Bytes) :
    Merkle.root chunks none = Merkle.root chunks (some chunks.length) := by
  have hlen : ¬ ((chunks.length : Nat) : Int) < (chunks.length : Int) := Int.lt_irrefl _
  rw [Merkle.root, Merkle.root, if_neg hlen, Int.toNat_natCast]

/-- Bytes within their limit have the root of the full tree. -/
theorem root_ofBytes (units : Nat) (data : Bytes) (h : data.length ≤ units)
    (hroom : Chunk.needed units Chunk.size ≤ 2 ^ maxDepth) :
    Merkle.root (Chunk.ofBytes data) (some (Chunk.needed units Chunk.size))
      = .ok (bytesRoot units data) := by
  have hlen : (Chunk.ofBytes data).length ≤ Chunk.needed units Chunk.size := by
    rw [Chunk.length_ofBytes]
    exact Chunk.needed_mono _ h
  rw [root_eq_fullRoot _ _ hlen hroom, bytesRoot]
  simp only [Chunk.getD_ofBytes]

/-- Bits within their limit have the root of the full tree. -/
theorem root_ofBits (units : Nat) (bs : List Bool) (h : bs.length ≤ units)
    (hroom : Chunk.needed units Chunk.bits ≤ 2 ^ maxDepth) :
    Merkle.root (Chunk.ofBits bs) (some (Chunk.needed units Chunk.bits))
      = .ok (bitsRoot units bs) := by
  have hlen : (Chunk.ofBits bs).length ≤ Chunk.needed units Chunk.bits := by
    rw [Chunk.length_ofBits]
    exact Chunk.needed_mono _ h
  rw [root_eq_fullRoot _ _ hlen hroom, bitsRoot]
  simp only [Chunk.getD_ofBits]

/-- Bytes of a fixed length have the root of the full tree too, there being as
    many chunks as they need. -/
theorem root_ofBytes_of_length (data : Bytes)
    (hroom : Chunk.needed data.length Chunk.size ≤ 2 ^ maxDepth) :
    Merkle.root (Chunk.ofBytes data) none = .ok (bytesRoot data.length data) := by
  rw [root_none, Chunk.length_ofBytes]
  exact root_ofBytes data.length data (Nat.le_refl _) hroom

/-- A count of units that a tree has room for fits in a chunk. -/
theorem count_lt_of_needed (count units perChunk : Nat) (hcount : count ≤ units)
    (hper : 0 < perChunk ∧ perChunk ≤ Chunk.bits)
    (hroom : Chunk.needed units perChunk ≤ 2 ^ maxDepth) : count < Nat.pow 256 Chunk.size := by
  -- Rounding up loses no units.
  have hceil : units ≤ Chunk.needed units perChunk * perChunk := by
    have hlt := Nat.lt_div_mul_add hper.1 (a := units + perChunk - 1)
    rw [Chunk.needed]
    omega
  have hunits : units ≤ 2 ^ maxDepth * Chunk.bits :=
    Nat.le_trans hceil (Nat.mul_le_mul hroom hper.2)
  have hwide : 2 ^ maxDepth * Chunk.bits < Nat.pow 256 Chunk.size := by decide
  omega

theorem mixInLength_eq (node : Bytes) (count : Nat) (h : count < Nat.pow 256 Chunk.size) :
    mixInLength node count = .ok (mixed node count) := by
  have hif : mixInLength node count
      = if count < Nat.pow 256 Chunk.size then .ok (mixed node count) else .error .lengthTooWide :=
    rfl
  rw [hif, if_pos h]

theorem eq_uint_of_sharedSize? {element : Schema} {size : Nat}
    (h : element.sharedSize? = some size) :
    ∃ name bits, element = uint name bits ∧ size = bits / 8 := by
  cases element with
  | uint name bits => exact ⟨name, bits, rfl, (Option.some.inj h).symm⟩
  | _ => exact absurd h (by simp only [sharedSize?, reduceCtorEq, not_false_eq_true])

/-- A number fits in the bytes of its type, these being as wide as its bits. -/
theorem lt_pow_of_whole (name : String) (bits n : Nat) (h : (uint name bits).every whole = true)
    (hn : n < Nat.pow 2 bits) : n < Nat.pow 256 (bits / 8) := by
  simp only [every, whole, Bool.and_eq_true, decide_eq_true_eq] at h
  have hbits : 8 * (bits / 8) = bits := by omega
  have hbyte : 256 = 2 ^ 8 := rfl
  rwa [Nat.pow_eq, hbyte, ← Nat.pow_mul, hbits]

theorem encode_uint (name : String) (bits n : Nat) (h : (uint name bits).every whole = true)
    (hn : n < Nat.pow 2 bits) :
    (uint name bits).encode (.uint n) = .ok (Bytes.ofNat (bits / 8) n) := by
  rw [encode, if_pos (lt_pow_of_whole name bits n h hn)]

theorem length_numberBytes (size : Nat) (vs : List Value) :
    (numberBytes size vs).length = vs.length * size := by
  induction vs with
  | nil => rw [numberBytes, List.flatMap_nil, List.length_nil, List.length_nil, Nat.zero_mul]
  | cons v vs ih =>
      rw [numberBytes, List.flatMap_cons, List.length_append, Bytes.length_ofNat, ← numberBytes,
        ih, List.length_cons, Nat.succ_mul, Nat.add_comm]

/-- Numbers that share chunks are encoded one after the other. -/
theorem encodeRow_numbers (name : String) (bits : Nat) (vs : List Value)
    (h : (uint name bits).every whole = true) (hvs : ∀ v ∈ vs, (uint name bits).Admits v) :
    encodeRow (uint name bits) vs = .ok (numberBytes (bits / 8) vs) := by
  refine (encodeRow_eq_ok_iff _ h vs _).mpr
    ⟨vs.map fun v => Bytes.ofNat (bits / 8) (number v), ?_, ?_⟩
  · rw [List.forall₂_map_right_iff, List.forall₂_same]
    intro v hv
    cases v with
    | uint n => exact encode_uint name bits n h (hvs _ hv)
    | _ => exact (hvs _ hv).elim
  · rw [isFixed, Layout.encode_fixed_eq_ok_iff, numberBytes, List.flatMap_def]

/-- The chunks of the elements of a sequence, as the full tree has them: the
    bytes of numbers packed, and any other element by its root. -/
def elementLeaves (element : Schema) (vs : List Value) (roots : List Bytes) : List Bytes :=
  match element.sharedSize? with
  | some size => Chunk.ofBytes (numberBytes size vs)
  | none => roots

theorem elementChunks_eq (element : Schema) (vs : List Value)
    (h : element.every whole = true) (hvs : ∀ v ∈ vs, element.Admits v)
    (hroots : ∀ v ∈ vs, element.root v = .ok (element.reference v)) :
    elementChunks element vs
      = .ok (elementLeaves element vs (vs.map element.reference)) := by
  rw [elementChunks, elementLeaves]
  -- Either the elements have roots of their own, or they are numbers that share chunks.
  rcases hshared : element.sharedSize? with _ | size
  · exact mapM_eq_ok_iff.mpr (List.forall₂_map_right_iff.mpr (List.forall₂_same.mpr hroots))
  · obtain ⟨name, bits, rfl, rfl⟩ := eq_uint_of_sharedSize? hshared
    dsimp only
    rw [encodeRow_numbers name bits vs h hvs]
    rfl

/-- Elements that are no more than a sequence has room for have the root of the
    full tree. -/
theorem root_elementLeaves (element : Schema) (capacity : Nat) (vs : List Value)
    (hvs : vs.length ≤ capacity) (hroom : element.room capacity ≤ 2 ^ maxDepth) :
    Merkle.root (elementLeaves element vs (vs.map element.reference))
        (some (element.room capacity))
      = .ok (elementsRoot element capacity vs (vs.map element.reference)) := by
  rw [room] at hroom ⊢
  rw [elementLeaves, elementsRoot]
  rcases hshared : element.sharedSize? with _ | size
  · rw [hshared] at hroom
    exact root_eq_fullRoot _ _ (by rwa [List.length_map]) hroom
  · rw [hshared] at hroom
    have hlen : (numberBytes size vs).length ≤ capacity * size := by
      rw [length_numberBytes]
      exact Nat.mul_le_mul_right size hvs
    exact root_ofBytes _ _ hlen hroom

/-- A count of elements that a tree has room for fits in a chunk. -/
theorem count_lt_of_room (element : Schema) (limit count : Nat) (h : element.every whole = true)
    (hcount : count ≤ limit) (hroom : element.room limit ≤ 2 ^ maxDepth) :
    count < Nat.pow 256 Chunk.size := by
  rw [room] at hroom
  rcases hshared : element.sharedSize? with _ | size
  · rw [hshared] at hroom
    have hone : Chunk.needed limit 1 ≤ 2 ^ maxDepth := by
      rwa [Chunk.needed, Nat.add_sub_cancel, Nat.div_one]
    exact count_lt_of_needed count limit 1 hcount (by decide) hone
  · obtain ⟨name, bits, rfl, rfl⟩ := eq_uint_of_sharedSize? hshared
    simp only [every, whole, Bool.and_eq_true, decide_eq_true_eq] at h
    rw [hshared] at hroom
    -- A number takes a byte at least, so there are no more numbers than bytes.
    have hbytes : limit ≤ limit * (bits / 8) := Nat.le_mul_of_pos_right limit (by omega)
    exact count_lt_of_needed count _ Chunk.size (Nat.le_trans hcount hbytes) (by decide) hroom

theorem length_referenceAll : ∀ (fields : Fields) (vs : List Value), AdmitsAll fields vs →
    (referenceAll fields vs).length = fields.toList.length
  | .nil, [], _ => rfl
  | .cons _ _ rest, _ :: vs, hadmits => by
      rw [referenceAll, List.length_cons, length_referenceAll rest vs hadmits.2, Fields.toList,
        List.length_cons]
  | .nil, _ :: _, hadmits | .cons _ _ _, [], hadmits => hadmits.elim

mutual

/-- The computed root is the reference root. -/
theorem root_eq : ∀ (s : Schema) (v : Value), s.every whole = true → s.every roomy = true →
    s.Admits v → s.root v = .ok (s.reference v)
  | .uint name bits, .uint n, h, hroom, hadmits => by
      have hlen := Bytes.length_ofNat (bits / 8) n
      simp only [every, roomy, decide_eq_true_eq] at hroom
      rw [root, encode_uint name bits n h hadmits, RootFault.ofEncoding, ok_bind,
        root_ofBytes_of_length _ (by rwa [hlen]), hlen, reference]
  | .bytes _ length, .bytes bs, _, hroom, hadmits => by
      simp only [every, roomy, decide_eq_true_eq] at hroom
      obtain rfl : bs.length = length := hadmits
      rw [root, root_ofBytes_of_length bs hroom, reference]
  | .byteList _ limit, .bytes bs, _, hroom, hadmits => by
      simp only [every, roomy, decide_eq_true_eq] at hroom
      have hcount := count_lt_of_needed bs.length limit Chunk.size hadmits (by decide) hroom
      rw [root, root_ofBytes limit bs hadmits hroom, ok_bind, mixInLength_eq _ _ hcount, reference]
  | .bitvector _ length, .bits bs, _, hroom, hadmits => by
      simp only [every, roomy, decide_eq_true_eq] at hroom
      rw [root, root_ofBits length bs (Nat.le_of_eq hadmits) hroom, reference]
  | .bitlist _ limit, .bits bs, _, hroom, hadmits => by
      simp only [every, roomy, decide_eq_true_eq] at hroom
      have hcount := count_lt_of_needed bs.length limit Chunk.bits hadmits (by decide) hroom
      rw [root, root_ofBits limit bs hadmits hroom, ok_bind, mixInLength_eq _ _ hcount, reference]
  | .vector name element length, .row vs, h, hroom, hadmits => by
      simp only [every, roomy, Bool.and_eq_true, decide_eq_true_eq] at h hroom
      have hchunks := elementChunks_eq element vs h.2 hadmits.2 fun v hv =>
        root_eq element v h.2 hroom.2 (hadmits.2 v hv)
      rw [root_vector, hchunks, ok_bind,
        root_elementLeaves element length vs (Nat.le_of_eq hadmits.1) hroom.1, reference]
  | .list name element limit, .row vs, h, hroom, hadmits => by
      simp only [every, roomy, Bool.and_eq_true, decide_eq_true_eq] at h hroom
      have hchunks := elementChunks_eq element vs h.2 hadmits.2 fun v hv =>
        root_eq element v h.2 hroom.2 (hadmits.2 v hv)
      have hcount := count_lt_of_room element limit vs.length h.2 hadmits.1 hroom.1
      rw [root_list, hchunks, ok_bind, root_elementLeaves element limit vs hadmits.1 hroom.1,
        ok_bind, mixInLength_eq _ _ hcount, reference]
  | .container name fields, .row vs, h, hroom, hadmits => by
      simp only [every, roomy, Bool.and_eq_true, decide_eq_true_eq] at h hroom
      have hlen := length_referenceAll fields vs hadmits
      rw [root, rootAll_eq name fields vs h.2 hroom.2 hadmits, ok_bind,
        root_eq_fullRoot_of_length _ (by rw [hlen]; exact hroom.1), hlen, reference, nodesRoot]
  | .unfinished _ _, _, h, _, _ => absurd h (by simp only [every, whole, Bool.false_eq_true,
      not_false_eq_true])

theorem rootAll_eq : ∀ (name : String) (fields : Fields) (vs : List Value),
    everyField whole fields = true → everyField roomy fields = true → AdmitsAll fields vs →
    rootAll name fields vs = .ok (referenceAll fields vs)
  | _, .nil, [], _, _, _ => rfl
  | name, .cons _ type rest, v :: vs, h, hroom, hadmits => by
      simp only [everyField, Bool.and_eq_true] at h hroom
      rw [rootAll, root_eq type v h.1 hroom.1 hadmits.1, ok_bind,
        rootAll_eq name rest vs h.2 hroom.2 hadmits.2, referenceAll]
      rfl
  | _, .nil, _ :: _, _, _, hadmits => hadmits.elim
  | _, .cons _ _ _, [], _, _, hadmits => hadmits.elim

end

theorem block_wellFormed (fork : Fork) : fork.block.WellFormed := by
  cases fork <;> decide

theorem block_roomy (fork : Fork) : fork.block.Roomy := by
  cases fork <;> decide

/-- Every value of a well-formed type has a root, the reference root, as long as
    no tree needs to be deeper than the kept zero subtrees. No block of any fork
    needs such a tree. -/
theorem root_eq_reference :
    (∀ (s : Schema) (v : Value), s.WellFormed → s.Roomy → s.Admits v →
      s.root v = .ok (s.reference v)) ∧
    ∀ (fork : Fork) (v : Value), fork.block.Admits v →
      fork.block.root v = .ok (fork.block.reference v) := by
  refine ⟨root_eq, ?_⟩
  intro fork v hadmits
  exact root_eq fork.block v (block_wellFormed fork) (block_roomy fork) hadmits

/-- Numbers that fill a part of a chunk, bits beyond one chunk, no bits at all
    and a list with room for more than it holds. -/
theorem root_eq_reference_record :
    let s := record "Tally" [("weights", .list "Weights" (.uint "uint16" 16) (2 ^ 40)),
      ("seen", .bitlist "Seen" 600), ("missed", .bitvector "Missed" 0),
      ("notes", .list "Notes" (.byteList "Note" 40) 5)]
    let v := Value.row [.row [.uint 1, .uint 0], .bits (List.replicate 300 true), .bits [],
      .row [.bytes [7], .bytes [], .bytes (List.replicate 33 0)]]
    s.WellFormed ∧ s.Roomy ∧ s.Admits v ∧ s.root v = .ok (s.reference v) := by
  intro s v
  have hadmits : s.Admits v := by decide +kernel
  have hwhole : s.WellFormed := by decide
  have hroom : s.Roomy := by decide
  exact ⟨hwhole, hroom, hadmits, root_eq_reference.1 s v hwhole hroom hadmits⟩

end Schema

end Beacon
