import Beacon.Block.Basic
import Beacon.Proofs.Merkle.Hashed
import Beacon.Proofs.Ssz.Blank

/-!
# A Block and Its Header

The header of a block is the block in short: the body is replaced by its root,
and everything else stays. The two have the same root, and this is why a header
can stand for its block, in a blob sidecar for instance.

The tree of a container is built over the roots of its fields. So the roots of
block and header agree if the roots of their fields do, and only the last field
differs. There the block has the body, and the header has a string of thirty-two
bytes. Such a string fills one chunk, and the root of a single chunk is that chunk
(`root_bytes32`), so the root of the last field is the body's root in both of them.

## Main definitions

* `Schema.shortened`: The message of a block with its body replaced by a root.
* `Block.header`: The header of a block.
* `Fork.blankAt`: A block with a slot and nothing else.

## Theorems

* `Schema.root_bytes32`: A chunk is its own root.
* `Schema.root_shortened`: A message and its short form have the same root.
* `Block.root_header`: A block has a header and a root, and the header has the
  same root.
-/

namespace Beacon

namespace Schema

theorem admits_container_iff {name : String} {fields : Fields} {v : Value} :
    (container name fields).Admits v ↔ ∃ vs, v = .row vs ∧ AdmitsAll fields vs := by
  cases v <;> simp [Admits]

theorem admitsAll_nil_iff {vs : List Value} : AdmitsAll .nil vs ↔ vs = [] := by
  cases vs <;> simp [AdmitsAll]

theorem admitsAll_cons_iff {name : String} {type : Schema} {rest : Fields} {vs : List Value} :
    AdmitsAll (.cons name type rest) vs ↔
      ∃ v more, vs = v :: more ∧ type.Admits v ∧ AdmitsAll rest more := by
  cases vs <;> simp [AdmitsAll]

/-- A chunk is its own root. -/
theorem root_bytes32 (bs : Bytes) (h : bs.length = Chunk.size) :
    bytes32.root (.bytes bs) = .ok bs := by
  -- There is one piece, and it needs no filling.
  have hchunk : Chunk.ofBytes bs = [bs] := by
    have htake : bs.take Chunk.size = bs := List.take_of_length_le (by omega)
    have hone : Chunk.needed Chunk.size Chunk.size = 1 := rfl
    unfold Chunk.ofBytes
    rw [h, hone, Chunk.split, Chunk.split]
    simp only [htake, h, Nat.sub_self]
    rw [Bytes.zeros, List.replicate_zero, List.append_nil]
  unfold bytes32
  rw [root, hchunk]
  rfl

/-- The message of a block with its body replaced by a root. What is no message is
    left as it is. -/
def shortened (root : Bytes) : Value → Value
  | .row [slot, proposer, parent, state, _] => .row [slot, proposer, parent, state, .bytes root]
  | v => v

/-- A message and its short form have the same root. -/
theorem root_shortened {body : Schema} {slot proposer parent state contents : Value}
    {bodyRoot : Bytes} (hbody : body.root contents = .ok bodyRoot)
    (hlen : bodyRoot.length = Chunk.size) :
    Operation.blockHeader.root (.row [slot, proposer, parent, state, .bytes bodyRoot])
      = (Fork.blockOf body).root (.row [slot, proposer, parent, state, contents]) := by
  unfold Operation.blockHeader Fork.blockOf record
  simp only [Fields.ofList, root, rootAll]
  rw [root_bytes32 bodyRoot hlen, hbody]

end Schema

namespace Fork

open Schema

theorem body_wellFormed (fork : Fork) : fork.body.WellFormed := by
  cases fork <;> decide

theorem body_roomy (fork : Fork) : fork.body.Roomy := by
  cases fork <;> decide

/-- A block with a slot and nothing else. -/
def blankAt (fork : Fork) (slot : Nat) : Value :=
  let root := Value.bytes (Bytes.zeros 32)
  .row [.row [.uint slot, .uint 0, root, root, fork.body.blank], .bytes (Bytes.zeros 96)]

theorem blankAt_admitted (fork : Fork) (slot : Nat) (h : slot < Nat.pow 2 64) :
    fork.signedBlock.Admits (fork.blankAt slot) := by
  have hroot : bytes32.Admits (.bytes (Bytes.zeros 32)) := Bytes.length_zeros 32
  have hsignature : bytes96.Admits (.bytes (Bytes.zeros 96)) := Bytes.length_zeros 96
  have hbody := blank_admitted fork.body (body_wellFormed fork)
  exact ⟨⟨h, by decide, hroot, hroot, hbody, trivial⟩, hsignature, trivial⟩

end Fork

namespace Block

open Schema Fork

/-- The header of a block. -/
def header (b : Block) : Except RootFault Value :=
  b.bodyRoot.map fun root => shortened root b.message.value

/-- What a signed block is made of. -/
theorem parts_of_admits {b : Block} (h : b.fork.signedBlock.Admits b.signed) :
    ∃ slot proposer parent state body,
      b.message = ⟨b.fork.block, .row [slot, proposer, parent, state, body]⟩ ∧
      b.body = ⟨b.fork.body, body⟩ ∧
      b.fork.block.Admits (.row [slot, proposer, parent, state, body]) := by
  rcases admits_container_iff.mp h with ⟨parts, hsigned, hparts⟩
  simp only [Fields.ofList, admitsAll_cons_iff, admitsAll_nil_iff] at hparts
  rcases hparts with ⟨message, _, rfl, hmessage, signature, _, rfl, -, rfl⟩
  rcases admits_container_iff.mp hmessage with ⟨fields, rfl, hfields⟩
  simp only [Fields.ofList, admitsAll_cons_iff, admitsAll_nil_iff] at hfields
  rcases hfields with ⟨slot, _, rfl, -, proposer, _, rfl, -, parent, _, rfl, -, state, _, rfl, -,
    body, _, rfl, -, rfl⟩
  refine ⟨slot, proposer, parent, state, body, ?_, ?_, hmessage⟩
  · unfold message typed
    rw [hsigned]
    rfl
  · unfold Block.body typed
    rw [hsigned]
    rfl

/-- A block that belongs to its fork has a header and a root, and the header has the
    same root. -/
theorem root_header {b : Block} (h : b.fork.signedBlock.Admits b.signed) :
    ∃ header root, b.header = .ok header ∧ Operation.blockHeader.Admits header ∧
      b.root = .ok root ∧ Operation.blockHeader.root header = .ok root := by
  rcases parts_of_admits h with ⟨slot, proposer, parent, state, body, hmessage, hbodyPart, hblock⟩
  have hparts := hblock
  rcases hparts with ⟨hslot, hproposer, hparent, hstate, hbody, -⟩
  have hbodyRoot := root_eq _ body (body_wellFormed b.fork) (body_roomy b.fork) hbody
  have hlen := length_reference _ body (body_wellFormed b.fork) hbody
  have hroot := root_eq _ _ (block_wellFormed b.fork) (block_roomy b.fork) hblock
  generalize b.fork.body.reference body = bodyRoot at hbodyRoot hlen
  generalize b.fork.block.reference _ = root at hroot
  refine ⟨.row [slot, proposer, parent, state, .bytes bodyRoot], root, ?_, ?_, ?_, ?_⟩
  · unfold header Block.bodyRoot
    rw [hbodyPart, hbodyRoot, hmessage]
    rfl
  · exact ⟨hslot, hproposer, hparent, hstate, hlen, trivial⟩
  · unfold Block.root
    rw [hmessage]
    exact hroot
  · rw [root_shortened hbodyRoot hlen]
    exact hroot

end Block

end Beacon
