import Beacon.Proofs.Fork.Header
import Beacon.Proofs.Merkle.Evaluation
import Beacon.Proofs.Service.Changing

/-!
# Whose Sidecars Are Attached

Whether the sidecars that are attached to a block are those of the block.

A block and its sidecars are asked for one after the other, under the same
identifier. The identifier may be a name that moves, as that of the head does, so a
truthful node may reply to the two questions for two different blocks. What is known
of a sidecar is known for the moment of the second question: it carries the header
of the block that the identifier names by then, and so that block's root
(`Sidecar.Belongs.headerRoot_eq`).

So whether the sidecars are those of the block they are attached to is decided by
the roots of two blocks, the fetched one and the one that is named when the sidecars
are asked for (`fetch_attached`). The two roots are the same if the identifier is a
root, since that names no other block (`fetch_by_root`). The head may move between
the questions, and then they are not (`fetch_attaches_later`).

## Main definitions

* `Sidecar.header`, `Sidecar.headerRoot`: The header that a sidecar carries, and its
  root.
* `Sidecar.Belongs`: A sidecar carries the header of a block.
* `Truthful`: Every reply of a node about a block or its sidecars is right when it is
  given.
* `headNode`: A node whose head moves.

## Theorems

* `Sidecar.Belongs.headerRoot_eq`: A sidecar of a block carries a header with the
  block's root.
* `fetch_attached`: Attached sidecars are those of the block that is named when they
  are asked for.
* `fetch_by_root`: Sidecars that are fetched by the root of a block are those of the
  block.
* `fetch_attaches_later`: Sidecars of a later head are attached to an earlier one.
-/

namespace Beacon

namespace Sidecar

/-- The header that a sidecar carries. -/
def header (sidecar : Value) : Typed :=
  (Typed.mk Operation.blobSidecar sidecar).part ["signed_block_header", "message"]

/-- The root of the header that a sidecar carries. -/
def headerRoot (sidecar : Value) : Except RootFault Bytes :=
  (header sidecar).type.root (header sidecar).value

/-- A sidecar is one of a block's: it carries the header of the block. -/
structure Belongs (sidecar : Value) (b : Block) : Prop where
  admitted : Operation.blobSidecar.Admits sidecar
  header : b.header = .ok (header sidecar).value

/-- What a sidecar carries as its header is a header. -/
theorem header_of_admits {sidecar : Value} (h : Operation.blobSidecar.Admits sidecar) :
    (header sidecar).type = Operation.blockHeader := by
  -- The sidecar is taken apart as far as the message of its signed header.
  rcases Schema.admits_container_iff.mp h with ⟨parts, rfl, hparts⟩
  simp only [Fields.ofList, Schema.admitsAll_cons_iff, Schema.admitsAll_nil_iff] at hparts
  rcases hparts with ⟨index, _, rfl, -, blob, _, rfl, -, commitment, _, rfl, -, proof, _, rfl, -,
    signedHeader, _, rfl, hsigned, inclusion, _, rfl, -, rfl⟩
  rcases Schema.admits_container_iff.mp hsigned with ⟨fields, rfl, hfields⟩
  simp only [Fields.ofList, Schema.admitsAll_cons_iff, Schema.admitsAll_nil_iff] at hfields
  rcases hfields with ⟨message, _, rfl, -, signature, _, rfl, -, rfl⟩
  rfl

/-- A sidecar of a block carries a header with the block's root. -/
theorem Belongs.headerRoot_eq {sidecar : Value} {b : Block} (h : Belongs sidecar b)
    (hb : b.fork.signedBlock.Admits b.signed) :
    ∃ root, b.root = .ok root ∧ headerRoot sidecar = .ok root := by
  rcases b.root_header hb with ⟨header, root, hheader, -, hroot, hsame⟩
  refine ⟨root, hroot, ?_⟩
  unfold headerRoot
  rw [header_of_admits h.admitted, ← Except.ok.inj (hheader.symm.trans h.header)]
  exact hsame

/-- A sidecar with a header and nothing else. -/
def blankOf (header : Value) : Value :=
  .row [.uint 0, Operation.blob.blank, Schema.bytes48.blank, Schema.bytes48.blank,
    .row [header, Schema.bytes96.blank], Operation.commitmentProof.blank]

theorem header_blankOf (header : Value) :
    Sidecar.header (blankOf header) = ⟨Operation.blockHeader, header⟩ := rfl

theorem blankOf_admitted {header : Value} (h : Operation.blockHeader.Admits header) :
    Operation.blobSidecar.Admits (blankOf header) := by
  have hblank {s : Schema} (hs : s.WellFormed) : s.Admits s.blank := Schema.blank_admitted s hs
  exact ⟨by decide, hblank (by decide), hblank (by decide), hblank (by decide),
    ⟨h, hblank (by decide), trivial⟩, hblank (by decide), trivial⟩

end Sidecar

namespace Service

/-- Every reply of a node about a block or its sidecars is right when it is given.
    What an identifier names may change with every question: `named` tells the block
    it names after some questions. -/
structure Truthful (node : Node) (named : List Call → Text → Option Block) : Prop where
  admitted : ∀ asked blockId b, named asked blockId = some b →
    b.fork.signedBlock.Admits b.signed ∧ b.sidecars = []
  block : ∀ asked blockId b?, (node.block asked blockId).result = .ok b? →
    named asked blockId = b?
  sidecars : ∀ asked blockId sidecars, (node.sidecars asked blockId).result = .ok sidecars →
    ∀ sidecar ∈ sidecars, ∃ b, named asked blockId = some b ∧ Sidecar.Belongs sidecar b

variable {service : Service} {named : List Call → Text → Option Block} {blockId : Text}
  {withSidecars : Bool} {s s' : State} {b : Block}

/-- What carrying out a fetch comes to is one of the ways that are listed. -/
theorem fetches_of_carry (hb : carry (service.fetch blockId withSidecars) s = (.ok (some b), s')) :
    ∃ added, Fetches service blockId withSidecars s.calls (.ok (some b)) added := by
  rcases carry_fetch service blockId withSidecars s with ⟨ended, added, s₁, hcarry, -, hway⟩
  rw [hb, Prod.mk.injEq] at hcarry
  rw [← hcarry.1] at hway
  exact ⟨added, hway⟩

/-- A fetched block is the one that is named when it is asked for. -/
theorem fetched_of_truthful (h : Truthful service.node named)
    (hb : carry (service.fetch blockId withSidecars) s = (.ok (some b), s')) :
    ∃ c root, named s.calls blockId = some c ∧ c.fork = b.fork ∧ c.signed = b.signed ∧
      b.root = .ok root := by
  rcases fetches_of_carry hb with ⟨added, hway⟩
  cases hway with
  | bare hblock =>
      have hnamed := h.block _ _ _ hblock
      rcases b.root_header (h.admitted _ _ _ hnamed).1 with ⟨-, root, -, -, hroot, -⟩
      exact ⟨b, root, hnamed, rfl, rfl, hroot⟩
  | @attached signed held sidecars _ hblock _ =>
      have hnamed := h.block _ _ _ hblock
      have hroot := (Block.deneb signed held).root_header (h.admitted _ _ _ hnamed).1
      rcases hroot with ⟨-, root, -, -, hroot, -⟩
      exact ⟨_, root, hnamed, rfl, rfl, hroot⟩

/-- An attached sidecar is one of the block that is named when the sidecars are asked
    for. -/
theorem attached_of_truthful (h : Truthful service.node named)
    (hb : carry (service.fetch blockId withSidecars) s = (.ok (some b), s')) :
    ∀ sidecar ∈ b.sidecars, ∃ now root,
      named (s.calls ++ [.block blockId]) blockId = some now ∧ now.root = .ok root ∧
      Sidecar.headerRoot sidecar = .ok root := by
  intro sidecar hmem
  rcases fetches_of_carry hb with ⟨added, hway⟩
  cases hway with
  | bare hblock =>
      -- What the node has replied holds no sidecars.
      rw [(h.admitted _ _ _ (h.block _ _ _ hblock)).2] at hmem
      exact absurd hmem List.not_mem_nil
  | attached _ _ hsidecars =>
      rcases h.sidecars _ _ _ hsidecars sidecar hmem with ⟨now, hnow, hbelongs⟩
      rcases hbelongs.headerRoot_eq (h.admitted _ _ _ hnow).1 with ⟨root, hroot, hheader⟩
      exact ⟨now, root, hnow, hroot, hheader⟩

/-- Attached sidecars are those of the block that is named when they are asked for. -/
theorem fetch_attached (h : Truthful service.node named)
    (hb : carry (service.fetch blockId withSidecars) s = (.ok (some b), s')) :
    (∃ c root, named s.calls blockId = some c ∧ c.fork = b.fork ∧ c.signed = b.signed ∧
      b.root = .ok root) ∧
    (∀ sidecar ∈ b.sidecars, ∃ now root,
      named (s.calls ++ [.block blockId]) blockId = some now ∧ now.root = .ok root ∧
      Sidecar.headerRoot sidecar = .ok root) ∧
    ((∀ sidecar ∈ b.sidecars, Sidecar.headerRoot sidecar = b.root) ↔
      b.sidecars = [] ∨ ∃ now,
        named (s.calls ++ [.block blockId]) blockId = some now ∧ now.root = b.root) := by
  have hown := fetched_of_truthful h hb
  have hattached := attached_of_truthful h hb
  refine ⟨hown, hattached, ?_⟩
  constructor
  · intro hsame
    rcases hsidecars : b.sidecars with _ | ⟨sidecar, rest⟩
    · exact Or.inl rfl
    · -- One sidecar is enough to tell what the identifier names by then.
      have hmem : sidecar ∈ b.sidecars := by
        rw [hsidecars]
        exact List.mem_cons_self
      rcases hattached sidecar hmem with ⟨now, root, hnow, hroot, hheader⟩
      exact Or.inr ⟨now, hnow, by rw [hroot, ← hheader, hsame sidecar hmem]⟩
  · intro hsame sidecar hmem
    rcases hattached sidecar hmem with ⟨now, root, hnow, hroot, hheader⟩
    rcases hsame with hnone | ⟨now', hnow', hroot'⟩
    · rw [hnone] at hmem
      exact absurd hmem List.not_mem_nil
    · rw [hnow, Option.some.injEq] at hnow'
      rw [hheader, ← hroot, hnow', hroot']

/-- Sidecars that are fetched by the root of a block are those of the block, whatever
    happens between the questions. -/
theorem fetch_by_root (h : Truthful service.node named) {root : Bytes}
    (hroot : ∀ asked c, named asked (Hex.marked root) = some c → c.root = .ok root)
    (hb : carry (service.fetch (Hex.marked root) withSidecars) s = (.ok (some b), s')) :
    ∀ sidecar ∈ b.sidecars, Sidecar.headerRoot sidecar = .ok root := by
  intro sidecar hmem
  rcases attached_of_truthful h hb sidecar hmem with ⟨now, root', hnow, hroot', hheader⟩
  rw [hheader, ← hroot', hroot _ _ hnow]

/-! ### A head that moves -/

/-- The sidecars that a block holds have no part in its root. -/
theorem root_deneb (signed : Value) (held held' : List Value) :
    (Block.deneb signed held).root = (Block.deneb signed held').root := rfl

/-- A blank Deneb block. -/
def blankDeneb (slot : Nat) : Block := .deneb (Fork.deneb.blankAt slot) []

theorem blankDeneb_admitted (slot : Nat) (h : slot < Nat.pow 2 64) :
    (blankDeneb slot).fork.signedBlock.Admits (blankDeneb slot).signed :=
  Fork.blankAt_admitted .deneb slot h

/-- The sidecars of a blank Deneb block: one, with the header of the block. -/
def blankSidecars (slot : Nat) : List Value :=
  ((blankDeneb slot).header.toOption.map Sidecar.blankOf).toList

/-- A node that names a blank Deneb block by the identifier of the head, and nothing
    by any other. The slot of the head may change with every question. -/
def headNode (slot : List Call → Nat) : Node :=
  { steady .null .null ⟨fun _ => .ok none, fun _ => .ok []⟩ [] with
    block := fun asked blockId => .silent (.ok
      (if blockId = "head" then some (blankDeneb (slot asked)) else none))
    sidecars := fun asked blockId => .silent (.ok
      (if blockId = "head" then blankSidecars (slot asked) else [])) }

theorem blankSidecars_belong (slot : Nat) (h : slot < Nat.pow 2 64) :
    ∃ sidecar, blankSidecars slot = [sidecar] ∧ Sidecar.Belongs sidecar (blankDeneb slot) := by
  rcases (blankDeneb slot).root_header (blankDeneb_admitted slot h) with
    ⟨header, -, hheader, hadmitted, -, -⟩
  refine ⟨Sidecar.blankOf header, ?_, Sidecar.blankOf_admitted hadmitted, ?_⟩
  · unfold blankSidecars
    rw [hheader]
    rfl
  · rw [hheader, Sidecar.header_blankOf]

/-- However its head moves, such a node is truthful. -/
theorem truthful_headNode (slot : List Call → Nat) (h : ∀ asked, slot asked < Nat.pow 2 64) :
    Truthful (headNode slot) fun asked blockId =>
      if blockId = "head" then some (blankDeneb (slot asked)) else none where
  admitted asked blockId b hb := by
    by_cases hid : blockId = "head"
    · rw [if_pos hid, Option.some.injEq] at hb
      rw [← hb]
      exact ⟨blankDeneb_admitted _ (h asked), rfl⟩
    · rw [if_neg hid] at hb
      exact absurd hb (by simp only [reduceCtorEq, not_false_eq_true])
  block asked blockId b? hb := Except.ok.inj hb
  sidecars asked blockId sidecars hsidecars sidecar hmem := by
    rw [← Except.ok.inj hsidecars] at hmem
    by_cases hid : blockId = "head"
    · rcases blankSidecars_belong _ (h asked) with ⟨sidecar', hsidecar', hbelongs⟩
      rw [if_pos hid, hsidecar', List.mem_singleton] at hmem
      exact ⟨_, if_pos hid, by rw [hmem]; exact hbelongs⟩
    · rw [if_neg hid] at hmem
      exact absurd hmem List.not_mem_nil

/-- Fetched by the identifier of the head are the block it names at first and the
    sidecars of the block it names after that. -/
theorem carry_fetch_headNode (slot : List Call → Nat) (zone : Zone) (policy : EventPolicy) :
    ∃ s', carry ((Service.mk (headNode slot) zone policy).fetch "head" true) .fresh
      = (.ok (some (.deneb (Fork.deneb.blankAt (slot [])) (blankSidecars (slot [.block "head"])))),
        s') := ⟨_, rfl⟩

/-- While the head stays where it is, its own sidecars are attached to it. -/
theorem fetch_attached_still :
    let service : Service := ⟨headNode fun _ => 7, .universal, .logAndContinue⟩
    let b : Block := .deneb (Fork.deneb.blankAt 7) (blankSidecars 7)
    b.sidecars ≠ [] ∧ ∃ s', carry (service.fetch "head" true) .fresh = (.ok (some b), s') ∧
      ∀ sidecar ∈ b.sidecars, Sidecar.headerRoot sidecar = b.root := by
  intro service b
  have htruthful := truthful_headNode (fun _ => 7) (fun _ => by decide)
  rcases carry_fetch_headNode (fun _ => 7) .universal .logAndContinue with ⟨s', hcarry⟩
  refine ⟨?_, s', hcarry, ?_⟩
  · rcases blankSidecars_belong 7 (by decide) with ⟨sidecar, hsidecar, -⟩
    simp only [b, Block.sidecars, hsidecar]
    exact List.cons_ne_nil _ _
  · have hnow : ∃ now, (if "head" = "head" then some (blankDeneb 7) else none) = some now ∧
        now.root = b.root := ⟨blankDeneb 7, if_pos rfl, root_deneb _ _ _⟩
    exact (fetch_attached htruthful hcarry).2.2.mpr (Or.inr hnow)

/-- Two blank Deneb blocks of different slots with different roots. -/
theorem blankDeneb_root_ne : (blankDeneb 7).root ≠ (blankDeneb 8).root := by
  have hadmits (slot : Nat) (h : slot < Nat.pow 2 64) :
      Fork.deneb.block.Admits (blankDeneb slot).message.value := (blankDeneb_admitted slot h).1
  -- Only here a tree has to be computed, and it is the numbers that are compared.
  have hne : Fork.deneb.block.evaluated (blankDeneb 7).message.value
      ≠ Fork.deneb.block.evaluated (blankDeneb 8).message.value := by decide +kernel
  exact Schema.root_ne (Schema.block_wellFormed .deneb) (Schema.block_roomy .deneb)
    (hadmits 7 (by decide)) (hadmits 8 (by decide)) hne

/-- The head moves from one slot to the next between the two questions, and the
    sidecar of the later block is attached to the earlier one. -/
theorem fetch_attaches_later :
    let slot : List Call → Nat := fun asked => if asked = [] then 7 else 8
    let service : Service := ⟨headNode slot, .universal, .logAndContinue⟩
    let b : Block := .deneb (Fork.deneb.blankAt 7) (blankSidecars 8)
    Truthful service.node (fun asked blockId =>
      if blockId = "head" then some (blankDeneb (slot asked)) else none) ∧
    (∃ s', carry (service.fetch "head" true) .fresh = (.ok (some b), s')) ∧
    ∃ sidecar ∈ b.sidecars, Sidecar.headerRoot sidecar ≠ b.root := by
  intro slot service b
  have hslot (asked : List Call) : slot asked < Nat.pow 2 64 := by
    by_cases hnone : asked = []
    · simp only [slot, if_pos hnone]
      decide
    · simp only [slot, if_neg hnone]
      decide
  rcases blankSidecars_belong 8 (by decide) with ⟨sidecar, hsidecar, hbelongs⟩
  have hearlier : slot [] = 7 := rfl
  have hlater : slot [.block "head"] = 8 := rfl
  have hcarry := carry_fetch_headNode slot .universal .logAndContinue
  rw [hearlier, hlater] at hcarry
  refine ⟨truthful_headNode slot hslot, hcarry, sidecar, ?_, ?_⟩
  · simp only [b, Block.sidecars, hsidecar]
    exact List.mem_singleton_self _
  · -- The sidecar has the root of the later block, which is another one.
    rcases hbelongs.headerRoot_eq (blankDeneb_admitted 8 (by decide)) with
      ⟨root, hroot, hheader⟩
    rw [hheader, ← hroot, root_deneb _ _ []]
    exact blankDeneb_root_ne.symm

end Service

end Beacon
