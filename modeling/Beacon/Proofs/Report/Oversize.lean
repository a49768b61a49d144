import Beacon.Proofs.Report.Breakdown
import Beacon.Proofs.Ssz.Member

/-!
# Blocks that Are Too Large

When the binary form of a block breaks down.

It does if an offset does not fit four bytes, and whether one does is told by the sizes
in the block. From the third fork on a block carries transactions, and the limits on
these allow far more than four bytes can count. Everything else in a block is small:
together it takes less than half a mebibyte, whatever the block. So a block has a binary
form as long as its transactions leave that much of the room there is, and a block
without transactions always has one. It has none if its last transaction starts too far
behind the first.

## Main definitions

* `Block.pointers`: The offsets in a block.
* `Block.transactions`: The transactions of a block.
* `Block.load`: The room that the transactions take.
* `Block.lastStart`: Where the last transaction starts.

## Theorems

* `Block.pointer_lt`: No offset exceeds the room of the transactions by much.
* `Block.lastStart_mem`: The start of the last transaction is an offset.
* `Renderer.render_ssz_iff`: When the binary form is written and when it breaks down.
-/

namespace Beacon

open Layout

namespace Block

/-- The offsets in a block. -/
def pointers (b : Block) : List Nat := b.fork.signedBlock.pointers b.signed

/-- The transactions of a block. -/
def transactions (b : Block) : List Bytes :=
  (b.typed.items ["message", "body", "execution_payload", "transactions"]).map (·.content [])

/-- The room that the transactions of a block take, their offsets included. -/
def load (b : Block) : Nat := (b.transactions.map fun bs => offsetSize + bs.length).sum

/-- Where the last transaction of a block starts. -/
def lastStart (b : Block) : Nat :=
  offsetSize * b.transactions.length + (b.transactions.dropLast.map List.length).sum

/-- The room for everything but the transactions of a block. -/
def rest : Nat := Nat.pow 2 19

/-! ### The transactions of a block -/

/-- The extents of transactions. -/
def transactionExtents (txs : List Bytes) : List Extent := txs.map fun bs => ⟨false, bs.length⟩

theorem total_heads_transactions (txs : List Bytes) :
    total ((transactionExtents txs).map Extent.head) = offsetSize * txs.length := by
  induction txs with
  | nil => rfl
  | cons bs txs ih =>
      rw [transactionExtents, List.map_cons, List.map_cons, total, ← transactionExtents, ih,
        List.length_cons, Nat.mul_succ, Nat.add_comm]
      rfl

theorem width_transactions (txs : List Bytes) :
    width (transactionExtents txs) = (txs.map fun bs => offsetSize + bs.length).sum := by
  induction txs with
  | nil => rfl
  | cons bs txs ih =>
      rw [transactionExtents, List.map_cons, width, List.map_cons, total, ← width,
        ← transactionExtents, ih, List.map_cons, List.sum_cons]
      rfl

/-- The last transaction starts behind all others. -/
theorem last_mem_starts (start : Nat) (txs : List Bytes) (h : txs ≠ []) :
    start + (txs.dropLast.map List.length).sum ∈ starts start (transactionExtents txs) := by
  induction txs generalizing start with
  | nil => exact absurd rfl h
  | cons bs txs ih =>
      rw [transactionExtents, List.map_cons, starts, ← transactionExtents,
        if_neg Bool.false_ne_true]
      cases txs with
      | nil => exact List.mem_cons_self
      | cons next txs =>
          have hlast := ih (start + bs.length) (List.cons_ne_nil next txs)
          rw [Nat.add_assoc] at hlast
          exact List.mem_cons_of_mem _ hlast

/-- A row of transactions is a row of bytes. -/
theorem exists_bytes (vs : List Value) (h : ∀ v ∈ vs, Operation.transaction.Admits v) :
    ∃ txs : List Bytes, vs = txs.map Value.bytes := by
  induction vs with
  | nil => exact ⟨[], rfl⟩
  | cons v vs ih =>
      obtain ⟨hv, hvs⟩ := List.forall_mem_cons.mp h
      obtain ⟨txs, rfl⟩ := ih hvs
      cases v with
      | bytes bs => exact ⟨bs :: txs, rfl⟩
      | _ => exact hv.elim

theorem rowExtents_transactions (txs : List Bytes) :
    Operation.transaction.rowExtents (txs.map Value.bytes) = transactionExtents txs := by
  rw [Schema.rowExtents, List.map_map]
  rfl

/-- The path to the transactions of a block. -/
def transactionsPath : List String := ["message", "body", "execution_payload", "transactions"]

theorem typeAt?_transactions (fork : Fork) (h : fork.atLeast .bellatrix = true) :
    fork.signedBlock.typeAt? transactionsPath = some Operation.transactions := by
  cases fork with
  | phase0 => exact absurd h (by decide)
  | altair => exact absurd h (by decide)
  | bellatrix => rfl
  | capella => rfl
  | deneb => rfl

/-- From the third fork on a block has transactions, which are a part of it. -/
theorem within_transactions (b : Block) (h : b.fork.signedBlock.Admits b.signed)
    (hfork : b.fork.atLeast .bellatrix = true) :
    Typed.Within ⟨Operation.transactions, .row (b.transactions.map Value.bytes)⟩ b.typed := by
  obtain ⟨w, hw⟩ := Typed.exists_at? h (typeAt?_transactions b.fork hfork)
  have hwithin := Typed.within_at? (t := b.typed) h hw
  have hrow : w = .row (b.transactions.map Value.bytes) := by
    cases w with
    | row vs =>
        obtain ⟨txs, rfl⟩ := exists_bytes vs hwithin.admits.2
        have hitems : b.typed.items transactionsPath
            = (txs.map Value.bytes).map (Typed.mk Operation.transaction) := by
          rw [Typed.items, Block.typed, hw]
          rfl
        have htxs : b.transactions = txs := by
          rw [transactions, ← transactionsPath, hitems, List.map_map, List.map_map]
          exact List.map_id' txs
        rw [htxs]
    | _ => exact hwithin.admits.elim
  rwa [hrow] at hwithin

/-! ### The size of a block -/

theorem maxSpan_lt (fork : Fork) :
    fork.signedBlock.maxSpan
      < rest + if fork.atLeast .bellatrix then Operation.transactions.maxSpan else 0 := by
  cases fork <;> decide

/-- A block is not much larger than its transactions. -/
theorem span_lt (b : Block) (h : b.fork.signedBlock.Admits b.signed) :
    b.fork.signedBlock.span b.signed < rest + b.load := by
  have hmax := maxSpan_lt b.fork
  by_cases hfork : b.fork.atLeast .bellatrix = true
  · have hload : Operation.transactions.span (.row (b.transactions.map Value.bytes)) = b.load := by
      change width (Operation.transaction.rowExtents (b.transactions.map Value.bytes)) = b.load
      rw [rowExtents_transactions, width_transactions, load]
    have hspan : b.fork.signedBlock.span b.signed + Operation.transactions.maxSpan
        ≤ b.fork.signedBlock.maxSpan + b.load := hload ▸ (within_transactions b h hfork).span_le
    rw [if_pos hfork] at hmax
    omega
  · have hspan := Schema.span_le_maxSpan b.fork.signedBlock b.signed h
    rw [if_neg hfork] at hmax
    omega

/-- No offset exceeds the room of the transactions by much. -/
theorem pointer_lt (b : Block) (h : b.fork.signedBlock.Admits b.signed) :
    ∀ n ∈ b.pointers, n < rest + b.load := fun n hn =>
  (Schema.pointer_le_span _ _ n hn).trans_lt (span_lt b h)

/-- A block without transactions has low offsets. -/
theorem pointer_lt_rest (b : Block) (h : b.fork.signedBlock.Admits b.signed)
    (hfork : b.fork.atLeast .bellatrix = false) : ∀ n ∈ b.pointers, n < rest := by
  intro n hn
  have hmax := maxSpan_lt b.fork
  rw [hfork, if_neg Bool.false_ne_true] at hmax
  exact ((Schema.pointer_le_span _ _ n hn).trans (Schema.span_le_maxSpan _ _ h)).trans_lt hmax

/-- The start of the last transaction is an offset. -/
theorem lastStart_mem (b : Block) (h : b.fork.signedBlock.Admits b.signed)
    (hfork : b.fork.atLeast .bellatrix = true) (hne : b.transactions ≠ []) :
    b.lastStart ∈ b.pointers := by
  refine (within_transactions b h hfork).pointers_subset (List.mem_append_left _ ?_)
  rw [rowExtents_transactions, places, total_heads_transactions]
  exact last_mem_starts _ b.transactions hne

end Block

namespace Renderer

/-- A block after the first fork has a binary form, or an offset that is too wide. -/
theorem render_ssz_cases (r : Renderer) (b : Block) (h : b.fork.signedBlock.Admits b.signed)
    (hfork : b.fork ≠ .phase0) :
    ((∀ n ∈ b.pointers, n < Nat.pow 256 offsetSize) ∧
      ∃ bs, b.fork.signedBlock.encode b.signed = .ok bs ∧
        r.render b .ssz = .ok (Hex.text bs ++ "\n")) ∨
    ((∃ n ∈ b.pointers, Nat.pow 256 offsetSize ≤ n) ∧
      r.render b .ssz = .error (.breakdown (.fault .tooWide))) := by
  have hencodes : (∃ bs, b.fork.signedBlock.encode b.signed = .ok bs) ↔
      ∀ n ∈ b.pointers, n < Nat.pow 256 offsetSize :=
    Schema.encodes_iff b.fork.signedBlock b.signed (Schema.signedBlock_wellFormed b.fork) h
  by_cases hfits : ∀ n ∈ b.pointers, n < Nat.pow 256 offsetSize
  · obtain ⟨bs, hbs⟩ := hencodes.mpr hfits
    exact .inl ⟨hfits, bs, hbs, render_ssz_ok r b bs hfork hbs⟩
  · have hwide : ∃ n ∈ b.pointers, Nat.pow 256 offsetSize ≤ n := by
      simpa only [not_forall, not_lt, exists_prop] using hfits
    cases hencode : b.fork.signedBlock.encode b.signed with
    | ok bs => exact absurd (hencodes.mp ⟨bs, hencode⟩) hfits
    | error fault =>
        -- An encoding has no other fault.
        obtain rfl := Schema.failsIn_encode b.fork.signedBlock b.signed
          (Schema.signedBlock_wellFormed b.fork) h fault hencode
        exact .inr ⟨hwide, render_ssz_error r b hfork hencode⟩

/-- The last transaction of a block may start too far behind the first. -/
theorem wide_of_lastStart (b : Block) (h : b.fork.signedBlock.Admits b.signed)
    (hfork : b.fork.atLeast .bellatrix = true) (hlast : Nat.pow 256 offsetSize ≤ b.lastStart) :
    ∃ n ∈ b.pointers, Nat.pow 256 offsetSize ≤ n := by
  have hne : b.transactions ≠ [] := by
    intro hempty
    rw [Block.lastStart, hempty] at hlast
    exact absurd hlast (by decide)
  exact ⟨b.lastStart, Block.lastStart_mem b h hfork hne, hlast⟩

/-- A block after the first fork renders in binary form exactly if its offsets fit, and breaks
    down otherwise. They fit in a block before transactions, and also if the transactions
    leave the room that the rest of a block needs. They do not if the last transaction starts
    too far behind. -/
theorem render_ssz_iff (r : Renderer) (b : Block) (h : b.fork.signedBlock.Admits b.signed)
    (hfork : b.fork ≠ .phase0) :
    ((∃ bs, b.fork.signedBlock.encode b.signed = .ok bs ∧
        r.render b .ssz = .ok (Hex.text bs ++ "\n")) ↔
      ∀ n ∈ b.pointers, n < Nat.pow 256 offsetSize) ∧
    (r.render b .ssz = .error (.breakdown (.fault .tooWide)) ↔
      ∃ n ∈ b.pointers, Nat.pow 256 offsetSize ≤ n) ∧
    (b.fork = .altair ∨ Block.rest + b.load ≤ Nat.pow 256 offsetSize →
      ∀ n ∈ b.pointers, n < Nat.pow 256 offsetSize) ∧
    (b.fork ≠ .altair → Nat.pow 256 offsetSize ≤ b.lastStart →
      ∃ n ∈ b.pointers, Nat.pow 256 offsetSize ≤ n) := by
  refine ⟨?_, ?_, ?_, fun haltair hlast => wide_of_lastStart b h ?_ hlast⟩
  · rcases render_ssz_cases r b h hfork with ⟨hfits, hrender⟩ | ⟨⟨n, hn, hwide⟩, hrender⟩
    · exact iff_of_true hrender hfits
    · refine iff_of_false ?_ fun hfits => absurd (hfits n hn) (Nat.not_lt.mpr hwide)
      rw [hrender]
      simp only [reduceCtorEq, and_false, exists_false, not_false_eq_true]
  · rcases render_ssz_cases r b h hfork with ⟨hfits, bs, -, hrender⟩ | ⟨hwide, hrender⟩
    · refine iff_of_false ?_ fun ⟨n, hn, hwide⟩ => absurd (hfits n hn) (Nat.not_lt.mpr hwide)
      rw [hrender]
      simp only [reduceCtorEq, not_false_eq_true]
    · exact iff_of_true hrender hwide
  · rintro (haltair | hload) n hn
    · have hbefore : b.fork.atLeast .bellatrix = false := by
        rw [haltair]
        rfl
      exact (Block.pointer_lt_rest b h hbefore n hn).trans (by decide)
    · exact (Block.pointer_lt b h n hn).trans_le hload
  · cases hb : b.fork with
    | phase0 => exact absurd hb hfork
    | altair => exact absurd hb haltair
    | _ => rfl

/-- A block of the third fork with transactions and nothing else. -/
def laden (txs : List Bytes) : Block :=
  let root := Value.bytes (Bytes.zeros 32)
  let signature := Value.bytes (Bytes.zeros 96)
  let payload := Value.row [root, .bytes (Bytes.zeros 20), root, root, .bytes (Bytes.zeros 256),
    root, .uint 0, .uint 0, .uint 0, .uint 0, .bytes [], .uint 0, root, .row (txs.map Value.bytes)]
  let body := Value.row [signature, .row [root, .uint 0, root], root, .row [], .row [], .row [],
    .row [], .row [], .row [.bits (List.replicate 512 false), signature], payload]
  .bellatrix (.row [.row [.uint 0, .uint 0, root, root, body], signature])

theorem laden_admitted (txs : List Bytes) (hcount : txs.length ≤ Preset.maxTransactionsPerPayload)
    (hsize : ∀ bs ∈ txs, bs.length ≤ Preset.maxBytesPerTransaction) :
    (laden txs).fork.signedBlock.Admits (laden txs).signed := by
  have hroot : Schema.bytes32.Admits (.bytes (Bytes.zeros 32)) := Bytes.length_zeros 32
  have haddress : Schema.bytes20.Admits (.bytes (Bytes.zeros 20)) := Bytes.length_zeros 20
  have hbloom : Schema.bytes256.Admits (.bytes (Bytes.zeros 256)) := Bytes.length_zeros 256
  have hsignature : Schema.bytes96.Admits (.bytes (Bytes.zeros 96)) := Bytes.length_zeros 96
  have hvote : Operation.syncCommitteeBits.Admits (.bits (List.replicate 512 false)) :=
    List.length_replicate
  have htxs : Operation.transactions.Admits (.row (txs.map Value.bytes)) := by
    refine ⟨?_, List.forall_mem_map.mpr hsize⟩
    rw [List.length_map]
    exact hcount
  have hnumber : (0 : Nat) < Nat.pow 2 64 := by decide
  have hfee : (0 : Nat) < Nat.pow 2 256 := by decide
  have hempty (element : Schema) : ∀ v ∈ ([] : List Value), element.Admits v :=
    List.forall_mem_nil _
  exact ⟨⟨hnumber, hnumber, hroot, hroot,
    ⟨hsignature, ⟨hroot, hnumber, hroot, trivial⟩, hroot, ⟨Nat.zero_le _, hempty _⟩,
      ⟨Nat.zero_le _, hempty _⟩, ⟨Nat.zero_le _, hempty _⟩, ⟨Nat.zero_le _, hempty _⟩,
      ⟨Nat.zero_le _, hempty _⟩, ⟨hvote, hsignature, trivial⟩,
      ⟨hroot, haddress, hroot, hroot, hbloom, hroot, hnumber, hnumber, hnumber, hnumber,
        Nat.zero_le _, hfee, hroot, htxs, trivial⟩, trivial⟩, trivial⟩, hsignature, trivial⟩

theorem transactions_laden (txs : List Bytes) : (laden txs).transactions = txs := by
  change ((txs.map Value.bytes).map (Typed.mk Operation.transaction)).map (·.content []) = txs
  rw [List.map_map, List.map_map]
  exact List.map_id' txs

/-- Four transactions as large as they may be, and an empty one behind them. -/
def heavy : List Bytes := List.replicate 4 (Bytes.zeros Preset.maxBytesPerTransaction) ++ [[]]

theorem heavy_admitted : (laden heavy).fork.signedBlock.Admits (laden heavy).signed := by
  refine laden_admitted heavy (by decide) ?_
  rw [heavy, List.forall_mem_append, List.forall_mem_singleton]
  refine ⟨fun bs hbs => ?_, Nat.zero_le _⟩
  rw [List.eq_of_mem_replicate hbs, Bytes.length_zeros]

/-- The last of the transactions starts behind the offsets of all five and four times the
    bytes of the largest transaction, where four bytes do not reach. -/
theorem lastStart_heavy : (laden heavy).lastStart = 4294967316 := by
  rw [Block.lastStart, transactions_laden, heavy, List.dropLast_concat, List.map_replicate,
    Bytes.length_zeros, List.length_append, List.length_replicate, List.sum_replicate_nat]
  rfl

/-- A block with two small transactions renders. One with four large ones and an empty one
    breaks down. -/
theorem render_ssz_iff_laden :
    let r : Renderer := ⟨.universal, ⟨0, 12, 32, by decide, by decide⟩, false⟩
    let light := laden [[1, 2], [3]]
    (light.fork.signedBlock.Admits light.signed ∧ light.fork ≠ .phase0 ∧
      Block.rest + light.load ≤ Nat.pow 256 offsetSize ∧
      ∃ bs, light.fork.signedBlock.encode light.signed = .ok bs ∧
        r.render light .ssz = .ok (Hex.text bs ++ "\n")) ∧
    (laden heavy).fork.signedBlock.Admits (laden heavy).signed ∧ (laden heavy).fork ≠ .phase0 ∧
      (laden heavy).fork ≠ .altair ∧ Nat.pow 256 offsetSize ≤ (laden heavy).lastStart ∧
      r.render (laden heavy) .ssz = .error (.breakdown (.fault .tooWide)) := by
  intro r light
  have hlight : light.fork.signedBlock.Admits light.signed :=
    laden_admitted [[1, 2], [3]] (by decide) (by decide)
  have hload : Block.rest + light.load ≤ Nat.pow 256 offsetSize := by
    rw [Block.load, transactions_laden]
    decide
  have hlast : Nat.pow 256 offsetSize ≤ (laden heavy).lastStart := by
    rw [lastStart_heavy]
    decide
  obtain ⟨hrenders, -, hfits, -⟩ := render_ssz_iff r light hlight (by decide)
  obtain ⟨-, hbreaks, -, hwide⟩ := render_ssz_iff r (laden heavy) heavy_admitted (by decide)
  exact ⟨⟨hlight, by decide, hload, hrenders.mpr (hfits (.inr hload))⟩,
    heavy_admitted, by decide, by decide, hlast, hbreaks.mpr (hwide (by decide) hlast)⟩

/-- The block with the large transactions is one of its fork's schema, but it has no binary
    form, and that is no failure either: the last offset is too wide, which nobody foresees. -/
theorem render_ssz_heavy :
    let r : Renderer := ⟨.universal, ⟨0, 12, 32, by decide, by decide⟩, false⟩
    (laden heavy).fork.signedBlock.Admits (laden heavy).signed ∧
      (laden heavy).fork = .bellatrix ∧ 4294967316 ∈ (laden heavy).pointers ∧
      (¬ ∃ text, r.render (laden heavy) .ssz = .ok text) ∧
      (¬ ∃ failure, r.render (laden heavy) .ssz = .error (.failure failure)) ∧
      r.render (laden heavy) .ssz = .error (.breakdown (.fault .tooWide)) := by
  intro r
  have hne : (laden heavy).transactions ≠ [] := by
    rw [transactions_laden]
    exact List.append_ne_nil_of_right_ne_nil _ (List.cons_ne_nil _ _)
  have hpointer : 4294967316 ∈ (laden heavy).pointers :=
    lastStart_heavy ▸ Block.lastStart_mem (laden heavy) heavy_admitted rfl hne
  have hbreaks : r.render (laden heavy) .ssz = .error (.breakdown (.fault .tooWide)) := by
    rcases render_ssz_cases r (laden heavy) heavy_admitted (by decide) with
      ⟨hfits, -⟩ | ⟨-, hrender⟩
    · exact absurd (hfits _ hpointer) (by decide)
    · exact hrender
  rw [hbreaks]
  refine ⟨heavy_admitted, rfl, hpointer, ?_, ?_, rfl⟩
  · simp only [reduceCtorEq, exists_false, not_false_eq_true]
  · simp only [reduceCtorEq, exists_false, not_false_eq_true, Except.error.injEq]

end Renderer

end Beacon
