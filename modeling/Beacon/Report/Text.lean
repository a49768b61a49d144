import Beacon.Block.Basic
import Beacon.Chain.Clock
import Beacon.Failure.Basic
import Beacon.Text.Utf8

/-!
# The Report on a Block

A block described for people, one item to a line. The report grows fork by fork
as the body does: each section applies to the bodies of its fork and of all
later ones. A verbose report has more items in the same order.

What the items say comes from the block, except for three things that have to
be found out first and can fail: the epoch and the local time of the block's
slot, and the root of the block.

## Main definitions

* `Report.Facts`, `Report.findOut`: What has to be found out about a block.
* `Report.items`: The items of a report.
* `Report.text`: The report on a signed block.
-/

namespace Beacon

namespace Report

/-- What has to be found out about a block. -/
structure Facts where
  /-- The epoch of its slot. -/
  epoch : Int
  /-- The local time at which its slot starts. -/
  start : DateTime
  /-- Its root. -/
  root : Bytes
  deriving DecidableEq, Repr

/-- Finds out what a report on a block needs: the time first, then the root. -/
def findOut (z : Zone) (timing : Timing) (message : Typed) : Except Breakdown Facts :=
  let slot := message.number ["slot"]
  match timing.localStart z slot with
  | .error fault => .error (.clock fault)
  | .ok start => match message.type.root message.value with
    | .error fault => .error (.root fault)
    | .ok root => .ok ⟨timing.epochOf slot, start, root⟩

/-- An item with a number. -/
def count (label : String) (n : Nat) : String := label ++ ": " ++ Decimal.text n

/-- An item with bytes. -/
def bytes (label : String) (bs : Bytes) : String := label ++ ": " ++ Hex.marked bs

/-- Items that only a verbose report has. -/
def inDetail (verbose : Bool) (items : List String) : List String :=
  if verbose then items else []

/-- How many of how many bits are set. -/
def share (bits : List Bool) : String :=
  Decimal.text (bits.count true) ++ "/" ++ Decimal.text bits.length

/-- The proposer's free text, without the zeros that fill it up. -/
def graffiti (bs : Bytes) : String :=
  String.ofList (Utf8.decode ((bs.reverse.dropWhile (· = 0)).reverse))

/-- The item of an attestation. -/
def attestation (t : Typed) (i : Nat) : String :=
  "  " ++ Decimal.text i ++ ": slot " ++ Decimal.text (t.number ["data", "slot"])
    ++ ", committee " ++ Decimal.text (t.number ["data", "index"]) ++ ", "
    ++ share (t.bitsAt ["aggregation_bits"]) ++ " participated, beacon block root "
    ++ Hex.marked (t.content ["data", "beacon_block_root"])

/-- The item of a voluntary exit. -/
def voluntaryExit (t : Typed) : String :=
  "  Validator " ++ Decimal.text (t.number ["message", "validator_index"])
    ++ " exits at epoch " ++ Decimal.text (t.number ["message", "epoch"])

/-- The item of a withdrawal. -/
def withdrawal (t : Typed) : String :=
  "  " ++ Decimal.text (t.number ["index"]) ++ ": validator "
    ++ Decimal.text (t.number ["validator_index"]) ++ " -> "
    ++ Hex.marked (t.content ["address"]) ++ ", " ++ Decimal.text (t.number ["amount"]) ++ " Gwei"

/-- The item of a change of credentials. -/
def credentialChange (t : Typed) : String :=
  "  Validator " ++ Decimal.text (t.number ["message", "validator_index"]) ++ " -> "
    ++ Hex.marked (t.content ["message", "to_execution_address"])

/-- The item of a commitment to a blob. -/
def commitment (t : Typed) (i : Nat) : String :=
  "  " ++ Decimal.text i ++ ": " ++ Hex.marked (t.content [])

/-- The item of a blob sidecar. -/
def sidecar (t : Typed) : String :=
  "  " ++ Decimal.text (t.number ["index"]) ++ ": " ++ Hex.marked (t.content ["kzg_commitment"])

/-- The items on every block. -/
def phase0Items (facts : Facts) (message : Typed) (verbose : Bool) : List String :=
  let body := message.part ["body"]
  let graffiti := graffiti (body.content ["graffiti"])
  let attestations := body.items ["attestations"]
  let exits := body.items ["voluntary_exits"]
  [count "Slot" (message.number ["slot"]),
    "Epoch: " ++ Decimal.signed facts.epoch,
    "Timestamp: " ++ facts.start.text,
    bytes "Block root" facts.root,
    bytes "Parent root" (message.content ["parent_root"]),
    bytes "State root" (message.content ["state_root"]),
    count "Proposer index" (message.number ["proposer_index"])]
  ++ (if graffiti.isEmpty then [] else ["Graffiti: " ++ graffiti])
  ++ inDetail verbose
    [bytes "RANDAO reveal" (body.content ["randao_reveal"]),
      count "Eth1 deposit count" (body.number ["eth1_data", "deposit_count"]),
      bytes "Eth1 deposit root" (body.content ["eth1_data", "deposit_root"]),
      bytes "Eth1 block hash" (body.content ["eth1_data", "block_hash"])]
  ++ [count "Attestations" attestations.length]
  ++ inDetail verbose (attestations.zipIdx.map fun (t, i) => attestation t i)
  ++ [count "Attester slashings" (body.items ["attester_slashings"]).length,
    count "Proposer slashings" (body.items ["proposer_slashings"]).length,
    count "Deposits" (body.items ["deposits"]).length,
    count "Voluntary exits" exits.length]
  ++ inDetail verbose (exits.map voluntaryExit)

/-- The items on a vote of the sync committee. -/
def altairItems (body : Typed) (verbose : Bool) : List String :=
  ["Sync committee participation: "
    ++ share (body.bitsAt ["sync_aggregate", "sync_committee_bits"])]
  ++ inDetail verbose
    [bytes "Sync committee signature"
      (body.content ["sync_aggregate", "sync_committee_signature"])]

/-- The items on an execution payload. -/
def bellatrixItems (body : Typed) (verbose : Bool) : List String :=
  let payload := body.part ["execution_payload"]
  [count "Execution block number" (payload.number ["block_number"]),
    bytes "Execution block hash" (payload.content ["block_hash"])]
  ++ inDetail verbose
    [bytes "Execution parent hash" (payload.content ["parent_hash"]),
      bytes "Execution extra data" (payload.content ["extra_data"])]
  ++ [bytes "Execution fee recipient" (payload.content ["fee_recipient"]),
    count "Gas used" (payload.number ["gas_used"]) ++ " / "
      ++ Decimal.text (payload.number ["gas_limit"]),
    count "Base fee per gas" (payload.number ["base_fee_per_gas"]),
    count "Transactions" (payload.items ["transactions"]).length]

/-- The items on withdrawals and changes of credentials. -/
def capellaItems (body : Typed) (verbose : Bool) : List String :=
  let withdrawals := body.items ["execution_payload", "withdrawals"]
  let changes := body.items ["bls_to_execution_changes"]
  [count "Withdrawals" withdrawals.length]
  ++ inDetail verbose (withdrawals.map withdrawal)
  ++ [count "BLS to execution changes" changes.length]
  ++ inDetail verbose (changes.map credentialChange)

/-- The items on blobs. -/
def denebItems (body : Typed) (sidecars : List Value) (verbose : Bool) : List String :=
  let commitments := body.items ["blob_kzg_commitments"]
  [count "Blob KZG commitments" commitments.length]
  ++ inDetail verbose (commitments.zipIdx.map fun (t, i) => commitment t i)
  ++ [count "Blob sidecars" sidecars.length]
  ++ inDetail verbose (sidecars.map fun v => sidecar ⟨Operation.blobSidecar, v⟩)
  ++ [count "Blob gas used" (body.number ["execution_payload", "blob_gas_used"]),
    count "Excess blob gas" (body.number ["execution_payload", "excess_blob_gas"])]

/-- The items of a section, for the bodies of a fork and all later ones. -/
def since (fork first : Fork) (items : List String) : List String :=
  if fork.atLeast first then items else []

/-- The items of the report on a signed block of a fork. -/
def items (facts : Facts) (fork : Fork) (signed : Value) (sidecars : List Value)
    (verbose : Bool) : List String :=
  let block : Typed := ⟨fork.signedBlock, signed⟩
  let body := block.part ["message", "body"]
  phase0Items facts (block.part ["message"]) verbose
  ++ since fork .altair (altairItems body verbose)
  ++ since fork .bellatrix (bellatrixItems body verbose)
  ++ since fork .capella (capellaItems body verbose)
  ++ since fork .deneb (denebItems body sidecars verbose)
  ++ inDetail verbose [bytes "Signature" (block.content ["signature"])]

/-- A report of items, one to a line. -/
def ofItems (items : List String) : String := String.intercalate "\n" items ++ "\n"

/-- The report on a signed block of a fork. -/
def text (z : Zone) (timing : Timing) (verbose : Bool) (fork : Fork) (signed : Value)
    (sidecars : List Value) : Except Breakdown String :=
  let message := (Typed.mk fork.signedBlock signed).part ["message"]
  (findOut z timing message).map fun facts =>
    ofItems (items facts fork signed sidecars verbose)

end Report

end Beacon
