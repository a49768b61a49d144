import Beacon.Fork.Operation
import Beacon.Text.Ascii

/-!
# Forks

The five versions of the block schema, from the genesis fork on. A fork takes
the body of the one before and adds fields at its end; the execution payload,
once it is there, grows in the same way. Block and signed block only change in
the body they hold.

The node API names a fork in lowercase. A name is looked up without regard to
the case of its ASCII letters.

## Main definitions

* `Fork`: A version of the block schema.
* `Fork.name`, `Fork.ofName?`: Its name in the node API, and back.
* `Fork.body`, `Fork.block`, `Fork.signedBlock`: Its schemas.

## Theorems

* `Fork.ofName?_name`: A fork is found by its name.
-/

namespace Beacon

/-- A version of the block schema. -/
inductive Fork
  | phase0
  | altair
  | bellatrix
  | capella
  | deneb
  deriving DecidableEq, Repr

namespace Fork

open Schema Operation

/-- The forks in the order they came. -/
def all : List Fork := [phase0, altair, bellatrix, capella, deneb]

/-- The name of a fork in the node API. -/
def name : Fork → String
  | phase0 => "phase0"
  | altair => "altair"
  | bellatrix => "bellatrix"
  | capella => "capella"
  | deneb => "deneb"

/-- The fork of a name in the node API. -/
def ofName? (s : String) : Option Fork :=
  all.find? fun fork => fork.name.toList = s.toList.map Ascii.lower

/-- The number of forks before this one. -/
def index : Fork → Nat
  | phase0 => 0
  | altair => 1
  | bellatrix => 2
  | capella => 3
  | deneb => 4

/-- Whether a fork is another one or came after it. -/
def atLeast (fork since : Fork) : Bool := since.index ≤ fork.index

/-- The first execution payload. -/
def bellatrixPayload : Schema := record "ExecutionPayload"
  [("parent_hash", bytes32), ("fee_recipient", bytes20), ("state_root", bytes32),
    ("receipts_root", bytes32), ("logs_bloom", bytes256), ("prev_randao", bytes32),
    ("block_number", uint64), ("gas_limit", uint64), ("gas_used", uint64),
    ("timestamp", uint64), ("extra_data", extraData), ("base_fee_per_gas", uint256),
    ("block_hash", bytes32), ("transactions", transactions)]

/-- The payload with withdrawals. -/
def capellaPayload : Schema :=
  grown bellatrixPayload "ExecutionPayload" [("withdrawals", withdrawals)]

/-- The payload with the gas of blobs. -/
def denebPayload : Schema :=
  grown capellaPayload "ExecutionPayload"
    [("blob_gas_used", uint64), ("excess_blob_gas", uint64)]

/-- The body of the genesis fork. -/
def phase0Body : Schema := record "BeaconBlockBody"
  [("randao_reveal", bytes96), ("eth1_data", eth1Data), ("graffiti", bytes32),
    ("proposer_slashings", proposerSlashings), ("attester_slashings", attesterSlashings),
    ("attestations", attestations), ("deposits", deposits),
    ("voluntary_exits", voluntaryExits)]

/-- The body with a vote of the sync committee. -/
def altairBody : Schema :=
  grown phase0Body "BeaconBlockBody" [("sync_aggregate", syncAggregate)]

/-- The body with an execution payload. -/
def bellatrixBody : Schema :=
  grown altairBody "BeaconBlockBody" [("execution_payload", bellatrixPayload)]

/-- The body with changes of credentials. -/
def capellaBody : Schema :=
  grown bellatrixBody "BeaconBlockBody"
    [("execution_payload", capellaPayload), ("bls_to_execution_changes", credentialChanges)]

/-- The body with commitments to blobs. -/
def denebBody : Schema :=
  grown capellaBody "BeaconBlockBody"
    [("execution_payload", denebPayload), ("blob_kzg_commitments", blobCommitments)]

/-- The block body of a fork. -/
def body : Fork → Schema
  | phase0 => phase0Body
  | altair => altairBody
  | bellatrix => bellatrixBody
  | capella => capellaBody
  | deneb => denebBody

/-- A block around a body. -/
def blockOf (body : Schema) : Schema := record "BeaconBlock"
  [("slot", uint64), ("proposer_index", uint64), ("parent_root", bytes32),
    ("state_root", bytes32), ("body", body)]

/-- A block with its proposer's signature. -/
def signedOf (block : Schema) : Schema := record "SignedBeaconBlock"
  [("message", block), ("signature", bytes96)]

/-- The block of a fork. -/
def block (fork : Fork) : Schema := blockOf fork.body

/-- The signed block of a fork. -/
def signedBlock (fork : Fork) : Schema := signedOf fork.block

/-- A fork is found by its name. -/
theorem ofName?_name (fork : Fork) : ofName? fork.name = some fork := by
  cases fork <;> decide

end Fork

end Beacon
