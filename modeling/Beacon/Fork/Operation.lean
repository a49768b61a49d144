import Beacon.Fork.Preset
import Beacon.Fork.Scalar

/-!
# What a Block Body Carries

The containers and lists inside block bodies: what attestations, slashings,
deposits and exits are made of, and what later forks bring in. A fork never
changes one of these once it is there; only the execution payload grows.
-/

namespace Beacon

namespace Operation

open Schema

/-- An epoch boundary and the block root at it. -/
def checkpoint : Schema := record "Checkpoint" [("epoch", uint64), ("root", bytes32)]

/-- What an attestation votes for: the head of the chain by its block root, and
    a link from one checkpoint to another. -/
def attestationData : Schema := record "AttestationData"
  [("slot", uint64), ("index", uint64), ("beacon_block_root", bytes32),
    ("source", checkpoint), ("target", checkpoint)]

/-- Which members of a committee took part. -/
def aggregationBits : Schema := .bitlist "AggregationBits" Preset.maxValidatorsPerCommittee

/-- A vote of a committee, its participants as bits. -/
def attestation : Schema := record "Attestation"
  [("aggregation_bits", aggregationBits), ("data", attestationData), ("signature", bytes96)]

/-- Participants as validator indices. -/
def attestingIndices : Schema :=
  .list "AttestingIndices" uint64 Preset.maxValidatorsPerCommittee

/-- A vote of a committee, its participants spelled out. -/
def indexedAttestation : Schema := record "IndexedAttestation"
  [("attesting_indices", attestingIndices), ("data", attestationData), ("signature", bytes96)]

/-- A block in short, its body replaced by the body's root. -/
def blockHeader : Schema := record "BeaconBlockHeader"
  [("slot", uint64), ("proposer_index", uint64), ("parent_root", bytes32),
    ("state_root", bytes32), ("body_root", bytes32)]

/-- A header with its proposer's signature. -/
def signedBlockHeader : Schema := record "SignedBeaconBlockHeader"
  [("message", blockHeader), ("signature", bytes96)]

/-- Two headers signed by one proposer for one slot. -/
def proposerSlashing : Schema := record "ProposerSlashing"
  [("signed_header_1", signedBlockHeader), ("signed_header_2", signedBlockHeader)]

/-- Two votes that conflict and share participants. -/
def attesterSlashing : Schema := record "AttesterSlashing"
  [("attestation_1", indexedAttestation), ("attestation_2", indexedAttestation)]

/-- The proposer's view of the deposit contract. -/
def eth1Data : Schema := record "Eth1Data"
  [("deposit_root", bytes32), ("deposit_count", uint64), ("block_hash", bytes32)]

/-- What is deposited, and for whom. -/
def depositData : Schema := record "DepositData"
  [("pubkey", bytes48), ("withdrawal_credentials", bytes32), ("amount", uint64),
    ("signature", bytes96)]

/-- The branch that proves a deposit. -/
def depositProof : Schema := .vector "DepositProof" bytes32 (Preset.depositTreeDepth + 1)

/-- A deposit and its proof. -/
def deposit : Schema := record "Deposit" [("proof", depositProof), ("data", depositData)]

/-- A validator's wish to leave, from an epoch on. -/
def voluntaryExit : Schema := record "VoluntaryExit"
  [("epoch", uint64), ("validator_index", uint64)]

/-- An exit with its validator's signature. -/
def signedVoluntaryExit : Schema := record "SignedVoluntaryExit"
  [("message", voluntaryExit), ("signature", bytes96)]

/-- The proposer slashings of a block. -/
def proposerSlashings : Schema :=
  .list "ProposerSlashings" proposerSlashing Preset.maxProposerSlashings

/-- The attester slashings of a block. -/
def attesterSlashings : Schema :=
  .list "AttesterSlashings" attesterSlashing Preset.maxAttesterSlashings

/-- The attestations of a block. -/
def attestations : Schema := .list "Attestations" attestation Preset.maxAttestations

/-- The deposits of a block. -/
def deposits : Schema := .list "Deposits" deposit Preset.maxDeposits

/-- The voluntary exits of a block. -/
def voluntaryExits : Schema := .list "VoluntaryExits" signedVoluntaryExit Preset.maxVoluntaryExits

/-- Which members of the sync committee took part. -/
def syncCommitteeBits : Schema := .bitvector "SyncCommitteeBits" Preset.syncCommitteeSize

/-- The vote of the sync committee for the block of the slot before. -/
def syncAggregate : Schema := record "SyncAggregate"
  [("sync_committee_bits", syncCommitteeBits), ("sync_committee_signature", bytes96)]

/-- A transaction, opaque to the chain. -/
def transaction : Schema := .byteList "Transaction" Preset.maxBytesPerTransaction

/-- The transactions of a payload. -/
def transactions : Schema :=
  .list "Transactions" transaction Preset.maxTransactionsPerPayload

/-- Free data of a payload. -/
def extraData : Schema := .byteList "ExtraData" Preset.maxExtraDataBytes

/-- An amount paid out to an address. -/
def withdrawal : Schema := record "Withdrawal"
  [("index", uint64), ("validator_index", uint64), ("address", bytes20), ("amount", uint64)]

/-- The withdrawals of a payload. -/
def withdrawals : Schema := .list "Withdrawals" withdrawal Preset.maxWithdrawalsPerPayload

/-- A change of a validator's credentials to an address. -/
def credentialChange : Schema := record "BLSToExecutionChange"
  [("validator_index", uint64), ("from_bls_pubkey", bytes48), ("to_execution_address", bytes20)]

/-- A change of credentials with its signature. -/
def signedCredentialChange : Schema := record "SignedBLSToExecutionChange"
  [("message", credentialChange), ("signature", bytes96)]

/-- The changes of credentials of a block. -/
def credentialChanges : Schema :=
  .list "BLSToExecutionChanges" signedCredentialChange Preset.maxCredentialChanges

/-- The commitments to the blobs of a block. -/
def blobCommitments : Schema := .list "BlobKzgCommitments" bytes48 Preset.maxBlobCommitments

/-- A blob. -/
def blob : Schema :=
  .bytes "Blob" (Preset.fieldElementsPerBlob * Preset.bytesPerFieldElement)

/-- The branch that proves a commitment against the body root of a header. -/
def commitmentProof : Schema :=
  .vector "KzgCommitmentInclusionProof" bytes32 Preset.commitmentProofDepth

/-- A blob with what ties it to its block: commitment, proof and header. -/
def blobSidecar : Schema := record "BlobSidecar"
  [("index", uint64), ("blob", blob), ("kzg_commitment", bytes48), ("kzg_proof", bytes48),
    ("signed_block_header", signedBlockHeader),
    ("kzg_commitment_inclusion_proof", commitmentProof)]

end Operation

end Beacon
