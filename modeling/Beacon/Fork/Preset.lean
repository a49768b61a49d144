/-!
# Preset Limits

The bounds of the mainnet preset. Every list, bit list and byte list of a block
carries one of them as its limit, and every vector as its length.
-/

namespace Beacon

namespace Preset

/-- Proposer slashings in a block. -/
def maxProposerSlashings : Nat := 16

/-- Attester slashings in a block. -/
def maxAttesterSlashings : Nat := 2

/-- Attestations in a block. -/
def maxAttestations : Nat := 128

/-- Deposits in a block. -/
def maxDeposits : Nat := 16

/-- Voluntary exits in a block. -/
def maxVoluntaryExits : Nat := 16

/-- Members of a committee, which bounds aggregation bits and attesting
    indices. -/
def maxValidatorsPerCommittee : Nat := 2048

/-- Depth of the deposit tree. A deposit's proof has one node more, for the
    count of deposits that is mixed in. -/
def depositTreeDepth : Nat := 32

/-- Members of a sync committee. -/
def syncCommitteeSize : Nat := 512

/-- Bytes of extra data in an execution payload. -/
def maxExtraDataBytes : Nat := 32

/-- Bytes of a transaction. -/
def maxBytesPerTransaction : Nat := Nat.pow 2 30

/-- Transactions in an execution payload. -/
def maxTransactionsPerPayload : Nat := Nat.pow 2 20

/-- Withdrawals in an execution payload. -/
def maxWithdrawalsPerPayload : Nat := 16

/-- Credential changes in a block. -/
def maxCredentialChanges : Nat := 16

/-- Blob commitments in a block. -/
def maxBlobCommitments : Nat := 4096

/-- Field elements of a blob. -/
def fieldElementsPerBlob : Nat := 4096

/-- Bytes of a field element. -/
def bytesPerFieldElement : Nat := 32

/-- Depth of the proof that a commitment is part of a body. -/
def commitmentProofDepth : Nat := 17

end Preset

end Beacon
