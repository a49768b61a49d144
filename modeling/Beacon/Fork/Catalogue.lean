import Beacon.Fork.Basic

/-!
# The Catalogue of Types

Looking a type up by name. The scalar types have a name of their own, and the
types of a fork are named with the fork before a point, such as
`phase0.Checkpoint`. A fork also knows the types of earlier forks that its own
are made of, and other names for the same type, such as `Root`.

## Main definitions

* `Catalogue.scalars`: The scalar types by name.
* `Catalogue.ofFork`: The types of a fork by name.
* `Catalogue.find?`: The type of a name.
-/

namespace Beacon

namespace Catalogue

open Schema Operation

/-- A type under its own name. -/
def entry (type : Schema) : String × Schema := (type.name, type)

/-- The scalar types. -/
def scalars : List (String × Schema) :=
  [uint64, uint256, bytes4, bytes20, bytes32, bytes48, bytes96, bytes256].map entry

/-- The three types that every fork has a version of. -/
def versions (fork : Fork) : List (String × Schema) :=
  [fork.body, fork.block, fork.signedBlock].map entry

/-- The types of the genesis fork. -/
def phase0 : List (String × Schema) :=
  versions .phase0 ++
  [("Slot", uint64), ("Epoch", uint64), ("ValidatorIndex", uint64), ("CommitteeIndex", uint64),
    ("Gwei", uint64), ("Root", bytes32), ("BLSPubkey", bytes48), ("BLSSignature", bytes96)] ++
  [checkpoint, attestationData, aggregationBits, attestation, attestingIndices,
    indexedAttestation, blockHeader, signedBlockHeader, proposerSlashing, attesterSlashing,
    eth1Data, depositData, depositProof, deposit, voluntaryExit, signedVoluntaryExit,
    proposerSlashings, attesterSlashings, attestations, deposits, voluntaryExits,
    bytes32, bytes48, bytes96, uint64].map entry

/-- The types of the fork with sync committees. -/
def altair : List (String × Schema) :=
  versions .altair ++ [syncCommitteeBits, syncAggregate].map entry ++ [("BLSSignature", bytes96)]

/-- The types of the fork with execution payloads. -/
def bellatrix : List (String × Schema) :=
  versions .bellatrix ++
  [Fork.bellatrixPayload, transaction, transactions, extraData, bytes20, bytes32, bytes256,
    uint64, uint256].map entry

/-- The types of the fork with withdrawals. -/
def capella : List (String × Schema) :=
  versions .capella ++
  [Fork.capellaPayload, withdrawal, withdrawals, credentialChange, signedCredentialChange,
    credentialChanges, bytes20, uint64].map entry ++
  [("BLSPubkey", bytes48), ("BLSSignature", bytes96), ("Gwei", uint64),
    ("ValidatorIndex", uint64)]

/-- The types of the fork with blobs. -/
def deneb : List (String × Schema) :=
  versions .deneb ++
  [Fork.denebPayload, blobCommitments, blob, commitmentProof, blobSidecar, signedBlockHeader,
    bytes32, bytes48, uint64].map entry ++
  [("KZGCommitment", bytes48), ("KZGProof", bytes48), ("BlobIndex", uint64)]

/-- The types of a fork by name. -/
def ofFork : Fork → List (String × Schema)
  | .phase0 => phase0
  | .altair => altair
  | .bellatrix => bellatrix
  | .capella => capella
  | .deneb => deneb

/-- A name in front of a point and the name behind it. -/
def splitName (s : String) : List Char × List Char :=
  let cs := s.toList
  (cs.takeWhile (· ≠ '.'), (cs.dropWhile (· ≠ '.')).drop 1)

/-- The type of a name. -/
def find? (s : String) : Option Schema :=
  match scalars.lookup s with
  | some type => some type
  | none =>
    let (fork, name) := splitName s
    match Fork.all.find? fun f => f.name.toList = fork with
    | some f => (ofFork f).lookup (String.ofList name)
    | none => none

end Catalogue

end Beacon
