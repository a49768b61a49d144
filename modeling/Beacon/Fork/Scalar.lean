import Beacon.Ssz.Schema

/-!
# Scalar Types of Beacon Blocks

The numbers and fixed byte strings that block schemas are built from, under the
names they have in faults. A chain gives the same type several roles: slots,
epochs, indices and amounts are all `uint64`, and roots and hashes are all
`bytes32`.

## Main definitions

* `Schema.uint64`, `Schema.uint256`: Numbers.
* `Schema.bytes4` to `Schema.bytes256`: Fixed byte strings.
-/

namespace Beacon

namespace Schema

/-- Slots, epochs, indices, amounts and gas. -/
def uint64 : Schema := .uint "Uint64" 64

/-- The base fee of execution gas. -/
def uint256 : Schema := .uint "Uint256" 256

/-- Fork versions. -/
def bytes4 : Schema := .bytes "Bytes4" 4

/-- Addresses of the execution layer. -/
def bytes20 : Schema := .bytes "Bytes20" 20

/-- Roots and hashes. -/
def bytes32 : Schema := .bytes "Bytes32" 32

/-- Public keys, and commitments to blobs and their proofs. -/
def bytes48 : Schema := .bytes "Bytes48" 48

/-- Signatures. -/
def bytes96 : Schema := .bytes "Bytes96" 96

/-- The bloom filter of execution logs. -/
def bytes256 : Schema := .bytes "Bytes256" 256

/-- A container of named fields. -/
def record (name : String) (fields : List (String × Schema)) : Schema :=
  .container name (Fields.ofList fields)

/-- A container that has the fields of another one first. -/
def grown (base : Schema) (name : String) (more : List (String × Schema)) : Schema :=
  .container name (base.fields.extend more)

end Schema

end Beacon
