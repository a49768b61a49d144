import Beacon.Fork.Basic
import Beacon.Merkle.Root
import Beacon.Ssz.Field
import Beacon.Ssz.Reading

/-!
# Blocks of Any Fork

A signed block together with its fork. The forks are a closed list, so that
whatever is done with a block is done for each of them. A Deneb block can also
hold the blob sidecars that belong to it; they travel apart from the block and
are empty until someone attaches them.

A block comes from the node as data next to the name of its fork. The name is
looked at first, and the data is then checked against that fork's schema.

## Main definitions

* `Block`: A signed block of some fork.
* `Block.wrap`: A block from a value of a type.
* `Block.read`: A block from the name of its fork and its data.
* `Block.root`, `Block.bodyRoot`: The roots of a block's message and body.
-/

namespace Beacon

/-- A signed block of some fork. -/
inductive Block
  | phase0 (signed : Value)
  | altair (signed : Value)
  | bellatrix (signed : Value)
  | capella (signed : Value)
  | deneb (signed : Value) (sidecars : List Value)
  deriving DecidableEq, Repr

/-- Why data is no block. -/
inductive BlockFault
  /-- No fork has this name. -/
  | unknownVersion (version : Text)
  /-- The data does not match the schema of its fork. -/
  | invalid (fault : Fault)
  deriving DecidableEq, Repr

namespace Block

/-- A signed block of a fork, without sidecars. -/
def ofFork : Fork → Value → Block
  | .phase0, signed => .phase0 signed
  | .altair, signed => .altair signed
  | .bellatrix, signed => .bellatrix signed
  | .capella, signed => .capella signed
  | .deneb, signed => .deneb signed []

/-- The fork of a block. -/
def fork : Block → Fork
  | .phase0 _ => .phase0
  | .altair _ => .altair
  | .bellatrix _ => .bellatrix
  | .capella _ => .capella
  | .deneb _ _ => .deneb

/-- The signed block itself. -/
def signed : Block → Value
  | .phase0 signed => signed
  | .altair signed => signed
  | .bellatrix signed => signed
  | .capella signed => signed
  | .deneb signed _ => signed

/-- The sidecars a block holds. -/
def sidecars : Block → List Value
  | .deneb _ sidecars => sidecars
  | _ => []

/-- The signed block with its type. -/
def typed (b : Block) : Typed := ⟨b.fork.signedBlock, b.signed⟩

/-- The block inside the signature. -/
def message (b : Block) : Typed := b.typed.part ["message"]

/-- The body of a block. -/
def body (b : Block) : Typed := b.typed.part ["message", "body"]

/-- The slot of a block. -/
def slot (b : Block) : Nat := b.typed.number ["message", "slot"]

/-- The root of a block, which is the root of its message. -/
def root (b : Block) : Except RootFault Bytes := b.message.type.root b.message.value

/-- The root of a block's body. -/
def bodyRoot (b : Block) : Except RootFault Bytes := b.body.type.root b.body.value

/-- A block from a value of a type, which has to be the signed block of the
    fork. -/
def wrap (fork : Fork) (t : Typed) : Option Block :=
  if t.type = fork.signedBlock then some (ofFork fork t.value) else none

/-- What is said when a value is not the signed block of a fork. -/
def expects (fork : Fork) : String := s!"{fork.name} expects {fork.signedBlock.name}"

/-- A block from the name of its fork and its data. -/
def read (version : Text) (d : Datum) : Except BlockFault Block :=
  match Fork.ofName? version.legible with
  | none => .error (.unknownVersion version)
  | some fork => match fork.signedBlock.read d with
    | .ok signed => .ok (ofFork fork signed)
    | .error fault => .error (.invalid fault)

/-- A Deneb block with sidecars attached; any other block stays as it is. -/
def attach (sidecars : List Value) : Block → Block
  | .deneb signed _ => .deneb signed sidecars
  | b => b

@[simp] theorem fork_ofFork (fork : Fork) (signed : Value) : (ofFork fork signed).fork = fork := by
  cases fork <;> rfl

@[simp] theorem signed_ofFork (fork : Fork) (signed : Value) :
    (ofFork fork signed).signed = signed := by
  cases fork <;> rfl

end Block

/-- A blob sidecar from data. -/
def Sidecar.read (d : Datum) : Except Fault Value := Operation.blobSidecar.read d

end Beacon
