import Beacon.Merkle.Tree
import Beacon.Ssz.Encoding

/-!
# The Root of a Value

Every value has a root, and the root of a block is how the chain names it.

A number or a fixed byte string is packed into chunks from its encoding. A
byte list or bit string is packed from its contents. The numbers of a sequence
of numbers share chunks, while any other element is a leaf by its own root, and
so is a field of a container. Where a type has a limit the tree is as wide as
the limit, whatever the value holds, and the number of bytes, bits or elements
is mixed in.

## Main definitions

* `Schema.root`: The root of a value of a type.
-/

namespace Beacon

namespace RootFault

/-- A fault of the encoding as a fault of the root. -/
def ofEncoding {α : Type} : Except Fault α → Except RootFault α
  | .ok a => .ok a
  | .error e => .error (.encoding e)

end RootFault

namespace Schema

/-- The bytes of a number of a type, for numbers that share chunks; other types
    have none. -/
def sharedSize? : Schema → Option Nat
  | .uint _ bits => some (bits / 8)
  | _ => none

/-- The chunks that a type asks room for, for sequences of up to `capacity` of
    its values. -/
def room (element : Schema) (capacity : Nat) : Nat :=
  match element.sharedSize? with
  | some size => Chunk.needed (capacity * size) Chunk.size
  | none => capacity

mutual

/-- The root of a value of a type. -/
def root : Schema → Value → Except RootFault Bytes
  | .uint name bits, v => do
    let bs ← RootFault.ofEncoding ((Schema.uint name bits).encode v)
    Merkle.root (Chunk.ofBytes bs) none
  | .bytes _ _, .bytes bs => Merkle.root (Chunk.ofBytes bs) none
  | .byteList _ limit, .bytes bs => do
    let contents ← Merkle.root (Chunk.ofBytes bs) (some (Chunk.needed limit Chunk.size))
    Merkle.mixInLength contents bs.length
  | .bitvector _ length, .bits bs =>
    Merkle.root (Chunk.ofBits bs) (some (Chunk.needed length Chunk.bits))
  | .bitlist _ limit, .bits bs => do
    let contents ← Merkle.root (Chunk.ofBits bs) (some (Chunk.needed limit Chunk.bits))
    Merkle.mixInLength contents bs.length
  | .vector name element length, .row vs => do
    let chunks ← match element.sharedSize? with
      | some _ =>
        (RootFault.ofEncoding ((Schema.vector name element length).encode (.row vs))).map
          Chunk.ofBytes
      | none => vs.mapM element.root
    Merkle.root chunks (some (element.room length))
  | .list name element limit, .row vs => do
    let chunks ← match element.sharedSize? with
      | some _ =>
        (RootFault.ofEncoding ((Schema.list name element limit).encode (.row vs))).map
          Chunk.ofBytes
      | none => vs.mapM element.root
    let contents ← Merkle.root chunks (some (element.room limit))
    Merkle.mixInLength contents vs.length
  | .container name fields, .row vs => do
    let chunks ← rootAll name fields vs
    Merkle.root chunks none
  | s, _ => .error (.encoding (.foreign s.name))

/-- The roots of a container's fields, `name` being the container's name. -/
def rootAll (name : String) : Fields → List Value → Except RootFault (List Bytes)
  | .nil, [] => .ok []
  | .cons _ type rest, v :: vs => do
    let chunk ← type.root v
    let chunks ← rootAll name rest vs
    pure (chunk :: chunks)
  | _, _ => .error (.encoding (.foreign name))

end

end Schema

end Beacon
