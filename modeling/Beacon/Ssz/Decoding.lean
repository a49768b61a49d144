import Beacon.Ssz.Bits
import Beacon.Ssz.Layout
import Beacon.Ssz.Size
import Beacon.Ssz.Value

/-!
# Decoding

The value that a whole byte string encodes. Nothing may be left over, nothing
may be missing, and the first thing found wrong is reported with the type it is
wrong with.

The sizes that a type is taken apart by have to be known beforehand, which is no
question for a complete type. An unfinished one is taken apart as far as its
outline goes, and then what it lacks is the fault.

A container is taken apart in a fixed order, which decides the fault that is
reported when there are several: its fixed part is cut, the fields of fixed
size are decoded, a container without variable fields must then be at its end,
the variable part is cut, and the variable fields are decoded.

A list whose elements vary in size does not store its length. Its first offset
does: the offsets stand before the elements, so the first one says how many
there are.

## Main definitions

* `Schema.decode`: The value of a type that bytes encode.
-/

namespace Beacon

namespace Schema

/-- The bytes each field takes in the fixed part of a container. -/
def headSizes : Fields → List Nat
  | .nil => []
  | .cons _ type rest =>
    (if type.isFixed then type.fixedSize else Layout.offsetSize) :: headSizes rest

/-- The offsets among the pieces of a fixed part, each with its field's name. -/
def headOffsets : Fields → List Bytes → List (String × Nat)
  | .cons name type rest, piece :: pieces =>
    if type.isFixed then headOffsets rest pieces
    else (name, Layout.decodeOffset piece) :: headOffsets rest pieces
  | _, _ => []

/-- The bytes of `count` elements of variable size. Their names are their
    numbers in brackets. -/
def sliceElements (type : String) (data : Bytes) (count : Nat) : Except Fault (List Bytes) :=
  let table := data.take (count * Layout.offsetSize)
  let offsets := (Layout.pieces Layout.offsetSize count table).zipIdx.map
    fun (piece, i) => (s!"[{i}]", Layout.decodeOffset piece)
  Layout.sliceVariable type data table.length offsets

/-- The number of elements of variable size that bytes encode, by their first
    offset. -/
def elementCount (type : String) (data : Bytes) : Except Fault Nat :=
  let first := Layout.decodeOffset (data.take Layout.offsetSize)
  if data.length < Layout.offsetSize ∨ first % Layout.offsetSize ≠ 0 ∨ first = 0
      ∨ data.length < first then
    .error (.cause (.decode type (.firstOffset first)))
  else .ok (first / Layout.offsetSize)

/-- The fault at which taking bytes apart as a sequence of one type ends, when it
    is not known how many there may be at most. -/
def stopUnlimited (name : String) (element : Schema) (data : Bytes) : Fault :=
  let reached : Except Fault Unit := do
    element.measured
    if element.isFixed then discard (Layout.splitUniform name data element.fixedSize)
    else if data.isEmpty then .error (.undefined name (Outline.listOf element).lacks)
    else discard (elementCount name data)
  match reached with
  | .error fault => fault
  | .ok () => Outline.gap name (.listOf element)

/-- The fault at which taking bytes apart as a value of an unfinished type
    ends. -/
def stop (name : String) (outline : Outline) (data : Bytes) : Fault :=
  match outline with
  | .bitlist =>
    if data.getLast?.getD 0 = 0 then .cause (.decode name .noDelimiter)
    else outline.gap name
  | .vectorOf element => match element.measured with
    | .error fault => fault
    | .ok () => Outline.gap name (.vectorOf element)
  | .listOf element => stopUnlimited name element data
  | outline => outline.gap name

mutual

/-- The value of a type that bytes encode. -/
def decode : Schema → Bytes → Except Fault Value
  | .uint name bits, data =>
    if data.length = bits / 8 then .ok (.uint (Bytes.toNat data))
    else .error (.cause (.decode name (.wrongWidth (bits / 8) data.length)))
  | .bytes name length, data =>
    if data.length = length then .ok (.bytes data)
    else .error (.cause (.byteCount name length data.length))
  | .byteList name limit, data =>
    if data.length ≤ limit then .ok (.bytes data)
    else .error (.cause (.decode name (.overLimit data.length limit)))
  | .bitvector name length, data =>
    let size := (length + 7) / 8
    if data.length = size then (Bits.unpack data length).map .bits
    else .error (.cause (.decode name (.wrongSize size data.length)))
  | .bitlist name limit, data =>
    match data.getLast? with
    | none => .error (.cause (.decode name .noDelimiter))
    | some last =>
      if last = 0 then .error (.cause (.decode name .noDelimiter))
      else
        let count := 8 * (data.length - 1) + Bits.highest last
        if limit < count then .error (.cause (.decode name (.overLimit count limit)))
        else (Bits.unpack data count).map .bits
  | .vector name element length, data => do
    element.measured
    if element.isFixed then
      let size := element.fixedSize * length
      if data.length = size then
        let pieces ← Layout.splitUniform name data element.fixedSize
        (pieces.mapM element.decode).map .row
      else .error (.cause (.decode name (.wrongSize size data.length)))
    else
      let pieces ← sliceElements name data length
      (pieces.mapM element.decode).map .row
  | .list name element limit, data => do
    element.measured
    if element.isFixed then
      let pieces ← Layout.splitUniform name data element.fixedSize
      if limit < pieces.length then .error (.cause (.elementLimit name limit pieces.length))
      else (pieces.mapM element.decode).map .row
    else if data.isEmpty then .ok (.row [])
    else
      let count ← elementCount name data
      if limit < count then .error (.cause (.elementLimit name limit count))
      else
        let pieces ← sliceElements name data count
        (pieces.mapM element.decode).map .row
  | .container name fields, data => do
    fieldsMeasured fields
    let sizes := headSizes fields
    let pieces ← Layout.splitFixed name sizes data
    let heads ← decodeFixed fields pieces
    let offsets := headOffsets fields pieces
    if offsets.isEmpty ∧ Layout.total sizes ≠ data.length then
      .error (.cause (.decode name (.wrongSize (Layout.total sizes) data.length)))
    else do
      let tails ← Layout.sliceVariable name data (Layout.total sizes) offsets
      (decodeVariable fields heads tails).map .row
  | .unfinished name outline, data => .error (stop name outline data)

/-- The fields of fixed size from the pieces of a fixed part; the others stay
    open. -/
def decodeFixed : Fields → List Bytes → Except Fault (List (Option Value))
  | .cons _ type rest, piece :: pieces => do
    let head ← if type.isFixed then (type.decode piece).map some else .ok none
    let heads ← decodeFixed rest pieces
    pure (head :: heads)
  | _, _ => .ok []

/-- All fields in order, the open ones from the pieces of the variable part. -/
def decodeVariable : Fields → List (Option Value) → List Bytes → Except Fault (List Value)
  | .cons _ _ rest, some v :: heads, tails => do
    let vs ← decodeVariable rest heads tails
    pure (v :: vs)
  | .cons _ type rest, none :: heads, tail :: tails => do
    let v ← type.decode tail
    let vs ← decodeVariable rest heads tails
    pure (v :: vs)
  | _, _, _ => .ok []

end

end Schema

end Beacon
