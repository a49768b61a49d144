import Beacon.Ssz.Bits
import Beacon.Ssz.Layout
import Beacon.Ssz.Size
import Beacon.Ssz.Value

/-!
# Encoding

The SSZ bytes of a value. Numbers are written low byte first in the width of
their type, byte strings are themselves, bit strings are packed, and everything
with members is laid out with offsets.

A bit list carries its length in the bytes: one more bit is set just past its
last one, and the highest bit of the last byte is that delimiter.

Encoding can fail in one way only for a value of a complete type: an offset that
does not fit in four bytes. A number can also be too wide when its type's width
is not a whole number of bytes, and for a sequence without elements it may be
impossible to tell what their size would have been.

## Main definitions

* `Schema.encode`: The bytes of a value.
-/

namespace Beacon

namespace Schema

mutual

/-- The bytes of a value of a type. -/
def encode : Schema → Value → Except Fault Bytes
  | .uint _ bits, .uint n =>
    if n < Nat.pow 256 (bits / 8) then .ok (Bytes.ofNat (bits / 8) n) else .error .tooWide
  | .bytes _ _, .bytes bs => .ok bs
  | .byteList _ _, .bytes bs => .ok bs
  | .bitvector _ length, .bits bs => Bits.pack ((length + 7) / 8) bs
  | .bitlist _ _, .bits bs => .ok (Bits.fill (bs.length / 8 + 1) (bs ++ [true]))
  | .vector _ element _, .row vs => do
    let fixed ← element.fixedness
    let parts ← vs.mapM fun v => (element.encode v).map (Layout.Part.mk fixed)
    Layout.encode parts
  | .list _ element _, .row vs => do
    let fixed ← element.fixedness
    let parts ← vs.mapM fun v => (element.encode v).map (Layout.Part.mk fixed)
    Layout.encode parts
  | .container name fields, .row vs => do
    let parts ← encodeAll name fields vs
    Layout.encode parts
  | s, _ => .error (.foreign s.name)

/-- The parts of a container's fields, `name` being the container's name. -/
def encodeAll (name : String) : Fields → List Value → Except Fault (List Layout.Part)
  | .nil, [] => .ok []
  | .cons _ type rest, v :: vs => do
    let fixed ← type.fixedness
    let bs ← type.encode v
    let parts ← encodeAll name rest vs
    pure (⟨fixed, bs⟩ :: parts)
  | _, _ => .error (.foreign name)

end

end Schema

end Beacon
