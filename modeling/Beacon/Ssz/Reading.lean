import Beacon.Bytes.Hex
import Beacon.Datum.Shown
import Beacon.Ssz.Decoding

/-!
# Values from Data

How unchecked data becomes a value of a type. The node API writes a number as a
decimal numeral, bytes and bits as hex, a sequence as a list and a container as
a record. Beyond that, a number may be given as a whole number, bytes as bytes,
bits as a list of zeros and ones, and every collection as a record whose only
field `data` holds its contents.

A container looks at all of its fields in order and then at the fields it does
not have, and reports everything it finds. The contents of a collection are
not collected in that way: an element that is no value of the element type ends
the whole check, and so does a value of a kind that holds no contents at all.

## Main definitions

* `Number.read`, `Number.make`, `Number.ofNumeral`: A number from data, from an
  argument and from a numeral.
* `Schema.read`: A value of a type from data.
* `Schema.make`: A value of a type from the argument of its constructor.
* `Schema.zero`: The value that is all zeros.
-/

namespace Beacon

namespace Number

/-- A number of a type, if it is in the type's range. -/
def ofInt (type : String) (bits : Nat) (n : Int) : Except Fault Nat :=
  match n with
  | .ofNat m => if m < Nat.pow 2 bits then .ok m else .error (.cause (.outOfRange type n))
  | .negSucc _ => .error (.cause (.outOfRange type n))

/-- A number of a type from a numeral of ASCII digits. -/
def ofNumeral (type : String) (bits : Nat) (t : Text) : Except Fault Nat :=
  let cs := t.chars
  if !Decimal.isNumeral cs then .error (.cause (.notDecimal type (Quoted.text t)))
  else if Decimal.maxDigits < cs.length then .error (.cause (.tooManyDigits cs.length))
  else ofInt type bits (Int.ofNat (Decimal.value cs))

/-- A number of a type from an argument, which has to be a whole number. -/
def make (type : String) (bits : Nat) : Datum → Except Fault Nat
  | .int n => ofInt type bits n
  | .bool b => .error (.cause (.notInteger (Datum.bool b).kind))
  | .real x => .error (.cause (.notInteger (Datum.real x).kind))
  | .text t => .error (.cause (.notInteger (Datum.text t).kind))
  | .bytes bs => .error (.cause (.notInteger (Datum.bytes bs).kind))
  | d => .error (.cause (.notNumeric d.kind))

/-- A number of a type from data: a numeral, or a whole number. -/
def read (type : String) (bits : Nat) (d : Datum) : Except Fault Nat :=
  Fault.refuse <| match d with
    | .text t => ofNumeral type bits t
    | d => make type bits d

end Number

namespace Bytes

/-- Bytes from data: hex text, or bytes. -/
def ofDatum : Datum → Except Fault Bytes
  | .text t => match Hex.read t.legible with
    | .ok bs => .ok bs
    | .error position => .error (.cause (.notHex position))
  | .bytes bs => .ok bs
  | d => .error (.cause (.notBytes d.kind))

end Bytes

namespace Bits

/-- A bit from data: zero or one in any of the numeric types. -/
def bitOf : Datum → Except Fault Bool
  | .bool b => .ok b
  | .int n =>
    if n = 0 then .ok false else if n = 1 then .ok true
    else .error (.cause (.badBit (Datum.int n).shown))
  | .real x =>
    if x.isZero then .ok false else if x.isOne then .ok true
    else .error (.cause (.badBit (Datum.real x).shown))
  | d => .error (.cause (.badBit d.shown))

/-- A row of bits from data. -/
def ofDatum (d : Datum) : Except Fault (List Bool) :=
  match d.items? with
  | some items => items.mapM bitOf
  | none => .error (.notBits d.kind)

end Bits

namespace Schema

/-- A value of exactly `length` bytes, if bytes were given. -/
def checkedBytes (name : String) (length : Nat) (given : Except Fault Bytes) : Except Fault Value := do
  let bs ← given
  if bs.length = length then pure (.bytes bs)
  else .error (.cause (.byteCount name length bs.length))

/-- Bytes of exactly `length` bytes from data. -/
def readBytes (name : String) (length : Nat) (d : Datum) : Except Fault Value :=
  checkedBytes name length (Bytes.ofDatum d)

/-- What comes of bytes for a type of which it is not known how many there have to
    be. -/
def checkedLengthless (name : String) (given : Except Fault Bytes) : Except Fault Value := do
  let _ ← given
  .error (Outline.gap name .bytes)

/-- Bytes from data, for such a type. -/
def readLengthless (name : String) (d : Datum) : Except Fault Value :=
  checkedLengthless name (Bytes.ofDatum d)

/-- The contents of a byte list, if bytes were given. -/
def checkedByteList (name : String) (limit : Nat) : Except Fault Bytes → Except Fault Value
  | .ok bs =>
    if bs.length ≤ limit then .ok (.bytes bs)
    else .error (Fault.problem (.refused (.byteLimit name limit bs.length)))
  | .error (.cause (.notBytes given)) => .error (.cause (.notBytes given))
  | .error e => Fault.refuse (.error e)

/-- The contents of a byte list from data. -/
def readByteList (name : String) (limit : Nat) (d : Datum) : Except Fault Value :=
  checkedByteList name limit (Bytes.ofDatum d)

/-- The contents of a bit vector, if bits were given. -/
def checkedBitvector (name : String) (length : Nat) (given : Except Fault (List Bool)) :
    Except Fault Value :=
  Fault.refuse <| do
    let bits ← given
    if bits.length = length then pure (.bits bits)
    else .error (.cause (.bitCount name length bits.length))

/-- The contents of a bit vector from data. -/
def readBitvector (name : String) (length : Nat) (d : Datum) : Except Fault Value :=
  checkedBitvector name length (Bits.ofDatum d)

/-- The contents of a bit list, if bits were given. -/
def checkedBitlist (name : String) (limit : Nat) (given : Except Fault (List Bool)) :
    Except Fault Value :=
  Fault.refuse <| do
    let bits ← given
    if bits.length ≤ limit then pure (.bits bits)
    else .error (.cause (.bitLimit name limit bits.length))

/-- The contents of a bit list from data. -/
def readBitlist (name : String) (limit : Nat) (d : Datum) : Except Fault Value :=
  checkedBitlist name limit (Bits.ofDatum d)

/-- A collection from data: either its contents themselves, or a record that
    holds them in its field `data`. Without that field the contents are those
    of `absent`. -/
def readCollection (contents : Datum → Except Fault Value) (absent : Datum) :
    Datum → Except Fault Value
  | .record given =>
    Fault.closed ["data"] given
      (Fault.under (.field "data") (contents (((Datum.record given).field? "data").getD absent)))
  | d => Fault.under (.field "data") (contents d)

/-- A bit string from data: hex text is decoded as the encoding of the bits,
    and anything else is a collection. -/
def readBitfield (s : Schema) (contents : Datum → Except Fault Value) :
    Datum → Except Fault Value
  | .text t => Fault.refuse <| do
    let bs ← Bytes.ofDatum (.text t)
    s.decode bs
  | d => readCollection contents (.tuple []) d

/-- An element of a sequence, if it is a value of the element type. What is wrong with
    it ends the check of the sequence, with its own problems. -/
def checkedElement {α : Type} (type kind : String) : Except Fault α → Except Fault α
  | .ok v => .ok v
  | .error (.invalid details) => .error (.element type kind details)
  | .error (.lacking type part) => .error (.lacking type part)
  | .error _ => .error (.element type kind [])

/-- Elements of a type from the contents of a sequence, each checked by `read`. -/
def readElements (type : String) (read : Datum → Except Fault Value) (d : Datum) :
    Except Fault (List Value) :=
  match d.items? with
  | none => .error (.notIterable d.kind)
  | some items => items.mapM fun item => checkedElement type item.kind (read item)

/-- The names of a container's fields. -/
def fieldNames : Fields → List String
  | .nil => []
  | .cons name _ rest => name :: fieldNames rest

mutual

/-- A value of a type from data. -/
def read : Schema → Datum → Except Fault Value
  | .uint name bits, d => (Number.read name bits d).map .uint
  | .bytes name length, d => Fault.refuse (readBytes name length d)
  | .byteList name limit, d => readCollection (readByteList name limit) (.bytes []) d
  | .bitvector name length, d =>
    readBitfield (.bitvector name length) (readBitvector name length) d
  | .bitlist name limit, d => readBitfield (.bitlist name limit) (readBitlist name limit) d
  | .vector name element length, d =>
    readCollection (fun d => do
      let vs ← readElements element.name element.read d
      if vs.length = length then pure (.row vs)
      else .error (Fault.problem (.refused (.elementCount name length vs.length))))
      (.tuple []) d
  | .list name element limit, d =>
    readCollection (fun d => do
      let vs ← readElements element.name element.read d
      if vs.length ≤ limit then pure (.row vs)
      else .error (Fault.problem (.refused (.elementLimit name limit vs.length))))
      (.tuple []) d
  | .container _ fields, .record given =>
    Fault.closed (fieldNames fields) given ((readFields given fields).map .row)
  | .container name _, _ => .error (Fault.problem (.notRecord name))
  | .unfinished name outline, d =>
    let contents (_ : Datum) : Except Fault Value := .error (.undefined name outline.lacks)
    match outline with
    | .bytes => Fault.refuse (readLengthless name d)
    | .bitvector => readBitfield (.unfinished name .bitvector) contents d
    | .bitlist => readBitfield (.unfinished name .bitlist) contents d
    | _ => contents d

/-- The values of all fields of a container, from the fields given. -/
def readFields (given : List (Text × Datum)) : Fields → Except Fault (List Value)
  | .nil => .ok []
  | .cons name type rest =>
    Fault.collect (· :: ·) (Fault.required name type.read given) (readFields given rest)

end

/-- A value of a type from the argument of its constructor: a whole number,
    bytes, the contents of a collection or the fields of a container. -/
def make : Schema → Datum → Except Fault Value
  | .uint name bits, d => (Number.make name bits d).map .uint
  | .bytes name length, d => readBytes name length d
  | .unfinished name .bytes, d => readLengthless name d
  | .container name fields, d => read (.container name fields) d
  | s, d => read s (.record [("data", d)])

/-- The value of a type of byte strings of one length that is all zeros. -/
def zero : Schema → Except Fault Value
  | .bytes _ length => .ok (.bytes (Bytes.zeros length))
  | .unfinished name .bytes => .error (Outline.gap name .bytes)
  | .uint name _ => .error (.lacking (some name) "zero")
  | _ => .error (.lacking none "zero")

end Schema

end Beacon
