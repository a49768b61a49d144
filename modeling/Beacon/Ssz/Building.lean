import Beacon.Ssz.Input

/-!
# Values from Whatever Is Passed in

How a program builds a value of a type, from data and from values that it has already.

A value that is passed in where a value of its type is due is kept as it is, and so is
one of a type that is derived from the type that is due. Nothing about it is checked
again. It has been built before, and it keeps to what its own type asks for. Numbers
are the exception: a number is made anew, of the type that is due, unless it is an
element of a sequence.

All else is read. Data is read as `Schema.read` reads it, and a value of some other type
is read like data for what it is: a number, bytes, or a row of things.

The elements of a sequence are looked at by the sequence. If the annotation of the
sequence names their type as well, then they are looked at once more, and for what
is wrong with them then they are numbered.

## Main definitions

* `Classes.keep`: A value that is kept as it is.
* `Schema.accept`: A value of a type from whatever is passed in.
* `Schema.construct`: A value of a type from the argument of its constructor.
-/

namespace Beacon

/-- Keeps a value that is passed in if its type is the type that is due, or is derived
    from it. -/
def Classes.keep (c : Classes) (s : Schema) (i : Input) (otherwise : Except Fault Instance) :
    Except Fault Instance :=
  match i with
  | .made x => if c.isA x.type s then .ok x else otherwise
  | _ => otherwise

namespace Schema

/-- A collection from an input: either its contents themselves, or a record that holds
    them in its field `data`. Without that field the contents are those of `absent`. -/
def acceptCollection (contents : Input → Except Fault Instance) (absent i : Input) :
    Except Fault Instance :=
  match i.fields? with
  | some given =>
    Fault.closed ["data"] given
      (Fault.under (.field "data") (contents ((given.lookup ↑"data").getD absent)))
  | none => Fault.under (.field "data") (contents i)

/-- A bit string from an input: hex text is decoded as the encoding of the bits, and
    anything else is a collection. -/
def acceptBitfield (s : Schema) (contents : Input → Except Fault Instance) (i : Input) :
    Except Fault Instance :=
  match i with
  | .data (.text t) => (Fault.refuse do
    let bs ← Bytes.ofDatum (.text t)
    s.decode bs).map s.instantiate
  | i => acceptCollection contents (.data (.tuple [])) i

/-- Elements of a type from the contents of a sequence. One that is a value of the type
    is kept, and any other is checked by `accept`. -/
def acceptElements (c : Classes) (element : Schema) (accept : Input → Except Fault Instance)
    (i : Input) : Except Fault (List Instance) :=
  match i.items? with
  | none => .error (.notIterable i.kind)
  | some items => items.mapM fun item =>
    c.keep element item (checkedElement element.name item.kind (accept item))

/-- Elements looked at once more, the first of them under its number. -/
def acceptAgain (accept : Input → Except Fault Instance) :
    Nat → List Instance → Except Fault (List Instance)
  | _, [] => .ok []
  | n, x :: xs =>
    Fault.collect (· :: ·) (Fault.under (.index n) (accept (.made x))) (acceptAgain accept (n + 1) xs)

/-- A sequence of elements that are as many as it wants, which are looked at once more
    if the type of the sequence is annotated. -/
def acceptRow (c : Classes) (s : Schema) (accept : Input → Except Fault Instance)
    (xs : List Instance) : Except Fault Instance :=
  (if c.annotated s then acceptAgain accept 0 xs else .ok xs).map (.row s)

mutual

/-- A value of a type from whatever is passed in. -/
def accept (c : Classes) : Schema → Input → Except Fault Instance
  | .uint name bits, i => (Number.accept name bits i).map (.uint (.uint name bits))
  | .bytes name length, i =>
    c.keep (.bytes name length) i
      ((Fault.refuse (checkedBytes name length (Bytes.ofInput i))).map
        (instantiate (.bytes name length)))
  | .byteList name limit, i =>
    c.keep (.byteList name limit) i (acceptCollection
      (fun i => (checkedByteList name limit (Bytes.ofInput i)).map
        (instantiate (.byteList name limit)))
      (.data (.bytes [])) i)
  | .bitvector name length, i =>
    c.keep (.bitvector name length) i (acceptBitfield (.bitvector name length)
      (fun i => (checkedBitvector name length (Bits.ofInput i)).map
        (instantiate (.bitvector name length)))
      i)
  | .bitlist name limit, i =>
    c.keep (.bitlist name limit) i (acceptBitfield (.bitlist name limit)
      (fun i => (checkedBitlist name limit (Bits.ofInput i)).map
        (instantiate (.bitlist name limit)))
      i)
  | .vector name element length, i =>
    c.keep (.vector name element length) i (acceptCollection (fun i => do
      let xs ← acceptElements c element (element.accept c) i
      if xs.length = length then acceptRow c (.vector name element length) (element.accept c) xs
      else .error (Fault.problem (.refused (.elementCount name length xs.length))))
      (.data (.tuple [])) i)
  | .list name element limit, i =>
    c.keep (.list name element limit) i (acceptCollection (fun i => do
      let xs ← acceptElements c element (element.accept c) i
      if xs.length ≤ limit then acceptRow c (.list name element limit) (element.accept c) xs
      else .error (Fault.problem (.refused (.elementLimit name limit xs.length))))
      (.data (.tuple [])) i)
  | .container name fields, i =>
    c.keep (.container name fields) i (match i.fields? with
      | some given => Fault.closed (fieldNames fields) given
        ((acceptFields c given fields).map (.row (.container name fields)))
      | none => .error (Fault.problem (.notRecord name)))
  | .unfinished name outline, i =>
    let contents (_ : Input) : Except Fault Instance := .error (.undefined name outline.lacks)
    c.keep (.unfinished name outline) i (match outline with
      | .bytes => (Fault.refuse (checkedLengthless name (Bytes.ofInput i))).map
        (instantiate (.unfinished name .bytes))
      | .bitvector => acceptBitfield (.unfinished name .bitvector) contents i
      | .bitlist => acceptBitfield (.unfinished name .bitlist) contents i
      | _ => contents i)

/-- The values of all fields of a container, from the fields given. -/
def acceptFields (c : Classes) (given : List (Text × Input)) :
    Fields → Except Fault (List Instance)
  | .nil => .ok []
  | .cons name type rest =>
    Fault.collect (· :: ·) (Fault.required name (type.accept c) given) (acceptFields c given rest)

end

/-- A value of a type from the argument of its constructor: a whole number, bytes, the
    contents of a collection or the fields of a container. Numbers and fixed bytes are
    made anew. -/
def construct (c : Classes) : Schema → Input → Except Fault Instance
  | .uint name bits, i => (Number.ofInput name bits i).map (.uint (.uint name bits))
  | .bytes name length, i =>
    (checkedBytes name length (Bytes.ofInput i)).map (instantiate (.bytes name length))
  | .unfinished name .bytes, i =>
    (checkedLengthless name (Bytes.ofInput i)).map (instantiate (.unfinished name .bytes))
  | .container name fields, i => match i.fields? with
    | some given => accept c (.container name fields) (.record given)
    | none => .error (Fault.problem (.notRecord name))
  | s, i => accept c s (.record [("data", i)])

end Schema

end Beacon
