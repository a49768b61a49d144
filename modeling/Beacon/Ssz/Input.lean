import Beacon.Datum.Shown
import Beacon.Ssz.Instance
import Beacon.Ssz.Reading

/-!
# What a Program Passes in

Data comes from outside, but the program that builds a value may pass in more than
data: values of the types themselves, lists and records with such values in them, and
things of its own. An `Input` is anything that may be passed in.

What a thing of another kind is makes no difference to a check. A check asks whether
there is a number in it, or bytes, or a bit, and what comes of iterating over it. So
such a thing is described by its answers.

A value of a type answers as well. A number is a number, also where a bit is due, and
fixed bytes are bytes. All others are neither, but can be iterated over: a byte list
gives the numbers of its bytes, a bit string its bits, a sequence its elements and a
container its fields, each as a pair of the name and the value.

## Main definitions

* `Input`: Anything that may be passed in.
* `Input.kind`, `Input.shown`: How it is named and shown in messages.
* `Input.items?`, `Input.fields?`: What comes of iterating over it, and its fields.
* `Number.ofInput`, `Bytes.ofInput`, `Bits.ofInput`: The number, the bytes and the bits
  that it is.
-/

namespace Beacon

/-- What a check finds out about a thing that is neither data nor of an SSZ type. -/
structure Traits where
  /-- The name of its type. -/
  kind : String
  /-- How it is shown. -/
  shown : String
  /-- The whole number that it is turned into when one is asked for, if there is one. -/
  number : Option Int
  /-- The bytes that it holds, if it is an array of bytes. -/
  bytes : Option Bytes
  /-- The bit that it is equal to, if it is equal to zero or one. -/
  bit : Option Bool
  /-- Whether it can be iterated over. -/
  iterable : Bool
  deriving Repr, Inhabited

/-- Anything that may be passed in. -/
inductive Input
  /-- Data, with nothing but data in it. -/
  | data (d : Datum)
  /-- A value of an SSZ type. -/
  | made (x : Instance)
  | list (items : List Input)
  | tuple (items : List Input)
  | record (fields : List (Text × Input))
  /-- Something else, and what comes of iterating over it. -/
  | thing (traits : Traits) (items : List Input)
  deriving Inhabited

namespace Instance

/-- The fields of a container as they come up in an iteration, each as a pair. -/
def pairs : Fields → List Instance → List Input
  | .cons name _ rest, x :: xs =>
    .tuple [.data (.text (Text.ofString name)), .made x] :: pairs rest xs
  | _, _ => []

/-- What comes of iterating over a value, for the values that are no single ones. -/
def items? : Instance → Option (List Input)
  | .bytes (.byteList _ _) bs => some (bs.map fun b => .data (.int b.toNat))
  | .bits _ bs => some (bs.map fun b => .data (.bool b))
  | .row (.vector _ _ _) xs => some (xs.map .made)
  | .row (.list _ _ _) xs => some (xs.map .made)
  | .row (.container _ fields) xs => some (pairs fields xs)
  | _ => none

end Instance

namespace Input

/-- The name of the type of an input, as messages give it. -/
def kind : Input → String
  | .data d => d.kind
  | .made x => x.type.name
  | .list _ => "list"
  | .tuple _ => "tuple"
  | .record _ => "dict"
  | .thing traits _ => traits.kind

mutual

/-- An input as it stands in a message. -/
def showChars : Input → List Char
  | .data d => d.showChars
  | .made x => x.show.toList
  | .list items => '[' :: (showItems true items ++ [']'])
  | .tuple items =>
    '(' :: (showItems true items ++ (if items.length = 1 then [',', ')'] else [')']))
  | .record fields => '\x7b' :: (showFields true fields ++ ['\x7d'])
  | .thing traits _ => traits.shown.toList
termination_by structural i => i

/-- Items with a comma and a blank between them. -/
def showItems (first : Bool) : List Input → List Char
  | [] => []
  | i :: rest => (if first then [] else [',', ' ']) ++ (showChars i ++ showItems false rest)
termination_by structural items => items

/-- Fields with a comma and a blank between them. -/
def showFields (first : Bool) : List (Text × Input) → List Char
  | [] => []
  | f :: rest => (if first then [] else [',', ' ']) ++ (showField f ++ showFields false rest)
termination_by structural fields => fields

/-- One field: its quoted name, a colon and its value. -/
def showField : Text × Input → List Char
  | (name, i) => (Quoted.text name).toList ++ ':' :: ' ' :: showChars i
termination_by structural f => f

end

/-- An input as it stands in a message, as a text. -/
def shown (i : Input) : String := String.ofList (showChars i)

/-- What comes of iterating over an input, for the inputs that are taken as sequences. -/
def items? : Input → Option (List Input)
  | .data d => d.items?.map (·.map .data)
  | .made x => x.items?
  | .list items => some items
  | .tuple items => some items
  | .record fields => some (fields.map fun (name, _) => .data (.text name))
  | .thing traits items => if traits.iterable then some items else none

/-- The fields of an input, if it is a record. -/
def fields? : Input → Option (List (Text × Input))
  | .data (.record given) => some (given.map fun (name, d) => (name, .data d))
  | .record given => some given
  | _ => none

end Input

namespace Number

/-- A number of a type from an input, which has to be a whole number or to be turned
    into one. -/
def ofInput (type : String) (bits : Nat) : Input → Except Fault Nat
  | .data d => make type bits d
  | .made (.uint _ n) => ofInt type bits n
  | .made (.bytes (.bytes name _) _) => .error (.cause (.notInteger name))
  | .thing traits _ => match traits.number with
    | some n => ofInt type bits n
    | none => .error (.cause (.notNumeric traits.kind))
  | i => .error (.cause (.notNumeric i.kind))

/-- A number of a type from an input, which may be a numeral as well. -/
def accept (type : String) (bits : Nat) : Input → Except Fault Nat
  | .data d => read type bits d
  | i => Fault.refuse (ofInput type bits i)

end Number

namespace Bytes

/-- The bytes that an input is. -/
def ofInput : Input → Except Fault Bytes
  | .data d => ofDatum d
  | .made (.bytes (.bytes _ _) bs) => .ok bs
  | .thing traits _ => match traits.bytes with
    | some bs => .ok bs
    | none => .error (.cause (.notBytes traits.kind))
  | i => .error (.cause (.notBytes i.kind))

end Bytes

namespace Bits

/-- The bit that an input is. -/
def bitOfInput : Input → Except Fault Bool
  | .data d => bitOf d
  | .made (.uint type n) => if n = 0 then .ok false else if n = 1 then .ok true
    else .error (.cause (.badBit (Instance.uint type n).show))
  | .thing traits _ => match traits.bit with
    | some b => .ok b
    | none => .error (.cause (.badBit traits.shown))
  | i => .error (.cause (.badBit i.shown))

/-- The bits that an input is a row of. -/
def ofInput (i : Input) : Except Fault (List Bool) :=
  match i.items? with
  | some items => items.mapM bitOfInput
  | none => .error (.notBits i.kind)

end Bits

end Beacon
