import Beacon.Bytes.Hex
import Beacon.Datum.Writer
import Beacon.Text.Quoted
import Beacon.Ssz.Bits
import Beacon.Ssz.Value

/-!
# How Values Are Written

Three written forms of a value, each a function of its type.

The node form is what the node API uses and what `Schema.read` takes back: a
number is a decimal numeral in a string, because a large one does not survive
in a JSON number; bytes and bits are hex text, and bits are the hex of their
encoding; a sequence is a list and a container a record.

The plain form keeps numbers as numbers and fixed byte strings as bytes, and is
the node form otherwise. The shown form names the type of every part and is
meant for a person looking at a value.

## Main definitions

* `Schema.present`: The node form.
* `Schema.plain`: The plain form.
* `Schema.show`: The shown form.
* `Schema.json`: The compact JSON text of the node form.
-/

namespace Beacon

namespace Bits

/-- The hex text of the encoding of a bit vector. -/
def vectorText (length : Nat) (bits : List Bool) : String :=
  Hex.marked (fill ((length + 7) / 8) bits)

/-- The hex text of the encoding of a bit list, its delimiter included. -/
def listText (bits : List Bool) : String :=
  Hex.marked (fill (bits.length / 8 + 1) (bits ++ [true]))

end Bits

namespace Schema

mutual

/-- A value in the form of the node API. -/
def present : Schema → Value → Datum
  | .uint _ _, .uint n => .text (Decimal.text n)
  | .bytes _ _, .bytes bs => .text (Hex.marked bs)
  | .byteList _ _, .bytes bs => .text (Hex.marked bs)
  | .bitvector _ length, .bits bits => .text (Bits.vectorText length bits)
  | .bitlist _ _, .bits bits => .text (Bits.listText bits)
  | .vector _ element _, .row vs => .list (vs.map element.present)
  | .list _ element _, .row vs => .list (vs.map element.present)
  | .container _ fields, .row vs => .record (presentAll fields vs)
  | _, _ => .null

/-- The fields of a container in the form of the node API. -/
def presentAll : Fields → List Value → List (Text × Datum)
  | .cons name type rest, v :: vs => (name, type.present v) :: presentAll rest vs
  | _, _ => []

end

mutual

/-- A value with its numbers as numbers and its fixed byte strings as bytes. -/
def plain : Schema → Value → Datum
  | .uint _ _, .uint n => .int n
  | .bytes _ _, .bytes bs => .bytes bs
  | .byteList _ _, .bytes bs => .text (Hex.marked bs)
  | .bitvector _ length, .bits bits => .text (Bits.vectorText length bits)
  | .bitlist _ _, .bits bits => .text (Bits.listText bits)
  | .vector _ element _, .row vs => .list (vs.map element.plain)
  | .list _ element _, .row vs => .list (vs.map element.plain)
  | .container _ fields, .row vs => .record (plainAll fields vs)
  | _, _ => .null

/-- The fields of a container in plain form. -/
def plainAll : Fields → List Value → List (Text × Datum)
  | .cons name type rest, v :: vs => (name, type.plain v) :: plainAll rest vs
  | _, _ => []

end

/-- Shown items in parentheses, a lone one with a comma after it. -/
def showRow : List String → String
  | [item] => "(" ++ item ++ ",)"
  | items => "(" ++ String.intercalate ", " items ++ ")"

/-- A truth value as it is shown. -/
def showBit (b : Bool) : String := if b then "True" else "False"

mutual

/-- A value with the names of its types. -/
def «show» : Schema → Value → String
  | .uint name _, .uint n => name ++ "(" ++ Decimal.text n ++ ")"
  | .bytes name _, .bytes bs => name ++ "(" ++ Hex.text bs ++ ")"
  | .byteList name _, .bytes bs => name ++ "(" ++ Quoted.bytes bs ++ ")"
  | .bitvector name _, .bits bits => name ++ "(" ++ showRow (bits.map showBit) ++ ")"
  | .bitlist name _, .bits bits => name ++ "(" ++ showRow (bits.map showBit) ++ ")"
  | .vector name element _, .row vs => name ++ "(" ++ showRow (vs.map element.show) ++ ")"
  | .list name element _, .row vs => name ++ "(" ++ showRow (vs.map element.show) ++ ")"
  | .container name fields, .row vs =>
    name ++ "(" ++ String.intercalate ", " (showAll fields vs) ++ ")"
  | s, _ => s.name

/-- The fields of a container, each with its name before it. -/
def showAll : Fields → List Value → List String
  | .cons name type rest, v :: vs => (name ++ "=" ++ type.show v) :: showAll rest vs
  | _, _ => []

end

/-- The compact JSON text of a value in the form of the node API. -/
def json (s : Schema) (v : Value) : String := (s.present v).compact

end Schema

end Beacon
