import Beacon.Number.Binary64
import Beacon.Bytes.Basic
import Beacon.Text.Basic

/-!
# Data from Outside

What a node answers and what a caller passes in has no type until it is
checked. A `Datum` is such a value: what JSON can say, and beside it the two
things a caller inside a program can pass and JSON cannot, a byte string and a
fixed tuple.

A whole number and a number with a point are kept apart even when they are
equal, because a whole number is an acceptable slot and `1.0` is not. A record
keeps its fields in the order they were given, since faults are reported in
that order.

## Main definitions

* `Datum`: A value whose type has not been checked.
* `Datum.kind`: The name of its type, as messages give it.
* `Datum.items?`: What iterating over it yields.
* `Datum.put`, `Datum.field?`: Setting and looking up a field of a record.
-/

namespace Beacon

/-- A value whose type has not been checked. -/
inductive Datum
  | null
  | bool (b : Bool)
  | int (n : Int)
  | real (x : Binary64)
  | text (t : Text)
  | bytes (bs : Bytes)
  | list (items : List Datum)
  | tuple (items : List Datum)
  | record (fields : List (Text × Datum))
  deriving Repr, Inhabited, BEq

namespace Datum

/-- The name of a value's type, as messages give it. -/
def kind : Datum → String
  | .null => "NoneType"
  | .bool _ => "bool"
  | .int _ => "int"
  | .real _ => "float"
  | .text _ => "str"
  | .bytes _ => "bytes"
  | .list _ => "list"
  | .tuple _ => "tuple"
  | .record _ => "dict"

/-- What iterating over a value yields, for the values taken as sequences: the
    items of a list or tuple, and the names of a record's fields. A text and a
    byte string are single values here and not sequences. -/
def items? : Datum → Option (List Datum)
  | .list items => some items
  | .tuple items => some items
  | .record fields => some (fields.map fun (name, _) => .text name)
  | _ => none

/-- Sets a field: in place when the name is there already, and at the end
    otherwise. -/
def put (name : Text) (value : Datum) : List (Text × Datum) → List (Text × Datum)
  | [] => [(name, value)]
  | (n, v) :: rest =>
    if n = name then (name, value) :: rest else (n, v) :: put name value rest

/-- The field of a record by its name. -/
def field? (name : Text) : Datum → Option Datum
  | .record fields => fields.lookup name
  | _ => none

end Datum

end Beacon
