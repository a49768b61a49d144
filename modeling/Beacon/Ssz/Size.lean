import Beacon.Ssz.Fault
import Beacon.Ssz.Schema

/-!
# The Sizes of Types

Whether the values of a type all encode to the same number of bytes, and to how
many. For a complete type that is what `Schema.isFixed` and `Schema.fixedSize`
say. An unfinished type may lack the part that the answer depends on, also deep
inside a type that is itself complete, and then there is no answer.

What is asked first matters when several parts are missing. The fields of a
container are asked in order, and no further than the first of variable size; a
vector asks its elements before it looks at its own length.

## Main definitions

* `Outline.gap`: The fault of needing what an unfinished type lacks.
* `Schema.fixedness`: Whether a type is of fixed size, if that can be told.
* `Schema.size`: The size of a type of fixed size.
* `Schema.measured`: Whether all that a type's size depends on is there.
-/

namespace Beacon

/-- The fault of needing what the unfinished type of a name lacks. -/
def Outline.gap (name : String) : Outline → Fault
  | .bytes => .lacking (some name) Outline.bytes.missing
  | outline => .lacking none outline.missing

namespace Schema

mutual

/-- Whether every value of a type encodes to the same number of bytes, if that
    can be told. -/
def fixedness : Schema → Except Fault Bool
  | .vector _ element _ => element.fixedness
  | .container _ fields => fieldFixedness fields
  | .unfinished _ (.vectorOf element) => element.fixedness
  | .unfinished name (.vector length) => .error (Outline.gap name (.vector length))
  | s => .ok s.isFixed

/-- Whether every field is of a type of fixed size, if that can be told. -/
def fieldFixedness : Fields → Except Fault Bool
  | .nil => .ok true
  | .cons _ type rest => do if ← type.fixedness then fieldFixedness rest else .ok false

end

mutual

/-- The number of bytes every value of a type encodes to, for a type that has
    such a number. -/
def size : Schema → Except Fault Nat
  | .uint _ bits => .ok (bits / 8)
  | .bytes _ length => .ok length
  | .bitvector _ length => .ok ((length + 7) / 8)
  | .vector name element length => do
    if ← element.fixedness then return (← element.size) * length
    else .error (.variableSize name)
  | .container name fields => do
    if ← fieldFixedness fields then fieldSizes fields else .error (.variableSize name)
  | .unfinished name (.vectorOf element) => do
    if ← element.fixedness then
      let _ ← element.size
      .error (Outline.gap name (.vectorOf element))
    else .error (.variableSize name)
  | .unfinished name .bytes => .error (Outline.gap name .bytes)
  | .unfinished name .bitvector => .error (Outline.gap name .bitvector)
  | .unfinished name (.vector length) => .error (Outline.gap name (.vector length))
  | s => .error (.variableSize s.name)

/-- The sum of the sizes of all fields. -/
def fieldSizes : Fields → Except Fault Nat
  | .nil => .ok 0
  | .cons _ type rest => do
    let size ← type.size
    return size + (← fieldSizes rest)

end

/-- Whether all that the size of a type depends on is there: a type of fixed size
    has to know it, and one of variable size only that it is. -/
def measured (s : Schema) : Except Fault Unit := do
  if ← s.fixedness then discard s.size

/-- Whether all that the sizes of fields depend on is there. -/
def fieldsMeasured : Fields → Except Fault Unit
  | .nil => .ok ()
  | .cons _ type rest => do
    type.measured
    fieldsMeasured rest

end Schema

end Beacon
