/-!
# SSZ Types

The type language of beacon block schemas. A schema is built from whole numbers
of a fixed width, byte strings of a fixed length or up to a limit, bit strings
of a fixed length or up to a limit, sequences of a fixed length or up to a
limit, and containers of named fields.

Every schema carries its name, because names are what a fault reports: two
lists of the same elements and the same limit are different types when their
names differ. A type may also be left unfinished, its length, its limit or its
element missing. Such a type has a name and no values: building one says all
that the type lacks, and anything else that needs a missing part says which. Its
outline keeps the parts that are there.

Whether the values of a type all encode to the same number of bytes is a
property of the type, and with it goes that number of bytes.

## Main definitions

* `Schema`, `Fields`: A type, and the fields of a container.
* `Outline`: What there is of an unfinished type.
* `Schema.name`: The name of a type.
* `Schema.isFixed`: Whether every value encodes to the same number of bytes.
* `Schema.fixedSize`: That number of bytes.
* `Fields.extend`: The fields of a container that grows another one.
-/

namespace Beacon

mutual

/-- An SSZ type. -/
inductive Schema
  /-- Whole numbers of `bits` bits. -/
  | uint (name : String) (bits : Nat)
  /-- Byte strings of exactly `length` bytes. -/
  | bytes (name : String) (length : Nat)
  /-- Byte strings of at most `limit` bytes. -/
  | byteList (name : String) (limit : Nat)
  /-- Bit strings of exactly `length` bits. -/
  | bitvector (name : String) (length : Nat)
  /-- Bit strings of at most `limit` bits. -/
  | bitlist (name : String) (limit : Nat)
  /-- Exactly `length` values of one type. -/
  | vector (name : String) (element : Schema) (length : Nat)
  /-- At most `limit` values of one type. -/
  | list (name : String) (element : Schema) (limit : Nat)
  /-- A value for each of a list of named fields. -/
  | container (name : String) (fields : Fields)
  /-- A type whose definition is not complete. -/
  | unfinished (name : String) (outline : Outline)

/-- What there is of a type whose definition is not complete. -/
inductive Outline
  /-- Byte strings of one length. -/
  | bytes
  /-- Byte strings up to a limit. -/
  | byteList
  /-- Bit strings of one length. -/
  | bitvector
  /-- Bit strings up to a limit. -/
  | bitlist
  /-- So many values, if that is known, of a type that is not. -/
  | vector (length : Option Nat)
  /-- Values of one type, of which it is not known how many. -/
  | vectorOf (element : Schema)
  /-- At most so many values, if that is known, of a type that is not. -/
  | list (limit : Option Nat)
  /-- Values of one type, of which it is not known how many at most. -/
  | listOf (element : Schema)

/-- The fields of a container, in their order. -/
inductive Fields
  | nil
  | cons (name : String) (type : Schema) (rest : Fields)

end

deriving instance DecidableEq, Repr, Inhabited for Schema, Outline, Fields

namespace Outline

/-- What an unfinished type must still define. -/
def lacks : Outline → String
  | .bytes => "LENGTH"
  | .byteList => "LIMIT"
  | .bitvector => "LENGTH"
  | .bitlist => "LIMIT"
  | .vector _ => "ELEMENT_TYPE and LENGTH"
  | .vectorOf _ => "ELEMENT_TYPE and LENGTH"
  | .list _ => "ELEMENT_TYPE and LIMIT"
  | .listOf _ => "ELEMENT_TYPE and LIMIT"

/-- The missing part of an unfinished type that is looked for first. -/
def missing : Outline → String
  | .bytes => "LENGTH"
  | .byteList => "LIMIT"
  | .bitvector => "LENGTH"
  | .bitlist => "LIMIT"
  | .vector _ => "ELEMENT_TYPE"
  | .vectorOf _ => "LENGTH"
  | .list _ => "ELEMENT_TYPE"
  | .listOf _ => "LIMIT"

end Outline

namespace Schema

/-- The name of a type. -/
def name : Schema → String
  | .uint name _ => name
  | .bytes name _ => name
  | .byteList name _ => name
  | .bitvector name _ => name
  | .bitlist name _ => name
  | .vector name _ _ => name
  | .list name _ _ => name
  | .container name _ => name
  | .unfinished name _ => name

mutual

/-- Whether every value of a type encodes to the same number of bytes. -/
def isFixed : Schema → Bool
  | .uint _ _ => true
  | .bytes _ _ => true
  | .byteList _ _ => false
  | .bitvector _ _ => true
  | .bitlist _ _ => false
  | .vector _ element _ => element.isFixed
  | .list _ _ _ => false
  | .container _ fields => areFixed fields
  | .unfinished _ .bytes => true
  | .unfinished _ .bitvector => true
  | .unfinished _ (.vectorOf element) => element.isFixed
  | .unfinished _ _ => false

/-- Whether every field is of a type of fixed size. -/
def areFixed : Fields → Bool
  | .nil => true
  | .cons _ type rest => type.isFixed && areFixed rest

end

mutual

/-- The number of bytes every value of a type of fixed size encodes to. For a
    type of variable size it is of no meaning. -/
def fixedSize : Schema → Nat
  | .uint _ bits => bits / 8
  | .bytes _ length => length
  | .byteList _ _ => 0
  | .bitvector _ length => (length + 7) / 8
  | .bitlist _ _ => 0
  | .vector _ element length => element.fixedSize * length
  | .list _ _ _ => 0
  | .container _ fields => fixedSizes fields
  | .unfinished _ _ => 0

/-- The sum of the sizes of all fields. -/
def fixedSizes : Fields → Nat
  | .nil => 0
  | .cons _ type rest => type.fixedSize + fixedSizes rest

end

/-- The fields of a container; other types have none. -/
def fields : Schema → Fields
  | .container _ fields => fields
  | _ => .nil

end Schema

namespace Fields

/-- Fields from a list of names and types. -/
def ofList : List (String × Schema) → Fields
  | [] => .nil
  | (name, type) :: rest => .cons name type (ofList rest)

/-- The names and types of the fields, in their order. -/
def toList : Fields → List (String × Schema)
  | .nil => []
  | .cons name type rest => (name, type) :: toList rest

/-- Gives a field a type: in place if the name is there already, and after all
    others if it is not. -/
def set (name : String) (type : Schema) : Fields → Fields
  | .nil => .cons name type .nil
  | .cons n t rest =>
    if n = name then .cons name type rest else .cons n t (set name type rest)

/-- The fields of a container that grows another one: the other's come first,
    and a field of the same name takes the new type where it stands. -/
def extend (base : Fields) (more : List (String × Schema)) : Fields :=
  more.foldl (fun fields (name, type) => fields.set name type) base

@[simp] theorem toList_ofList (l : List (String × Schema)) : (ofList l).toList = l := by
  induction l with
  | nil => rfl
  | cons p rest ih => simp [ofList, toList, ih]

end Fields

end Beacon
