import Beacon.Datum.Basic
import Beacon.Bytes.Hex

/-!
# JSON Text of a Datum

The compact written form: no blanks, fields in their order, strings with only
the escapes that JSON demands. A character outside ASCII stands as itself, and
half of a surrogate pair as an escape, since it cannot stand as itself.

JSON has no byte strings and no tuples. A byte string is written as its hex
text and a tuple as a list, which is also how they are read by the types that
accept them.

## Main definitions

* `Datum.quoteChars`: A text between double quotes, escaped.
* `Datum.write`: The characters of a datum.
* `Datum.compact`: The same as a text.
-/

namespace Beacon

namespace Datum

/-- One character inside a JSON string. -/
def escapeChar (c : Char) : List Char :=
  if c = '"' then ['\\', '"']
  else if c = '\\' then ['\\', '\\']
  else if c = '\n' then ['\\', 'n']
  else if c = '\r' then ['\\', 'r']
  else if c = '\t' then ['\\', 't']
  else if c = '\x08' then ['\\', 'b']
  else if c = '\x0c' then ['\\', 'f']
  else if c.toNat < 32 then
    ['\\', 'u', '0', '0', Nat.digitChar (c.toNat / 16), Nat.digitChar (c.toNat % 16)]
  else [c]

/-- One code point inside a JSON string. -/
def escapePoint : CodePoint → List Char
  | .char c => escapeChar c
  | .half h => '\\' :: 'u' :: Nat.toDigits 16 (CodePoint.half h).code

/-- A text between double quotes. -/
def quoteChars (t : Text) : List Char := '"' :: t.flatMap escapePoint ++ ['"']

/-- The text of a double in JSON, where the two infinities and not-a-number
    have words of their own. -/
def realChars : Binary64 → List Char
  | .nan => "NaN".toList
  | .infinite negative => if negative then "-Infinity".toList else "Infinity".toList
  | x => x.text.toList

mutual

/-- The compact JSON text of a datum. -/
def write : Datum → List Char
  | .null => "null".toList
  | .bool b => if b then "true".toList else "false".toList
  | .int n => (Decimal.signed n).toList
  | .real x => realChars x
  | .text t => quoteChars t
  | .bytes bs => quoteChars (Hex.marked bs)
  | .list items => '[' :: writeItems true items
  | .tuple items => '[' :: writeItems true items
  | .record fields => '\x7b' :: writeFields true fields
termination_by structural d => d

/-- The rest of a list after its opening bracket. -/
def writeItems (first : Bool) : List Datum → List Char
  | [] => [']']
  | d :: rest => (if first then [] else [',']) ++ (write d ++ writeItems false rest)
termination_by structural ds => ds

/-- The rest of a record after its opening brace. -/
def writeFields (first : Bool) : List (Text × Datum) → List Char
  | [] => ['\x7d']
  | f :: rest => (if first then [] else [',']) ++ (writeField f ++ writeFields false rest)
termination_by structural fs => fs

/-- One field: its name, a colon and its value. -/
def writeField : Text × Datum → List Char
  | (name, value) => quoteChars name ++ ':' :: write value
termination_by structural f => f

end

/-- The compact JSON text of a datum, as a text. -/
def compact (d : Datum) : String := String.ofList (write d)

end Datum

end Beacon
