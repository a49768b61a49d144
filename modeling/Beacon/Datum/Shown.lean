import Beacon.Datum.Basic
import Beacon.Text.Quoted

/-!
# Data in Messages

How a value that was refused is shown inside the message that refuses it. It is
the notation of a literal: quoted texts, brackets around lists, parentheses
around tuples with a comma after a lone item, braces around records, and words
with a capital letter for the constants.

## Main definitions

* `Datum.showChars`: The characters of a datum as it stands in a message.
* `Datum.shown`: The same as a text.
-/

namespace Beacon

namespace Datum

mutual

/-- A datum as it stands in a message. -/
def showChars : Datum → List Char
  | .null => "None".toList
  | .bool b => if b then "True".toList else "False".toList
  | .int n => (Decimal.signed n).toList
  | .real x => x.text.toList
  | .text t => (Quoted.text t).toList
  | .bytes bs => (Quoted.bytes bs).toList
  | .list items => '[' :: (showItems true items ++ [']'])
  | .tuple items =>
    '(' :: (showItems true items ++ (if items.length = 1 then [',', ')'] else [')']))
  | .record fields => '\x7b' :: (showFields true fields ++ ['\x7d'])
termination_by structural d => d

/-- Items with a comma and a blank between them. -/
def showItems (first : Bool) : List Datum → List Char
  | [] => []
  | d :: rest => (if first then [] else [',', ' ']) ++ (showChars d ++ showItems false rest)
termination_by structural ds => ds

/-- Fields with a comma and a blank between them. -/
def showFields (first : Bool) : List (Text × Datum) → List Char
  | [] => []
  | f :: rest => (if first then [] else [',', ' ']) ++ (showField f ++ showFields false rest)
termination_by structural fs => fs

/-- One field: its quoted name, a colon and its value. -/
def showField : Text × Datum → List Char
  | (name, value) => (Quoted.text name).toList ++ ':' :: ' ' :: showChars value
termination_by structural f => f

end

/-- A datum as it stands in a message, as a text. -/
def shown (d : Datum) : String := String.ofList (showChars d)

end Datum

end Beacon
