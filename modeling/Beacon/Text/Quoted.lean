import Beacon.Bytes.Hex
import Beacon.Text.Basic
import Beacon.Text.Printable

/-!
# Quoted Text

How a text from outside is shown inside a message. It stands between single
quotes, or between double quotes when it holds a single quote and no double
one, so that the quotes need no escape if either kind is free. What is not
printable is escaped: tab, newline and carriage return by letter, and the rest
by code point, in the shortest of the three widths of two, four and eight
digits. Half of a surrogate pair never prints, so what is shown is a string.

A byte string is shown the same way after a `b`, a byte outside printable
ASCII counting as not printable.

## Main definitions

* `Quoted.text`: A text as it stands in a message.
* `Quoted.bytes`: A byte string as it stands in a message.
-/

namespace Beacon

namespace Quoted

/-- The quote a text is put between. -/
def quoteFor (t : Text) : Char :=
  if t.contains (.char '\'') && !t.contains (.char '"') then '"' else '\''

/-- A code point in a given number of hexadecimal digits. -/
def padded (width n : Nat) : List Char :=
  let digits := (Nat.toDigits 16 n)
  List.replicate (width - digits.length) '0' ++ digits

/-- An escape by code point, in the shortest width that holds it. -/
def byCode (n : Nat) : List Char :=
  if n < 0x100 then '\\' :: 'x' :: padded 2 n
  else if n < 0x10000 then '\\' :: 'u' :: padded 4 n
  else '\\' :: 'U' :: padded 8 n

/-- One character between quotes of kind `quote`, `printable` deciding what may
    stand as itself. -/
def shownChar (quote : Char) (printable : Char → Bool) (c : Char) : List Char :=
  if c = quote || c = '\\' then ['\\', c]
  else if c = '\t' then ['\\', 't']
  else if c = '\n' then ['\\', 'n']
  else if c = '\r' then ['\\', 'r']
  else if printable c then [c]
  else byCode c.toNat

/-- One code point between quotes of kind `quote`. -/
def shown (quote : Char) (printable : Char → Bool) : CodePoint → List Char
  | .char c => shownChar quote printable c
  | .half h => byCode (CodePoint.half h).code

/-- A text between the quote that suits it. -/
def chars (printable : Char → Bool) (t : Text) : List Char :=
  let quote := quoteFor t
  quote :: t.flatMap (shown quote printable) ++ [quote]

/-- A text as it stands in a message. -/
def text (t : Text) : String := String.ofList (chars Text.isPrintable t)

/-- A byte string as it stands in a message. -/
def bytes (bs : Bytes) : String :=
  let cs := Text.ofChars (bs.map fun b => Char.ofNat b.toNat)
  String.ofList ('b' :: chars (fun c => 32 ≤ c.toNat && c.toNat < 127) cs)

end Quoted

end Beacon
