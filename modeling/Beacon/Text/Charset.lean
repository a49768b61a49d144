import Beacon.Text.Quoted

/-!
# Sets of Characters

A text is written for others in a set of characters, and what is not in the set
cannot be written. Either set has no place for half of a surrogate pair, and one
of them has none for anything outside ASCII. The fault that is reported is the
first one, together with those that follow it without a gap.

## Main definitions

* `Charset`: The sets.
* `CharsetFault`: Why a text cannot be written.
* `Charset.check`: The characters of a text that can be written.
-/

namespace Beacon

/-- A set of characters in which texts are written. -/
inductive Charset
  | ascii
  | unicode
  deriving DecidableEq, Repr

/-- Why a text cannot be written in a set of characters. -/
structure CharsetFault where
  /-- The set. -/
  charset : Charset
  /-- The first code point that is not in the set. -/
  point : CodePoint
  /-- Its position. -/
  position : Nat
  /-- How many code points from there on are not in the set. -/
  count : Nat
  deriving DecidableEq, Repr

namespace Charset

/-- The name of a set, which is that of the coding that writes it. -/
def name : Charset → String
  | .ascii => "ascii"
  | .unicode => "utf-8"

/-- What is said about code points that are not in a set. -/
def reason : Charset → String
  | .ascii => "ordinal not in range(128)"
  | .unicode => "surrogates not allowed"

/-- Whether a code point is in a set. -/
def holds : Charset → CodePoint → Bool
  | .ascii, p => p.isAscii
  | .unicode, p => p.isA fun _ => true

/-- The characters of a text, all of which have to be in the set. -/
def check (charset : Charset) (t : Text) : Except CharsetFault (List Char) :=
  match t.dropWhile charset.holds with
  | [] => .ok t.chars
  | p :: rest =>
    .error ⟨charset, p, t.length - (rest.length + 1),
      1 + (rest.takeWhile fun q => !charset.holds q).length⟩

/-- The characters of a text that is written code point by code point. -/
def checkEach (charset : Charset) (t : Text) : Except CharsetFault (List Char) :=
  match t.find? fun p => !charset.holds p with
  | none => .ok t.chars
  | some p => .error ⟨charset, p, 0, 1⟩

end Charset

/-- The text of a fault. -/
def CharsetFault.message (fault : CharsetFault) : String :=
  let points := if fault.count = 1 then
      s!"character '{String.ofList (Quoted.byCode fault.point.code)}' in position "
        ++ s!"{fault.position}"
    else s!"characters in position {fault.position}-{fault.position + fault.count - 1}"
  s!"'{fault.charset.name}' codec can't encode {points}: {fault.charset.reason}"

end Beacon
