import Beacon.Bytes.Basic
import Beacon.Text.Basic

/-!
# Text in Wide Units

Reading UTF-16 and UTF-32 in either order of bytes. A unit is two or four
bytes; a character outside the first plane takes a pair of two-byte units. Half
of a pair by itself stays a half. Bytes that do not come out even and numbers
that are no code point make the whole unreadable.

## Main definitions

* `Wide.units?`: Bytes as units of two or four bytes.
* `Wide.decode16?`, `Wide.decode32?`: The text of bytes.
-/

namespace Beacon

namespace Wide

/-- The number that the bytes of a unit make. -/
def number (bigEndian : Bool) (unit : Bytes) : Nat :=
  (if bigEndian then unit else unit.reverse).foldl (fun n b => 256 * n + b.toNat) 0

/-- Bytes as units of two bytes. -/
def pairs? (bigEndian : Bool) : Bytes → Option (List Nat)
  | [] => some []
  | a :: b :: rest => (pairs? bigEndian rest).map (number bigEndian [a, b] :: ·)
  | _ => none

/-- Bytes as units of four bytes. -/
def quads? (bigEndian : Bool) : Bytes → Option (List Nat)
  | [] => some []
  | a :: b :: c :: d :: rest => (quads? bigEndian rest).map (number bigEndian [a, b, c, d] :: ·)
  | _ => none

/-- The code point of a number, if it has one. -/
def point? (n : Nat) : Option CodePoint := if n < 0x110000 then some (.ofNat n) else none

/-- The text of two-byte units, `high` being the unit before them if it is the
    first half of a pair. -/
def ofUnits (high : Option Nat) : List Nat → Text
  | [] => (high.map CodePoint.ofNat).toList
  | a :: rest =>
    match high with
    | some h =>
      if 0xdc00 ≤ a ∧ a < 0xe000 then
        .ofNat (0x10000 + 0x400 * (h - 0xd800) + (a - 0xdc00)) :: ofUnits none rest
      else if 0xd800 ≤ a ∧ a < 0xdc00 then .ofNat h :: ofUnits (some a) rest
      else .ofNat h :: .ofNat a :: ofUnits none rest
    | none =>
      if 0xd800 ≤ a ∧ a < 0xdc00 then ofUnits (some a) rest else .ofNat a :: ofUnits none rest

/-- The text of bytes in UTF-16. -/
def decode16? (bigEndian : Bool) (bs : Bytes) : Option Text :=
  (pairs? bigEndian bs).map (ofUnits none)

/-- The text of bytes in UTF-32. -/
def decode32? (bigEndian : Bool) (bs : Bytes) : Option Text :=
  (quads? bigEndian bs).bind fun units => units.mapM point?

end Wide

end Beacon
