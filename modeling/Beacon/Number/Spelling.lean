import Beacon.Number.Binary64
import Beacon.Text.Numeric

/-!
# Spelled Numbers

The text forms in which a caller may give a number that need not be whole.
There may be blanks around it, its digits may be of any script, and an
underscore may stand between two digits. Beyond that it is a sign, digits with
a point somewhere among or beside them, and an exponent; or one of the words
`inf`, `infinity` and `nan` in any case.

A whole number has the same liberties, and neither point nor exponent.

The same digits, points and exponents occur without these liberties in JSON,
so the value of a literal that has already been cut into its parts is a
function of its own.

## Main definitions

* `Literal`: The parts of a number's text.
* `Literal.value`: The double nearest to it.
* `Binary64.ofText?`: The double a text spells.
* `Decimal.ofText?`: The whole number a text spells.
-/

namespace Beacon

/-- The parts of a number's text: its sign, the digits before and after the
    point, and the exponent. -/
structure Literal where
  /-- Whether a minus sign leads. -/
  negative : Bool
  /-- The digits before the point. -/
  whole : List Char
  /-- The digits after the point. -/
  fraction : List Char
  /-- The power of ten written after the digits. -/
  exponent : Int
  deriving DecidableEq, Repr

namespace Literal

/-- The double nearest to a literal. -/
def value (l : Literal) : Binary64 :=
  Binary64.ofDecimal l.negative (Decimal.value (l.whole ++ l.fraction))
    (l.exponent - Int.ofNat l.fraction.length)

end Literal

namespace Binary64

/-- A digit of any script as the ASCII digit of the same value. Other
    characters stay as they are. -/
def plainDigit (c : Char) : Char :=
  match Text.digitValue? c with
  | some n => Nat.digitChar n
  | none => c

/-- A text without the blanks at either end. -/
def trimBlanks (cs : List Char) : List Char :=
  ((cs.dropWhile Text.isBlank).reverse.dropWhile Text.isBlank).reverse

/-- Removes the underscores that stand between two digits, `last` being the
    character before. An underscore anywhere else is a fault. -/
def joinDigits (last : Option Char) : List Char → Option (List Char)
  | [] => some []
  | c :: rest =>
    if c = '_' then
      let follows := (rest.head?.map Char.isDigit).getD false
      if (last.map Char.isDigit).getD false && follows then joinDigits (some c) rest else none
    else (joinDigits (some c) rest).map (c :: ·)

/-- A leading sign, and whether it is a minus. -/
def takeSign : List Char → Bool × List Char
  | '-' :: rest => (true, rest)
  | '+' :: rest => (false, rest)
  | cs => (false, cs)

/-- An exponent that runs to the end of the text, or nothing at all. -/
def exponent? : List Char → Option Int
  | [] => some 0
  | c :: rest =>
    if c = 'e' || c = 'E' then
      let (negative, digits) := takeSign rest
      if Decimal.isNumeral digits then
        let n := Int.ofNat (Decimal.value digits)
        some (if negative then -n else n)
      else none
    else none

/-- The number written after a sign, as digits with an optional point. -/
def unsigned? (negative : Bool) (cs : List Char) : Option Binary64 :=
  let whole := cs.takeWhile Char.isDigit
  let rest := cs.dropWhile Char.isDigit
  let (fraction, rest) := match rest with
    | '.' :: rest => (rest.takeWhile Char.isDigit, rest.dropWhile Char.isDigit)
    | rest => ([], rest)
  if whole.isEmpty && fraction.isEmpty then none
  else (exponent? rest).map fun e => (Literal.mk negative whole fraction e).value

/-- The double a text spells, if it spells one. -/
def ofText? (s : String) : Option Binary64 := do
  let cs ← joinDigits none (trimBlanks (s.toList.map plainDigit))
  let (negative, rest) := takeSign cs
  let word := String.ofList (rest.map Char.toLower)
  if word = "inf" || word = "infinity" then some (.infinite negative)
  else if word = "nan" then some .nan
  else unsigned? negative rest

end Binary64

/-- The whole number a text spells, if it spells one and has no more digits
    than are read. -/
def Decimal.ofText? (s : String) : Option Int := do
  let cs ← Binary64.joinDigits none (Binary64.trimBlanks (s.toList.map Binary64.plainDigit))
  let (negative, digits) := Binary64.takeSign cs
  if isNumeral digits && digits.length ≤ maxDigits then
    let n := Int.ofNat (value digits)
    some (if negative then -n else n)
  else none

end Beacon
