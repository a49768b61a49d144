import Beacon.Bytes.Hex
import Beacon.Text.Basic
import Beacon.Time.Zone

/-!
# Time Expressions

The three ways to name a moment. A text that starts with `0x` is a hexadecimal
number of Unix seconds, one without a colon a decimal one, and any other is a
local date and time as `YYYY-MM-DDTHH:MM:SS`. A number may have a sign and
otherwise only ASCII digits, and has to fit a signed word of 64 bits.

The form is chosen by the text alone and is never reconsidered: a text that is
not of its form is a fault, even if it would be of another one.

## Main definitions

* `TimeForm`, `TimeForm.of`: The forms, and the form of a text.
* `TimeFault`: Why a text names no moment.
* `Time.parse`: The Unix seconds that a text names.
-/

namespace Beacon

/-- A way to name a moment. -/
inductive TimeForm
  | hex
  | decimal
  | datetime
  deriving DecidableEq, Repr

namespace TimeForm

/-- The name of a form. -/
def name : TimeForm → String
  | .hex => "hex string"
  | .decimal => "decimal string"
  | .datetime => "datetime"

/-- The form a text is taken to be of. -/
def of (cs : List Char) : TimeForm :=
  if ['0', 'x'].isPrefixOf cs then .hex
  else if cs.contains ':' then .datetime
  else .decimal

end TimeForm

/-- Why a text names no moment. -/
inductive TimeFault
  /-- The text is not of the form it was taken to be of. -/
  | unreadable (form : TimeForm) (expression : Text)
  /-- A decimal number has this many digits, more than are read. -/
  | tooManyDigits (count : Nat)
  deriving DecidableEq, Repr

namespace Time

/-- A sign, if there is one, and what follows it. -/
def takeSign : List Char → Bool × List Char
  | '-' :: rest => (true, rest)
  | '+' :: rest => (false, rest)
  | cs => (false, cs)

/-- A number with its sign. -/
def withSign (negative : Bool) (n : Nat) : Int := if negative then -(n : Int) else n

/-- The number that hexadecimal digits spell, high digit first. -/
def hexValue (cs : List Char) : Nat :=
  cs.foldl (fun n c => 16 * n + (Hex.value? c).getD 0) 0

/-- A number of seconds, if it fits a signed word of 64 bits. -/
def inRange? (n : Int) : Option Int := if Zone.fits 64 n then some n else none

/-- The seconds of a hexadecimal number without its `0x`. -/
def ofHex? (cs : List Char) : Option Int :=
  let (negative, digits) := takeSign cs
  if !digits.isEmpty && digits.all (fun c => (Hex.value? c).isSome) then
    inRange? (withSign negative (hexValue digits))
  else none

/-- The seconds of a decimal number. A number with too many digits is refused
    by their count, which is the error. -/
def ofDecimal (cs : List Char) : Except Nat (Option Int) :=
  let (negative, digits) := takeSign cs
  if !Decimal.isNumeral digits then .ok none
  else if Decimal.maxDigits < digits.length then .error digits.length
  else .ok (inRange? (withSign negative (Decimal.value digits)))

/-- The shape of a date and time, a zero standing for any digit. -/
def shape : List Char := "0000-00-00T00:00:00".toList

/-- Whether a text has the shape of a date and time. -/
def hasShape (cs : List Char) : Bool :=
  cs.length = shape.length &&
    (cs.zip shape).all fun (c, s) => if s = '0' then c.isDigit else c = s

/-- The number that stands in a text at a place. -/
def numberAt (start count : Nat) (cs : List Char) : Nat :=
  Decimal.value ((cs.drop start).take count)

/-- The date and time of a text that has their shape. -/
def dateTimeOf (cs : List Char) : DateTime :=
  ⟨⟨numberAt 0 4 cs, numberAt 5 2 cs, numberAt 8 2 cs⟩, numberAt 11 2 cs, numberAt 14 2 cs,
    numberAt 17 2 cs⟩

/-- The seconds of a local date and time. -/
def ofDateTime? (z : Zone) (cs : List Char) : Option Int :=
  if hasShape cs then z.ofLocal? (dateTimeOf cs) else none

/-- The Unix seconds that an expression names. -/
def parse (z : Zone) (expression : Text) : Except TimeFault Int :=
  let cs := expression.chars
  let form := TimeForm.of cs
  let settle : Option Int → Except TimeFault Int
    | some n => .ok n
    | none => .error (.unreadable form expression)
  match form with
  | .hex => settle (ofHex? (cs.drop 2))
  | .decimal => match ofDecimal cs with
    | .ok n => settle n
    | .error count => .error (.tooManyDigits count)
  | .datetime => settle (ofDateTime? z cs)

end Time

end Beacon
