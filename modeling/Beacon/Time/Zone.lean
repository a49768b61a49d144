import Beacon.Time.Calendar

/-!
# Local Time

A zone whose clocks differ from universal time by a fixed number of seconds.
Going from Unix seconds to the local clock can fail in three ways: the seconds
do not fit the 64-bit word they are handed over in, the year does not fit the
32-bit word it is counted in from 1900, or the year is not one of the years
from 1 to 9999 that a date can name. The last rule is applied a second time to
the moment a day earlier, because the conversion looks there for a change of
the clocks.

Going back looks at the local clock too, at the moment that would be meant in
universal time, and a day before the moment found.

## Main definitions

* `Zone`: A zone by its offset.
* `ClockFault`: Why there is no local time.
* `Zone.wall`: What the local clock shows, if its year can be named.
* `Zone.toLocal`: The local date and time of a moment.
* `Zone.ofLocal?`: The moment of a local date and time.
-/

namespace Beacon

/-- A zone, by the seconds its clocks are ahead of universal time. -/
structure Zone where
  /-- Seconds ahead of universal time. -/
  offset : Int
  deriving DecidableEq, Repr

/-- Why there is no local time. -/
inductive ClockFault
  /-- The seconds do not fit a signed word of 64 bits. -/
  | outOfRange
  /-- The year does not fit a signed word of 32 bits, counted from 1900. -/
  | yearTooWide
  /-- The year is not from 1 to 9999. -/
  | yearOutOfRange (year : Int)
  deriving DecidableEq, Repr

/-- The text of a fault. -/
def ClockFault.message : ClockFault → String
  | .outOfRange => "timestamp out of range for platform time_t"
  | .yearTooWide => "[Errno 75] Value too large for defined data type"
  | .yearOutOfRange year => s!"year {Decimal.signed year} is out of range"

namespace Zone

/-- The zone of universal time. -/
def universal : Zone := ⟨0⟩

/-- Whether a number fits a signed word of a number of bits. -/
def fits (bits : Nat) : Int → Bool
  | .ofNat n => n < Nat.pow 2 (bits - 1)
  | .negSucc n => n < Nat.pow 2 (bits - 1)

/-- Whether the year of a date fits the word that it is counted in from 1900. -/
def countable (d : DateTime) : Bool := fits 32 (d.date.year - 1900)

/-- What the local clock shows at a moment, if its year is from 1 to 9999. The
    moment's year is counted in universal time and on the local clock, and must
    fit its word in both. The year that is refused is given as a signed word of
    32 bits. -/
def wall (z : Zone) (seconds : Int) : Except ClockFault DateTime :=
  if !fits 64 seconds then .error .outOfRange
  else
    let d := DateTime.ofSeconds (seconds + z.offset)
    let year := d.date.year
    if !countable (DateTime.ofSeconds seconds) || !countable d then .error .yearTooWide
    else if 1 ≤ year ∧ year ≤ 9999 then .ok d
    else .error (.yearOutOfRange (Int.bmod year (Nat.pow 2 32)))

/-- The seconds of a day. -/
def daySeconds : Int := 86400

/-- The local date and time of a moment. -/
def toLocal (z : Zone) (seconds : Int) : Except ClockFault DateTime := do
  let d ← z.wall seconds
  let _ ← z.wall (seconds - daySeconds)
  pure d

/-- The moment of a local date and time. -/
def ofLocal? (z : Zone) (d : DateTime) : Option Int :=
  let seconds := d.toSeconds
  if d.isValid && 1 ≤ d.date.year && d.date.year ≤ 9999
      && (z.wall seconds).isOk && (z.wall (seconds - z.offset - daySeconds)).isOk then
    some (seconds - z.offset)
  else none

end Zone

end Beacon
