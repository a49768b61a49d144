import Beacon.Number.Decimal

/-!
# The Calendar

Days and dates of the Gregorian calendar, continued without end in both
directions: a year is a leap year if four divides it, except that of the years
that a hundred divides only those are that four hundred divides. Days are
counted from the first of January 1970.

Four hundred years are always the same number of days, and that is how a date
is found from a day: first the span of four hundred years, in it the century,
in the century the span of four years, in that the year. The last century of a
span and the last year of four are a day longer, so the quotient is cut at the
last one.

## Main definitions

* `Date`, `DateTime`: A day, and a second of it.
* `Calendar.isLeap`, `Calendar.monthLengths`: The lengths of years and months.
* `Date.toDays`, `Date.ofDays`: Days to their count, and back.
* `DateTime.toSeconds`, `DateTime.ofSeconds`: Seconds to their count, and back.
-/

namespace Beacon

/-- A day of the calendar. -/
structure Date where
  /-- The year. -/
  year : Int
  /-- The month, from one. -/
  month : Nat
  /-- The day of the month, from one. -/
  day : Nat
  deriving DecidableEq, Repr

/-- A second of a day. -/
structure DateTime where
  /-- The day. -/
  date : Date
  /-- The hour, from zero. -/
  hour : Nat
  /-- The minute, from zero. -/
  minute : Nat
  /-- The second, from zero. -/
  second : Nat
  deriving DecidableEq, Repr

namespace Calendar

/-- Whether a year has a day more than the others. -/
def isLeap (year : Int) : Bool :=
  year % 4 = 0 && (year % 100 ≠ 0 || year % 400 = 0)

/-- The lengths of the months of a year in order. -/
def monthLengths (year : Int) : List Nat :=
  [31, if isLeap year then 29 else 28, 31, 30, 31, 30, 31, 31, 30, 31, 30, 31]

/-- The days before the year after `past` years have passed since year one. -/
def daysBefore (past : Int) : Int := 365 * past + past / 4 - past / 100 + past / 400

/-- The days from the first of January of year one to the one of 1970. -/
def epoch : Int := 719162

/-- The month, counted on from `month`, and the day in it, of a day that lies
    `day` days after the start of the first of the months of these lengths. -/
def monthOf (month : Nat) : (lengths : List Nat) → (day : Nat) → Nat × Nat
  | [], day => (month, day + 1)
  | length :: rest, day =>
    if day < length then (month, day + 1) else monthOf (month + 1) rest (day - length)

/-- The years passed since year one, and the days passed in the year, on a day
    of a span of four hundred years. -/
def yearOf (day : Nat) : Nat × Nat :=
  let century := min (day / 36524) 3
  let day := day - 36524 * century
  let four := day / 1461
  let day := day % 1461
  let year := min (day / 365) 3
  (100 * century + 4 * four + year, day - 365 * year)

end Calendar

namespace Date

/-- Whether a date is on the calendar. -/
def isValid (d : Date) : Bool :=
  1 ≤ d.month && 1 ≤ d.day &&
    d.day ≤ ((Calendar.monthLengths d.year)[d.month - 1]?).getD 0

/-- The number of days from the first of January 1970 to a date. -/
def toDays (d : Date) : Int :=
  Calendar.daysBefore (d.year - 1)
    + Int.ofNat (((Calendar.monthLengths d.year).take (d.month - 1)).foldl (· + ·) 0)
    + (d.day : Int) - 1 - Calendar.epoch

/-- The date a number of days after the first of January 1970. -/
def ofDays (days : Int) : Date :=
  let days := days + Calendar.epoch
  let span := days / 146097
  let (past, day) := Calendar.yearOf (days % 146097).toNat
  let year := 400 * span + past + 1
  let (month, day) := Calendar.monthOf 1 (Calendar.monthLengths year) day
  ⟨year, month, day⟩

end Date

namespace DateTime

/-- Whether a date and time are on calendar and clock. -/
def isValid (d : DateTime) : Bool :=
  d.date.isValid && d.hour < 24 && d.minute < 60 && d.second < 60

/-- The number of seconds from the start of 1970 to a date and time. -/
def toSeconds (d : DateTime) : Int :=
  86400 * d.date.toDays + 3600 * d.hour + 60 * d.minute + d.second

/-- The date and time a number of seconds after the start of 1970. -/
def ofSeconds (seconds : Int) : DateTime :=
  let rest := (seconds % 86400).toNat
  ⟨Date.ofDays (seconds / 86400), rest / 3600, rest / 60 % 60, rest % 60⟩

/-- A number with zeros before it up to a width. -/
def padded (width n : Nat) : List Char :=
  let digits := Decimal.chars n
  List.replicate (width - digits.length) '0' ++ digits

/-- A date and time of a year that is not negative, with `between` standing
    between the two. -/
def chars (between : Char) (d : DateTime) : List Char :=
  padded 4 d.date.year.toNat ++ '-' :: padded 2 d.date.month ++ '-' :: padded 2 d.date.day
    ++ between :: padded 2 d.hour ++ ':' :: padded 2 d.minute ++ ':' :: padded 2 d.second

/-- A date and time as `YYYY-MM-DDTHH:MM:SS`. -/
def isoText (d : DateTime) : String := String.ofList (d.chars 'T')

/-- A date and time as `YYYY-MM-DD HH:MM:SS`. -/
def text (d : DateTime) : String := String.ofList (d.chars ' ')

end DateTime

end Beacon
