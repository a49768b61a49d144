import Beacon.Time.Calendar
import Mathlib.Logic.Function.Iterate
import Mathlib.Tactic.IntervalCases

/-!
# Counting on the Calendar

The count of seconds is the number of ticks of a clock.

`DateTime.toSeconds` and `DateTime.ofSeconds` get from a date to a number and back
in closed form, with divisions for the years and a sum for the months. What the
number should be is much simpler to say: a clock goes on second by second, a
second before midnight the next thing it shows is the next day, the next day is
the first of a month if the month is over, and the next month is in the next year
if the year is over. `DateTime.tick` is that clock, and `DateTime.Elapsed` counts
its ticks from one date and time to another, backwards if need be.

One tick adds one to the count, and this is the only place where the lengths of
months and years meet the closed form. Everything else follows from it and from
two facts about the closed form: no two dates have the same count, and every
number is the count of one. For both of them the year is found first, as the one
in which the count lies, and then the month in the same way.

## Main definitions

* `Calendar.monthLength`, `Calendar.yearLength`: The lengths of a month and a year.
* `Calendar.daysInto`: The days of a year before one of its months.
* `Date.next`, `DateTime.tick`: The next day, and the next second.
* `DateTime.Elapsed`: So many seconds lead from one date and time to another.

## Theorems

* `Calendar.daysBefore_eq_add`: A year takes as many days as it is long.
* `Date.toDays_next`, `DateTime.toSeconds_tick`: A tick adds one to the count.
* `Date.eq_of_toDays_eq`, `DateTime.eq_of_toSeconds_eq`: No two dates have the same
  count.
* `Date.ofDays_spec`, `DateTime.ofSeconds_spec`: Every number is the count of a
  date.
* `DateTime.elapsed_iff`: What elapses is the difference of the counts.
-/

namespace Beacon

namespace Calendar

/-- The length of a month of a year, the months counted from one. -/
def monthLength (year : Int) (month : Nat) : Nat := ((monthLengths year)[month - 1]?).getD 0

/-- The days of a year before the month that comes after so many months. -/
def daysInto (year : Int) (months : Nat) : Nat :=
  ((monthLengths year).take months).foldl (· + ·) 0

/-- The length of a year. -/
def yearLength (year : Int) : Nat := if isLeap year then 366 else 365

theorem foldl_add_eq (a : Nat) (lengths : List Nat) :
    lengths.foldl (· + ·) a = a + lengths.foldl (· + ·) 0 := by
  induction lengths generalizing a with
  | nil => rfl
  | cons length rest ih =>
      rw [List.foldl_cons, List.foldl_cons, ih, ih (0 + length)]
      omega

theorem foldl_take_succ (lengths : List Nat) (k : Nat) :
    (lengths.take (k + 1)).foldl (· + ·) 0
      = (lengths.take k).foldl (· + ·) 0 + (lengths[k]?).getD 0 := by
  rw [List.take_add_one, List.foldl_append]
  cases lengths[k]? with
  | none => rfl
  | some length => rfl

/-- A month takes as many days as it is long. -/
theorem daysInto_eq_add (year : Int) (month : Nat) (h : 1 ≤ month) :
    daysInto year month = daysInto year (month - 1) + monthLength year month := by
  obtain ⟨k, rfl⟩ : ∃ k, month = k + 1 := ⟨month - 1, by omega⟩
  exact foldl_take_succ (monthLengths year) k

theorem daysInto_mono (year : Int) (m n : Nat) (h : m ≤ n) : daysInto year m ≤ daysInto year n := by
  induction h with
  | refl => exact Nat.le_refl _
  | @step n _ ih =>
      have hmonth := daysInto_eq_add year (n + 1) (Nat.le_add_left 1 n)
      rw [Nat.add_sub_cancel] at hmonth
      rw [Nat.succ_eq_add_one]
      omega

/-- Twelve months are a year. -/
theorem daysInto_twelve (year : Int) : daysInto year 12 = yearLength year := by
  unfold daysInto yearLength monthLengths
  cases isLeap year <;> rfl

theorem monthLength_pos (year : Int) (month : Nat) (hpos : 1 ≤ month) (hle : month ≤ 12) :
    1 ≤ monthLength year month := by
  unfold monthLength monthLengths
  cases isLeap year <;> interval_cases month <;> decide

theorem monthLength_le (year : Int) (month : Nat) : monthLength year month ≤ 31 := by
  have hlengths : ∀ length ∈ monthLengths year, length ≤ 31 := by
    unfold monthLengths
    cases isLeap year <;> decide
  rw [monthLength]
  cases hmonth : (monthLengths year)[month - 1]? with
  | none => exact Nat.zero_le 31
  | some length => exact hlengths length (List.mem_of_getElem? hmonth)

theorem month_le_of_monthLength_pos (year : Int) (month : Nat) (h : 1 ≤ monthLength year month) :
    month ≤ 12 := by
  by_contra hlt
  have hnone : (monthLengths year)[month - 1]? = none := by
    rw [List.getElem?_eq_none_iff]
    have hlen : (monthLengths year).length = 12 := rfl
    omega
  rw [monthLength, hnone] at h
  exact absurd h (by decide)

theorem isLeap_iff (year : Int) :
    isLeap year = true ↔ year % 4 = 0 ∧ (year % 100 ≠ 0 ∨ year % 400 = 0) := by
  simp only [isLeap, Bool.and_eq_true, Bool.or_eq_true, decide_eq_true_eq]

/-- A year takes as many days as it is long. -/
theorem daysBefore_eq_add (year : Int) :
    daysBefore year = daysBefore (year - 1) + yearLength year := by
  unfold daysBefore yearLength
  by_cases h : isLeap year = true
  · rw [if_pos h]
    rw [isLeap_iff] at h
    omega
  · rw [if_neg h]
    rw [isLeap_iff] at h
    omega

theorem daysBefore_mono (a b : Int) (h : a ≤ b) : daysBefore a ≤ daysBefore b := by
  unfold daysBefore
  omega

/-- The year in which a count of days lies is told by the count. -/
theorem year_eq_of_between (n y z : Int) (hy : daysBefore (y - 1) ≤ n) (hy' : n < daysBefore y)
    (hz : daysBefore (z - 1) ≤ n) (hz' : n < daysBefore z) : y = z := by
  rcases Int.lt_trichotomy y z with hlt | heq | hgt
  · have := daysBefore_mono y (z - 1) (by omega)
    omega
  · exact heq
  · have := daysBefore_mono z (y - 1) (by omega)
    omega

/-- The month in which a count of days of a year lies is told by the count. -/
theorem month_eq_of_between (year : Int) (n k m : Nat) (hk : daysInto year (k - 1) ≤ n)
    (hk' : n < daysInto year k) (hm : daysInto year (m - 1) ≤ n) (hm' : n < daysInto year m) :
    k = m := by
  rcases Nat.lt_trichotomy k m with hlt | heq | hgt
  · have := daysInto_mono year k (m - 1) (by omega)
    omega
  · exact heq
  · have := daysInto_mono year m (k - 1) (by omega)
    omega

/-- The days before a year, for years counted by centuries and by fours. -/
theorem daysBefore_parts (century four year : Nat) (hcentury : century ≤ 3) (hfour : four ≤ 24)
    (hyear : year ≤ 3) : daysBefore (100 * century + 4 * four + year : Nat)
      = 36524 * century + 1461 * four + 365 * year := by
  have h4 : (100 * century + 4 * four + year) / 4 = 25 * century + four := by omega
  have h100 : (100 * century + 4 * four + year) / 100 = century := by omega
  have h400 : (100 * century + 4 * four + year) / 400 = 0 := by omega
  unfold daysBefore
  omega

/-- A day of a span of four hundred years lies in the year that is found for it. -/
theorem yearOf_spec (day : Nat) (h : day < 146097) :
    ∃ past inYear : Nat, yearOf day = (past, inYear) ∧ daysBefore past + inYear = day ∧
      inYear < yearLength (past + 1) := by
  obtain ⟨century, hcentury⟩ : ∃ c, c = min (day / 36524) 3 := ⟨_, rfl⟩
  obtain ⟨rest, hrest⟩ : ∃ r, r = day - 36524 * century := ⟨_, rfl⟩
  obtain ⟨four, hfour⟩ : ∃ f, f = rest / 1461 := ⟨_, rfl⟩
  obtain ⟨last, hlast⟩ : ∃ l, l = rest % 1461 := ⟨_, rfl⟩
  obtain ⟨year, hyear⟩ : ∃ y, y = min (last / 365) 3 := ⟨_, rfl⟩
  have hparts := daysBefore_parts century four year (by omega) (by omega) (by omega)
  refine ⟨100 * century + 4 * four + year, last - 365 * year, ?_, ?_, ?_⟩
  · simp only [yearOf, ← hcentury, ← hrest, ← hfour, ← hlast, ← hyear]
  · rw [hparts]
    omega
  -- Only the last of four years can have a day more, and it does unless it ends one of the
  -- first three centuries.
  · have hleap := isLeap_iff ((100 * century + 4 * four + year : Nat) + 1 : Int)
    unfold yearLength
    by_cases hcond : isLeap ((100 * century + 4 * four + year : Nat) + 1 : Int) = true
    · rw [if_pos hcond]
      omega
    · rw [if_neg hcond]
      rw [hleap] at hcond
      omega

/-- A day of a year lies in the month that is found for it. -/
theorem monthOf_spec (lengths : List Nat) (month day : Nat)
    (h : day < lengths.foldl (· + ·) 0) :
    ∃ k e, monthOf month lengths day = (month + k, e + 1) ∧ e < (lengths[k]?).getD 0 ∧
      (lengths.take k).foldl (· + ·) 0 + e = day := by
  induction lengths generalizing month day with
  | nil => exact absurd h (Nat.not_lt_zero day)
  | cons length rest ih =>
      rw [monthOf]
      by_cases hlt : day < length
      · rw [if_pos hlt]
        exact ⟨0, day, rfl, hlt, Nat.zero_add day⟩
      · rw [if_neg hlt]
        rw [List.foldl_cons, foldl_add_eq] at h
        obtain ⟨k, e, hfound, he, hsum⟩ := ih (month + 1) (day - length) (by omega)
        refine ⟨k + 1, e, ?_, he, ?_⟩
        · rw [hfound, Nat.add_assoc, Nat.add_comm 1 k]
        · rw [List.take_succ_cons, List.foldl_cons, foldl_add_eq]
          omega

end Calendar

namespace Date

open Calendar

theorem isValid_iff (d : Date) :
    d.isValid = true ↔ 1 ≤ d.month ∧ 1 ≤ d.day ∧ d.day ≤ monthLength d.year d.month := by
  simp only [isValid, Bool.and_eq_true, decide_eq_true_eq, monthLength, and_assoc]

theorem toDays_eq (d : Date) :
    d.toDays = daysBefore (d.year - 1) + daysInto d.year (d.month - 1) + d.day - 1 - epoch := rfl

/-- The day after a day. -/
def next (d : Date) : Date :=
  if d.day < monthLength d.year d.month then ⟨d.year, d.month, d.day + 1⟩
  else if d.month < 12 then ⟨d.year, d.month + 1, 1⟩
  else ⟨d.year + 1, 1, 1⟩

theorem isValid_next (d : Date) (h : d.isValid = true) : d.next.isValid = true := by
  rw [isValid_iff] at h
  unfold next
  by_cases hday : d.day < monthLength d.year d.month
  · rw [if_pos hday]
    simp only [isValid_iff]
    exact ⟨h.1, Nat.le_add_left 1 d.day, hday⟩
  rw [if_neg hday]
  by_cases hmonth : d.month < 12
  · rw [if_pos hmonth]
    simp only [isValid_iff]
    exact ⟨Nat.le_add_left 1 d.month, Nat.le_refl 1, monthLength_pos _ _ (by omega) hmonth⟩
  · rw [if_neg hmonth]
    simp only [isValid_iff]
    exact ⟨Nat.le_refl 1, Nat.le_refl 1, monthLength_pos _ _ (by decide) (by decide)⟩

/-- The next day adds one to the count of days. -/
theorem toDays_next (d : Date) (h : d.isValid = true) : d.next.toDays = d.toDays + 1 := by
  rw [isValid_iff] at h
  have hinto := daysInto_eq_add d.year d.month h.1
  unfold next
  by_cases hday : d.day < monthLength d.year d.month
  · rw [if_pos hday]
    simp only [toDays_eq]
    omega
  rw [if_neg hday]
  by_cases hmonth : d.month < 12
  -- The first day of the next month comes after all days of this one.
  · rw [if_pos hmonth]
    simp only [toDays_eq, Nat.add_sub_cancel]
    omega
  -- The first day of the next year comes after the twelfth month of this one.
  · have hle := month_le_of_monthLength_pos d.year d.month (by omega)
    have hlast : d.month = 12 := by omega
    have hyear := daysBefore_eq_add d.year
    rw [← daysInto_twelve, ← hlast] at hyear
    have hfirst : daysInto (d.year + 1) 0 = 0 := rfl
    rw [if_neg hmonth]
    simp only [toDays_eq, Int.add_sub_cancel, Nat.sub_self, hfirst]
    omega

/-- The days of a date's year before the date are in its month. -/
theorem within_month (d : Date) (h : d.isValid = true) :
    daysInto d.year (d.month - 1) + (d.day - 1) < daysInto d.year d.month := by
  rw [isValid_iff] at h
  rw [daysInto_eq_add d.year d.month h.1]
  omega

/-- The count of a date is in its year. -/
theorem within_year (d : Date) (h : d.isValid = true) :
    daysBefore (d.year - 1) ≤ d.toDays + epoch ∧ d.toDays + epoch < daysBefore d.year := by
  have hmonth := within_month d h
  rw [isValid_iff] at h
  have hle := month_le_of_monthLength_pos d.year d.month (by omega)
  have hyear := daysInto_mono d.year d.month 12 hle
  rw [daysInto_twelve] at hyear
  rw [daysBefore_eq_add d.year, toDays_eq]
  omega

/-- No two dates have the same count. -/
theorem eq_of_toDays_eq (d e : Date) (hd : d.isValid = true) (he : e.isValid = true)
    (h : d.toDays = e.toDays) : d = e := by
  obtain ⟨hd₁, hd₂⟩ := within_year d hd
  obtain ⟨he₁, he₂⟩ := within_year e he
  have hdm := within_month d hd
  have hem := within_month e he
  rw [isValid_iff] at hd he
  obtain ⟨dy, dm, dd⟩ := d
  obtain ⟨ey, em, ed⟩ := e
  simp only at hd he hd₁ hd₂ he₁ he₂ hdm hem
  obtain rfl : dy = ey := year_eq_of_between _ dy ey hd₁ hd₂ (h ▸ he₁) (h ▸ he₂)
  simp only [toDays_eq] at h
  obtain rfl : dm = em := month_eq_of_between dy (daysInto dy (dm - 1) + (dd - 1)) dm em
    (by omega) hdm (by omega) (by omega)
  obtain rfl : dd = ed := by omega
  rfl

/-- Every number of days is the count of a date. -/
theorem ofDays_spec (n : Int) : (ofDays n).isValid = true ∧ (ofDays n).toDays = n := by
  obtain ⟨span, day, hday, hn⟩ : ∃ (span : Int) (day : Nat), day < 146097 ∧
      n + epoch = 146097 * span + day :=
    ⟨(n + epoch) / 146097, ((n + epoch) % 146097).toNat, by omega, by omega⟩
  have hspan : (n + epoch) / 146097 = span := by omega
  have hrest : ((n + epoch) % 146097).toNat = day := by omega
  obtain ⟨past, inYear, hyear, hcount, hin⟩ := yearOf_spec day hday
  -- Four hundred years repeat themselves, so a year of a later span is as long.
  have hrepeat : ∀ past : Int, daysBefore (400 * span + past) = 146097 * span + daysBefore past := by
    intro past
    unfold daysBefore
    omega
  have hsame : yearLength (400 * span + past + 1) = yearLength (past + 1) := by
    have hthis := daysBefore_eq_add (400 * span + past + 1)
    have hfirst := daysBefore_eq_add (past + 1)
    rw [Int.add_sub_cancel] at hthis hfirst
    rw [Int.add_assoc, hrepeat, hrepeat] at hthis
    rw [Int.add_assoc]
    omega
  rw [← hsame] at hin
  rw [← daysInto_twelve] at hin
  obtain ⟨k, e, hmonth, he, hsum⟩ :=
    monthOf_spec (monthLengths (400 * span + past + 1)) 1 inYear hin
  have hof : ofDays n = ⟨400 * span + past + 1, 1 + k, e + 1⟩ := by
    simp only [ofDays, hspan, hrest, hyear, hmonth]
  have hk : 1 + k - 1 = k := Nat.add_sub_cancel_left 1 k
  rw [hof]
  constructor
  · simp only [isValid_iff, monthLength, hk]
    exact ⟨Nat.le_add_right 1 k, Nat.le_add_left 1 e, he⟩
  · simp only [toDays_eq, daysInto, hk, Int.add_sub_cancel, hrepeat]
    omega

end Date

namespace DateTime

theorem isValid_iff (d : DateTime) :
    d.isValid = true ↔ d.date.isValid = true ∧ d.hour < 24 ∧ d.minute < 60 ∧ d.second < 60 := by
  simp only [isValid, Bool.and_eq_true, decide_eq_true_eq, and_assoc]

/-- The start of 1970. -/
def epoch : DateTime := ⟨⟨1970, 1, 1⟩, 0, 0, 0⟩

/-- What a clock shows a second later. -/
def tick (d : DateTime) : DateTime :=
  if d.second < 59 then ⟨d.date, d.hour, d.minute, d.second + 1⟩
  else if d.minute < 59 then ⟨d.date, d.hour, d.minute + 1, 0⟩
  else if d.hour < 23 then ⟨d.date, d.hour + 1, 0, 0⟩
  else ⟨d.date.next, 0, 0, 0⟩

theorem isValid_tick (d : DateTime) (h : d.isValid = true) : d.tick.isValid = true := by
  rw [isValid_iff] at h
  unfold tick
  split
  · simp only [isValid_iff]
    exact ⟨h.1, h.2.1, h.2.2.1, by omega⟩
  split
  · simp only [isValid_iff]
    exact ⟨h.1, h.2.1, by omega, by decide⟩
  split
  · simp only [isValid_iff]
    exact ⟨h.1, by omega, by decide, by decide⟩
  · simp only [isValid_iff]
    exact ⟨d.date.isValid_next h.1, by decide, by decide, by decide⟩

/-- A tick adds one to the count of seconds. -/
theorem toSeconds_tick (d : DateTime) (h : d.isValid = true) :
    d.tick.toSeconds = d.toSeconds + 1 := by
  rw [isValid_iff] at h
  have hnext := d.date.toDays_next h.1
  unfold tick
  split
  · simp only [toSeconds]
    omega
  split
  · simp only [toSeconds]
    omega
  split
  · simp only [toSeconds]
    omega
  · simp only [toSeconds, hnext]
    omega

/-- So many ticks add so many seconds to the count. -/
theorem toSeconds_iterate (d : DateTime) (n : Nat) (h : d.isValid = true) :
    (tick^[n] d).isValid = true ∧ (tick^[n] d).toSeconds = d.toSeconds + n := by
  induction n with
  | zero => exact ⟨h, (Int.add_zero _).symm⟩
  | succ n ih =>
      rw [Function.iterate_succ_apply']
      refine ⟨isValid_tick _ ih.1, ?_⟩
      rw [toSeconds_tick _ ih.1, ih.2]
      omega

/-- No two dates and times have the same count. -/
theorem eq_of_toSeconds_eq (d e : DateTime) (hd : d.isValid = true) (he : e.isValid = true)
    (h : d.toSeconds = e.toSeconds) : d = e := by
  rw [isValid_iff] at hd he
  obtain ⟨dd, dh, dm, ds⟩ := d
  obtain ⟨ed, eh, em, es⟩ := e
  simp only [toSeconds] at hd he h
  obtain rfl : dd = ed := Date.eq_of_toDays_eq dd ed hd.1 he.1 (by omega)
  obtain rfl : dh = eh := by omega
  obtain rfl : dm = em := by omega
  obtain rfl : ds = es := by omega
  rfl

/-- Every number of seconds is the count of a date and time. -/
theorem ofSeconds_spec (n : Int) : (ofSeconds n).isValid = true ∧ (ofSeconds n).toSeconds = n := by
  obtain ⟨hvalid, hdays⟩ := Date.ofDays_spec (n / 86400)
  constructor
  · rw [isValid_iff]
    simp only [ofSeconds]
    exact ⟨hvalid, by omega, by omega, by omega⟩
  · simp only [toSeconds, ofSeconds, hdays]
    omega

/-- So many seconds lead from one date and time to another: a clock that shows the
    first shows the second after so many ticks. A negative number of seconds leads
    back. -/
def Elapsed (start : DateTime) (seconds : Int) (stop : DateTime) : Prop :=
  (0 ≤ seconds → tick^[seconds.toNat] start = stop) ∧
    (seconds ≤ 0 → tick^[(-seconds).toNat] stop = start)

/-- What elapses between two dates and times is the difference of their counts. -/
theorem elapsed_iff (start stop : DateTime) (seconds : Int) (hstart : start.isValid = true)
    (hstop : stop.isValid = true) :
    start.Elapsed seconds stop ↔ stop.toSeconds = start.toSeconds + seconds := by
  constructor
  · rintro ⟨hforth, hback⟩
    rcases Int.le_total 0 seconds with hpos | hneg
    · rw [← hforth hpos, (toSeconds_iterate start _ hstart).2]
      omega
    · rw [← hback hneg, (toSeconds_iterate stop _ hstop).2]
      omega
  · intro h
    constructor
    · intro hpos
      obtain ⟨hvalid, hcount⟩ := toSeconds_iterate start seconds.toNat hstart
      exact eq_of_toSeconds_eq _ _ hvalid hstop (by omega)
    · intro hneg
      obtain ⟨hvalid, hcount⟩ := toSeconds_iterate stop (-seconds).toNat hstop
      exact eq_of_toSeconds_eq _ _ hvalid hstart (by omega)

end DateTime

end Beacon
