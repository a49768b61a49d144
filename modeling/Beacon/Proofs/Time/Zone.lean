import Beacon.Proofs.Outcome
import Beacon.Proofs.Time.Calendar
import Beacon.Time.Zone

/-!
# Between the Clock and Unix Time

What it takes for a moment to have a local time, and for a local time to have a
moment.

Both conversions look at the local clock and succeed only if it shows a year from
1 to 9999 there. Apart from that they are the count of seconds on the calendar and
the offset of the zone, so where both succeed they undo each other.

The moment of a local time is also a number that fits in 64 bits. This is not one
of the checks, but the year at which the clock looked is counted in 32 bits, and a
second of such a year is far from the ends of the wider word.

## Theorems

* `Zone.fits_iff`: What fits in a signed word.
* `Zone.wall_eq_ok`: What the local clock shows.
* `Zone.toLocal_eq_ok`: The local time of a moment, if it has one.
* `Zone.ofLocal?_eq_some`: The moment of a local time, if it has one.
* `Zone.eq_of_ofLocal?`: The local time of a moment has no other moment.
* `Zone.fits_of_ofLocal?`: The moment of a local time fits in 64 bits.
-/

namespace Beacon

namespace Zone

/-- What fits in a signed word. -/
theorem fits_iff (bits : Nat) (n : Int) :
    fits bits n = true ↔ -(Nat.pow 2 (bits - 1) : Nat) ≤ n ∧ n < (Nat.pow 2 (bits - 1) : Nat) := by
  cases n with
  | ofNat n =>
      simp only [fits, decide_eq_true_eq, Int.ofNat_eq_natCast]
      omega
  | negSucc n =>
      simp only [fits, decide_eq_true_eq]
      omega

/-- What the local clock shows, if it shows anything. -/
theorem wall_eq_ok {z : Zone} {seconds : Int} {d : DateTime} (h : z.wall seconds = .ok d) :
    d = DateTime.ofSeconds (seconds + z.offset) ∧ countable (DateTime.ofSeconds seconds) = true ∧
      1 ≤ d.date.year ∧ d.date.year ≤ 9999 := by
  unfold wall at h
  by_cases hfits : (!fits 64 seconds) = true
  · rw [if_pos hfits] at h
    exact absurd h (by simp only [reduceCtorEq, not_false_eq_true])
  rw [if_neg hfits] at h
  simp only [] at h
  split at h
  · exact absurd h (by simp only [reduceCtorEq, not_false_eq_true])
  rename_i hcountable
  obtain ⟨hyear, rfl⟩ := Outcome.ite_eq_ok_iff.mp h
  rw [Bool.or_eq_true, not_or, Bool.not_eq_true', Bool.not_eq_false] at hcountable
  exact ⟨rfl, hcountable.1, hyear⟩

/-- The local time of a moment, if it has one. -/
theorem toLocal_eq_ok {z : Zone} {seconds : Int} {d : DateTime} (h : z.toLocal seconds = .ok d) :
    d = DateTime.ofSeconds (seconds + z.offset) ∧ 1 ≤ d.date.year ∧ d.date.year ≤ 9999 := by
  obtain ⟨shown, hwall, hrest⟩ := Outcome.bind_eq_ok_iff.mp h
  obtain ⟨before, -, hshown⟩ := Outcome.bind_eq_ok_iff.mp hrest
  obtain rfl : shown = d := Except.ok.inj hshown
  obtain ⟨heq, -, hyear⟩ := wall_eq_ok hwall
  exact ⟨heq, hyear⟩

/-- The moment of a local time, if it has one. -/
theorem ofLocal?_eq_some {z : Zone} {d : DateTime} {t : Int} (h : z.ofLocal? d = some t) :
    d.isValid = true ∧ 1 ≤ d.date.year ∧ d.date.year ≤ 9999 ∧ t = d.toSeconds - z.offset ∧
      ∃ before, z.wall (t - daySeconds) = .ok before := by
  unfold ofLocal? at h
  simp only [Bool.and_eq_true, decide_eq_true_eq] at h
  by_cases hcond : (((d.isValid = true ∧ 1 ≤ d.date.year) ∧ d.date.year ≤ 9999) ∧
      (z.wall d.toSeconds).isOk = true) ∧
      (z.wall (d.toSeconds - z.offset - daySeconds)).isOk = true
  · rw [if_pos hcond, Option.some.injEq] at h
    obtain ⟨⟨⟨⟨hvalid, hfirst⟩, hlast⟩, -⟩, hbefore⟩ := hcond
    rw [h] at hbefore
    refine ⟨hvalid, hfirst, hlast, h.symm, ?_⟩
    cases hwall : z.wall (t - daySeconds) with
    | error fault =>
        rw [hwall] at hbefore
        exact absurd hbefore Bool.false_ne_true
    | ok before => exact ⟨before, rfl⟩
  · rw [if_neg hcond] at h
    exact absurd h (by simp only [reduceCtorEq, not_false_eq_true])

/-- The local time of a moment has no other moment. -/
theorem eq_of_ofLocal? {z : Zone} {seconds t : Int} {d : DateTime}
    (hforth : z.toLocal seconds = .ok d) (hback : z.ofLocal? d = some t) : t = seconds := by
  obtain ⟨hd, -⟩ := toLocal_eq_ok hforth
  obtain ⟨-, -, -, ht, -⟩ := ofLocal?_eq_some hback
  rw [hd, (DateTime.ofSeconds_spec _).2] at ht
  omega

/-- A second of a year that can be counted is far from the ends of a word of 64
    bits. -/
theorem bounds_of_countable (seconds : Int) (h : countable (DateTime.ofSeconds seconds) = true) :
    -4611686018427387904 ≤ seconds ∧ seconds < 4611686018427387904 := by
  obtain ⟨hvalid, hcount⟩ := DateTime.ofSeconds_spec seconds
  obtain ⟨hdate, hhour, hminute, hsecond⟩ := (DateTime.isValid_iff _).mp hvalid
  obtain ⟨hlow, hhigh⟩ := Date.within_year _ hdate
  rw [countable, fits_iff] at h
  obtain ⟨d, hd⟩ : ∃ d, d = DateTime.ofSeconds seconds := ⟨_, rfl⟩
  rw [← hd] at h hcount hhour hminute hsecond hlow hhigh
  have hpow : (Nat.pow 2 (32 - 1) : Nat) = 2147483648 := by decide
  rw [hpow] at h
  simp only [Calendar.daysBefore, Calendar.epoch] at hlow hhigh
  rw [DateTime.toSeconds] at hcount
  omega

/-- The moment of a local time fits in 64 bits. -/
theorem fits_of_ofLocal? {z : Zone} {d : DateTime} {t : Int} (h : z.ofLocal? d = some t) :
    fits 64 t = true := by
  obtain ⟨-, -, -, -, before, hbefore⟩ := ofLocal?_eq_some h
  have hbounds := bounds_of_countable _ (wall_eq_ok hbefore).2.1
  have hpow : (Nat.pow 2 (64 - 1) : Nat) = 9223372036854775808 := by decide
  have hday : daySeconds = 86400 := rfl
  rw [fits_iff, hpow]
  omega

end Zone

end Beacon
