import Beacon.Number.Decimal
import Beacon.Time.Calendar
import Mathlib.Data.Nat.Digits.Defs

/-!
# Numerals of One Width

Among texts of as many digits the number tells the text.

A number has many numerals, because zeros may stand before its digits, and a
numeral that is read and written again need not come back. Where the width is
fixed it does: the digits are the number's digits in the positional system, and
these are unique. `DateTime.padded` writes a number in a width, and on the numbers
that fit in it writing and reading undo each other.

## Theorems

* `Decimal.value_lt`: So many digits stand for less than that power of ten.
* `Decimal.eq_of_value_eq`: Numerals of one width for the same number are the same.
* `DateTime.value_padded`, `DateTime.padded_value`: Writing in a width and reading
  undo each other.
-/

namespace Beacon

namespace Decimal

theorem value_cons (c : Char) (cs : List Char) :
    value (c :: cs) = 10 ^ cs.length * (c.toNat - '0'.toNat) + value cs := by
  rw [value, Nat.ofDigitChars_cons, Nat.ofDigitChars_eq_ofDigitChars_zero, Nat.mul_zero,
    Nat.zero_add, value]

theorem digit_le (c : Char) (h : c.isDigit = true) :
    '0'.toNat ≤ c.toNat ∧ c.toNat - '0'.toNat ≤ 9 := by
  have hbounds := Char.isDigit_iff_toNat.mp h
  have hzero : '0'.toNat = 48 := rfl
  have hnine : '9'.toNat = 57 := rfl
  omega

/-- So many digits stand for less than that power of ten. -/
theorem value_lt (cs : List Char) (h : ∀ c ∈ cs, c.isDigit = true) :
    value cs < 10 ^ cs.length := by
  induction cs with
  | nil => exact Nat.one_pos
  | cons c cs ih =>
      rw [List.forall_mem_cons] at h
      have hdigit := Nat.mul_le_mul_left (10 ^ cs.length) (digit_le c h.1).2
      have hrest := ih h.2
      rw [value_cons, List.length_cons, Nat.pow_succ]
      omega

/-- Numerals of one width for the same number are the same. -/
theorem eq_of_value_eq (cs ds : List Char) (hcs : ∀ c ∈ cs, c.isDigit = true)
    (hds : ∀ c ∈ ds, c.isDigit = true) (hlength : cs.length = ds.length)
    (h : value cs = value ds) : cs = ds := by
  induction cs generalizing ds with
  | nil => exact (List.length_eq_zero_iff.mp hlength.symm).symm
  | cons c cs ih =>
      cases ds with
      | nil => exact absurd hlength (Nat.succ_ne_zero cs.length)
      | cons d ds =>
          rw [List.forall_mem_cons] at hcs hds
          rw [List.length_cons, List.length_cons, Nat.add_right_cancel_iff] at hlength
          have hc := value_lt cs hcs.2
          have hd := value_lt ds hds.2
          rw [value_cons, value_cons, hlength] at h
          rw [hlength] at hc
          -- The first digit is the quotient by the power of ten, and the rest the remainder.
          have hfirst : c.toNat - '0'.toNat = d.toNat - '0'.toNat := by
            have hquot := congrArg (· / 10 ^ ds.length) h
            simpa only [Nat.mul_add_div (Nat.pow_pos (by decide : 0 < 10)), Nat.div_eq_of_lt hc,
              Nat.div_eq_of_lt hd, Nat.add_zero] using hquot
          rw [hfirst, Nat.add_left_cancel_iff] at h
          have hsame : c = d := by
            have hc0 := (digit_le c hcs.1).1
            have hd0 := (digit_le d hds.1).1
            exact Char.toNat_inj.mp (by omega)
          rw [hsame, ih ds hcs.2 hds.2 hlength h]

end Decimal

namespace DateTime

theorem isDigit_of_mem_padded (width n : Nat) : ∀ c ∈ padded width n, c.isDigit = true := by
  intro c hc
  rw [padded, List.mem_append] at hc
  rcases hc with hzero | hdigit
  · rw [List.eq_of_mem_replicate hzero]
    decide
  · exact Nat.isDigit_of_mem_toDigits (by decide) (by decide) hdigit

/-- A number that fits in a width is written in it. -/
theorem length_padded (width n : Nat) (hpos : 0 < width) (h : n < 10 ^ width) :
    (padded width n).length = width := by
  have hle : (Decimal.chars n).length ≤ width :=
    (Nat.length_toDigits_le_iff (by decide) hpos).mpr h
  rw [padded, List.length_append, List.length_replicate]
  omega

/-- What is written in a width is read to the number. -/
theorem value_padded (width n : Nat) : Decimal.value (padded width n) = n := by
  rw [padded, Decimal.value, Nat.ofDigitChars_append, Nat.ofDigitChars_replicate_zero, Nat.mul_zero]
  exact Decimal.value_chars n

/-- What is read of digits is written as these digits in their width. -/
theorem padded_value (width : Nat) (cs : List Char) (hpos : 0 < width) (hwidth : cs.length = width)
    (h : ∀ c ∈ cs, c.isDigit = true) : padded width (Decimal.value cs) = cs := by
  have hlt := Decimal.value_lt cs h
  rw [hwidth] at hlt
  refine Decimal.eq_of_value_eq _ cs (isDigit_of_mem_padded width _) h ?_ (value_padded width _)
  rw [length_padded width _ hpos hlt, hwidth]

end DateTime

end Beacon
