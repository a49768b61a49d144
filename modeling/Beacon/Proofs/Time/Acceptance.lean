import Beacon.Failure.Basic
import Beacon.Proofs.Time.Expression
import Mathlib.Data.Nat.Digits.Defs

/-!
# What Becomes of a Time Expression

Every text either names a moment of 64 bits or is refused in the form it was taken
to be of, and there is one way out of this: a decimal number of more digits than are
read.

Which numerals are accepted is said without the reader. A numeral is a sign, if there
is one, and one or more ASCII digits of its base, and its number is what the digits
spell in the positional system. For the two forms of numbers the reader accepts
exactly the numerals of a number in range. The hexadecimal form does so however long
the numeral is. The decimal one gives up on long numerals before it looks at the
value, be the number as small as zero, and how it gives up is no refusal but a
breakdown.

A datetime is never in the way: whatever local time is read has a moment in range,
and everything else is refused.

## Main definitions

* `Time.Digits`: Digits of a base and the number they spell.
* `Time.Signed`: A text as a sign and the rest of it.
* `Time.Numeral`: A signed number in digits of a base.
* `Time.Overlong`: A decimal numeral of more digits than are read.

## Theorems

* `Time.digits_ten_iff`, `Time.digits_sixteen_iff`: What the two readers take.
* `Time.ofHex?_eq_some_iff`, `Time.ofDecimal_eq_ok_iff`: Which numerals are accepted.
* `Time.parse_tooManyDigits_iff`: When a breakdown comes of an expression.
* `Time.parse_or_refused`: What becomes of an expression.
* `Time.parse_breaks_on_ones`: A numeral that is neither read nor refused.
-/

namespace Beacon

namespace Time

/-- One or more ASCII digits of a base, and the number that they spell, the high
    digit first. -/
def Digits (base : Nat) (cs : List Char) (n : Nat) : Prop :=
  cs ≠ [] ∧ ∃ values : List Nat, cs.map Hex.value? = values.map some ∧
    (∀ d ∈ values, d < base) ∧ n = Nat.ofDigits base values.reverse

/-- A text is a sign, if there is one, and what stands behind it. -/
inductive Signed : List Char → (negative : Bool) → List Char → Prop
  | bare (rest : List Char) : Signed rest false rest
  | plus (rest : List Char) : Signed ('+' :: rest) false rest
  | minus (rest : List Char) : Signed ('-' :: rest) true rest

/-- A number in digits of a base, with a sign before them if there is one. -/
def Numeral (base : Nat) (cs : List Char) (t : Int) : Prop :=
  ∃ negative digits n, Signed cs negative digits ∧ Digits base digits n ∧ t = withSign negative n

/-- A decimal numeral of this many digits, which is more than are read. -/
def Overlong (cs : List Char) (count : Nat) : Prop :=
  ∃ negative digits n, Signed cs negative digits ∧ Digits 10 digits n ∧
    digits.length = count ∧ Decimal.maxDigits < count

/-! ### Digits -/

/-- Digits are read one after the other to the number that they spell. -/
theorem foldl_digits (base : Nat) (cs : List Char) (values : List Nat) (start : Nat)
    (h : cs.map Hex.value? = values.map some) :
    cs.foldl (fun n c => base * n + (Hex.value? c).getD 0) start
      = base ^ values.length * start + Nat.ofDigits base values.reverse := by
  induction cs generalizing values start with
  | nil =>
      rw [List.map_eq_nil_iff.mp h.symm]
      exact (Nat.one_mul start).symm
  | cons c cs ih =>
      cases values with
      | nil => exact absurd h (List.cons_ne_nil _ _)
      | cons d values =>
          rw [List.map_cons, List.map_cons, List.cons.injEq] at h
          -- What was read before is worth one more power of the base with each digit.
          rw [List.foldl_cons, ih values _ h.2, h.1, Option.getD_some, List.reverse_cons,
            Nat.ofDigits_append, Nat.ofDigits_singleton, List.length_reverse, List.length_cons,
            Nat.pow_succ, Nat.mul_add, ← Nat.mul_assoc]
          omega

/-- Digits are characters that stand for a number below the base, and what they spell
    is found by reading them one after the other. -/
theorem digits_iff (base : Nat) (cs : List Char) (n : Nat) :
    Digits base cs n ↔ cs ≠ [] ∧ (∀ c ∈ cs, ∃ d < base, Hex.value? c = some d) ∧
      n = cs.foldl (fun n c => base * n + (Hex.value? c).getD 0) 0 := by
  refine and_congr_right fun _ => ?_
  constructor
  · rintro ⟨values, hvalues, hbase, rfl⟩
    refine ⟨fun c hc => ?_, ?_⟩
    · have hmem := hvalues ▸ List.mem_map_of_mem hc
      obtain ⟨d, hd, hvalue⟩ := List.mem_map.mp hmem
      exact ⟨d, hbase d hd, hvalue.symm⟩
    · rw [foldl_digits base cs values 0 hvalues, Nat.mul_zero, Nat.zero_add]
  · rintro ⟨hdigits, rfl⟩
    have hvalues : cs.map Hex.value? = (cs.map fun c => (Hex.value? c).getD 0).map some := by
      rw [List.map_map]
      refine List.map_congr_left fun c hc => ?_
      obtain ⟨d, -, hd⟩ := hdigits c hc
      rw [Function.comp_apply, hd, Option.getD_some]
    refine ⟨_, hvalues, fun d hd => ?_, ?_⟩
    · obtain ⟨c, hc, rfl⟩ := List.mem_map.mp hd
      obtain ⟨d, hlt, hd⟩ := hdigits c hc
      rw [hd, Option.getD_some]
      exact hlt
    · rw [foldl_digits base cs _ 0 hvalues, Nat.mul_zero, Nat.zero_add]

/-- The digits by their numbers: ten figures, and six letters in either case. -/
theorem value?_eq_some_iff (c : Char) (d : Nat) :
    Hex.value? c = some d ↔
      (48 ≤ c.toNat ∧ c.toNat ≤ 57 ∧ d = c.toNat - 48) ∨
      (97 ≤ c.toNat ∧ c.toNat ≤ 102 ∧ d = c.toNat - 87) ∨
      (65 ≤ c.toNat ∧ c.toNat ≤ 70 ∧ d = c.toNat - 55) := by
  have hfigure : ('0' ≤ c ∧ c ≤ '9') ↔ 48 ≤ c.toNat ∧ c.toNat ≤ 57 := Iff.rfl
  have hlower : ('a' ≤ c ∧ c ≤ 'f') ↔ 97 ≤ c.toNat ∧ c.toNat ≤ 102 := Iff.rfl
  have hupper : ('A' ≤ c ∧ c ≤ 'F') ↔ 65 ≤ c.toNat ∧ c.toNat ≤ 70 := Iff.rfl
  simp only [Hex.value?, hfigure, hlower, hupper]
  split
  · rw [Option.some.injEq]
    omega
  split
  · rw [Option.some.injEq]
    omega
  split
  · rw [Option.some.injEq]
    omega
  · simp only [reduceCtorEq, false_iff]
    omega

theorem value?_lt (c : Char) (d : Nat) (h : Hex.value? c = some d) : d < 16 := by
  rw [value?_eq_some_iff] at h
  omega

/-- The digits of base ten are the figures. -/
theorem exists_value?_lt_ten_iff (c : Char) :
    (∃ d < 10, Hex.value? c = some d) ↔ c.isDigit = true := by
  have hzero : '0'.toNat = 48 := rfl
  have hnine : '9'.toNat = 57 := rfl
  simp only [value?_eq_some_iff, Char.isDigit_iff_toNat, hzero, hnine]
  constructor
  · rintro ⟨d, hd, hc⟩
    omega
  · intro hc
    exact ⟨c.toNat - 48, by omega, .inl ⟨hc.1, hc.2, rfl⟩⟩

/-- The digits of a decimal number are a numeral, and they spell its value. -/
theorem digits_ten_iff (cs : List Char) (n : Nat) :
    Digits 10 cs n ↔ Decimal.isNumeral cs = true ∧ n = Decimal.value cs := by
  simp only [digits_iff, exists_value?_lt_ten_iff, Decimal.isNumeral, Bool.and_eq_true,
    Bool.not_eq_true', List.isEmpty_eq_false_iff, List.all_eq_true, and_assoc]
  refine and_congr_right fun _ => and_congr_right fun hdigits => ?_
  -- A figure has one number, whether it is read as a decimal or as a hexadecimal digit.
  have hvalue : cs.foldl (fun n c => 10 * n + (Hex.value? c).getD 0) 0 = Decimal.value cs := by
    refine List.foldl_ext _ _ 0 fun n c hc => ?_
    obtain ⟨d, hlt, hd⟩ := (exists_value?_lt_ten_iff c).mpr (hdigits c hc)
    have hzero : '0'.toNat = 48 := rfl
    rw [hd, Option.getD_some, hzero]
    rw [value?_eq_some_iff] at hd
    omega
  rw [hvalue]

/-- The digits of a hexadecimal number are digits of either case, and they spell its
    value. -/
theorem digits_sixteen_iff (cs : List Char) (n : Nat) :
    Digits 16 cs n ↔ (cs ≠ [] ∧ ∀ c ∈ cs, (Hex.value? c).isSome = true) ∧ n = hexValue cs := by
  rw [digits_iff, and_assoc]
  refine and_congr_right fun _ => and_congr_left fun _ => ?_
  refine forall_congr' fun c => forall_congr' fun _ => ?_
  rw [Option.isSome_iff_exists]
  exact exists_congr fun d => and_iff_right_of_imp fun h => value?_lt c d h

/-! ### Signs -/

/-- No digit is a sign, so the sign is taken from before digits just where there is
    one. -/
theorem takeSign_of_signed {base : Nat} {cs digits : List Char} {negative : Bool} {n : Nat}
    (hsigned : Signed cs negative digits) (hdigits : Digits base digits n) :
    takeSign cs = (negative, digits) := by
  cases hsigned with
  | plus => rfl
  | minus => rfl
  | bare =>
      obtain ⟨hne, hall, -⟩ := (digits_iff base cs n).mp hdigits
      cases cs with
      | nil => exact absurd rfl hne
      | cons c rest =>
          obtain ⟨d, -, hd⟩ := hall c List.mem_cons_self
          -- A first digit that was a sign would have no number.
          have hminus : Hex.value? '-' = none := rfl
          have hplus : Hex.value? '+' = none := rfl
          unfold takeSign
          split
          · rename_i heq
            rw [(List.cons.inj heq).1, hminus] at hd
            exact absurd hd (by simp only [reduceCtorEq, not_false_eq_true])
          · rename_i heq
            rw [(List.cons.inj heq).1, hplus] at hd
            exact absurd hd (by simp only [reduceCtorEq, not_false_eq_true])
          · rfl

theorem signed_takeSign (cs : List Char) : Signed cs (takeSign cs).1 (takeSign cs).2 := by
  unfold takeSign
  split
  · exact .minus _
  · exact .plus _
  · exact .bare _

/-- A numeral is digits behind the sign that is taken from it. -/
theorem numeral_iff (base : Nat) (cs : List Char) (t : Int) :
    Numeral base cs t ↔
      ∃ n, Digits base (takeSign cs).2 n ∧ t = withSign (takeSign cs).1 n := by
  constructor
  · rintro ⟨negative, digits, n, hsigned, hdigits, rfl⟩
    rw [takeSign_of_signed hsigned hdigits]
    exact ⟨n, hdigits, rfl⟩
  · rintro ⟨n, hdigits, rfl⟩
    exact ⟨_, _, n, signed_takeSign cs, hdigits, rfl⟩

/-- A numeral is too long if there are too many digits behind its sign. -/
theorem overlong_iff (cs : List Char) (count : Nat) :
    Overlong cs count ↔ Decimal.isNumeral (takeSign cs).2 = true ∧
      (takeSign cs).2.length = count ∧ Decimal.maxDigits < count := by
  constructor
  · rintro ⟨negative, digits, n, hsigned, hdigits, hlength⟩
    rw [takeSign_of_signed hsigned hdigits]
    exact ⟨((digits_ten_iff digits n).mp hdigits).1, hlength⟩
  · rintro ⟨hnumeral, hlength⟩
    exact ⟨_, _, _, signed_takeSign cs, (digits_ten_iff _ _).mpr ⟨hnumeral, rfl⟩, hlength⟩

/-! ### Numbers of seconds -/

theorem inRange?_eq_some_iff (n t : Int) :
    inRange? n = some t ↔ t = n ∧ Zone.fits 64 t = true := by
  unfold inRange?
  split
  · rename_i hfits
    rw [Option.some.injEq]
    constructor
    · rintro rfl
      exact ⟨rfl, hfits⟩
    · exact fun h => h.1.symm
  · rename_i hfits
    refine iff_of_false (by simp only [reduceCtorEq, not_false_eq_true]) ?_
    rintro ⟨rfl, h⟩
    exact hfits h

/-- The hexadecimal numerals of the numbers in range are accepted. -/
theorem ofHex?_eq_some_iff (cs : List Char) (t : Int) :
    ofHex? cs = some t ↔ Numeral 16 cs t ∧ Zone.fits 64 t = true := by
  have hcond : (!(takeSign cs).2.isEmpty && (takeSign cs).2.all fun c => (Hex.value? c).isSome)
        = true ↔
      (takeSign cs).2 ≠ [] ∧ ∀ c ∈ (takeSign cs).2, (Hex.value? c).isSome = true := by
    rw [Bool.and_eq_true, Bool.not_eq_true', List.isEmpty_eq_false_iff, List.all_eq_true]
  rw [numeral_iff]
  simp only [ofHex?, digits_sixteen_iff, and_assoc, exists_and_left, exists_eq_left]
  by_cases hdigits : (!(takeSign cs).2.isEmpty &&
      (takeSign cs).2.all fun c => (Hex.value? c).isSome) = true
  · rw [if_pos hdigits, inRange?_eq_some_iff]
    have h := hcond.mp hdigits
    rw [and_iff_right h.1, and_iff_right h.2]
  · rw [if_neg hdigits]
    refine iff_of_false (by simp only [reduceCtorEq, not_false_eq_true]) ?_
    exact fun h => hdigits (hcond.mpr ⟨h.1, h.2.1⟩)

/-- The decimal numerals of the numbers in range are accepted, up to the length that is
    read. -/
theorem ofDecimal_eq_ok_iff (cs : List Char) (t : Int) :
    ofDecimal cs = .ok (some t) ↔
      Numeral 10 cs t ∧ (¬∃ count, Overlong cs count) ∧ Zone.fits 64 t = true := by
  rw [numeral_iff]
  simp only [ofDecimal, digits_ten_iff, overlong_iff, and_assoc, exists_and_left, exists_eq_left]
  by_cases hnumeral : Decimal.isNumeral (takeSign cs).2 = true
  · rw [if_neg (by rw [hnumeral]; exact Bool.false_ne_true), and_iff_right hnumeral]
    -- The length is looked at first, and the value only of what is not too long.
    by_cases hlong : Decimal.maxDigits < (takeSign cs).2.length
    · rw [if_pos hlong]
      refine iff_of_false (by simp only [reduceCtorEq, not_false_eq_true]) ?_
      exact fun h => h.2.1 ⟨hnumeral, _, rfl, hlong⟩
    · rw [if_neg hlong, Except.ok.injEq, inRange?_eq_some_iff]
      refine and_congr_right fun _ => (and_iff_right ?_).symm
      rintro ⟨-, count, rfl, hcount⟩
      exact hlong hcount
  · rw [if_pos (by rw [Bool.not_eq_true', ← Bool.not_eq_true]; exact hnumeral)]
    refine iff_of_false (by simp only [Except.ok.injEq, reduceCtorEq, not_false_eq_true]) ?_
    exact fun h => hnumeral h.1

/-- Reading a decimal number breaks down at the numerals that are too long, and at
    nothing else. -/
theorem ofDecimal_eq_error_iff (cs : List Char) (count : Nat) :
    ofDecimal cs = .error count ↔ Overlong cs count := by
  simp only [ofDecimal, overlong_iff]
  by_cases hnumeral : Decimal.isNumeral (takeSign cs).2 = true
  · rw [if_neg (by rw [hnumeral]; exact Bool.false_ne_true), and_iff_right hnumeral]
    by_cases hlong : Decimal.maxDigits < (takeSign cs).2.length
    · rw [if_pos hlong, Except.error.injEq]
      constructor
      · rintro rfl
        exact ⟨rfl, hlong⟩
      · exact fun h => h.1
    · rw [if_neg hlong]
      refine iff_of_false (by simp only [reduceCtorEq, not_false_eq_true]) ?_
      rintro ⟨rfl, hcount⟩
      exact hlong hcount
  · rw [if_pos (by rw [Bool.not_eq_true', ← Bool.not_eq_true]; exact hnumeral)]
    refine iff_of_false (by simp only [reduceCtorEq, not_false_eq_true]) ?_
    exact fun h => hnumeral h.1

/-! ### Expressions -/

/-- The form of a text by what is in it. -/
theorem formOf_eq (cs : List Char) :
    TimeForm.of cs = if ['0', 'x'] <+: cs then .hex
      else if ':' ∈ cs then .datetime else .decimal := by
  simp only [TimeForm.of, List.isPrefixOf_iff_prefix, List.contains_iff_mem]

theorem chars_of_hex {cs : List Char} (h : TimeForm.of cs = .hex) :
    ∃ rest, cs = '0' :: 'x' :: rest := by
  rw [formOf_eq] at h
  split at h
  · rename_i hprefix
    obtain ⟨rest, rfl⟩ := hprefix
    exact ⟨rest, rfl⟩
  · split at h
    · exact absurd h (by simp only [reduceCtorEq, not_false_eq_true])
    · exact absurd h (by simp only [reduceCtorEq, not_false_eq_true])

/-- Half of a surrogate pair is read as a character that is in no numeral. -/
theorem ne_replacement_of_numeral {base : Nat} {cs : List Char} {t : Int}
    (h : Numeral base cs t) : ∀ c ∈ cs, c ≠ CodePoint.replacement := by
  obtain ⟨negative, digits, n, hsigned, hdigits, -⟩ := h
  have hreplacement : Hex.value? CodePoint.replacement = none := rfl
  have hall : ∀ c ∈ digits, c ≠ CodePoint.replacement := by
    rintro c hc rfl
    obtain ⟨d, -, hd⟩ := ((digits_iff base digits n).mp hdigits).2.1 _ hc
    rw [hreplacement] at hd
    exact absurd hd (by simp only [reduceCtorEq, not_false_eq_true])
  cases hsigned with
  | bare => exact hall
  | plus => exact List.forall_mem_cons.mpr ⟨by decide, hall⟩
  | minus => exact List.forall_mem_cons.mpr ⟨by decide, hall⟩

/-- Of a hexadecimal expression the numerals behind the `0x` are read. -/
theorem parse_eq_ok_iff_of_hex (z : Zone) (s : Text) (t : Int)
    (hform : TimeForm.of s.chars = .hex) :
    parse z s = .ok t ↔
      ∃ rest, s = Text.ofChars ('0' :: 'x' :: rest) ∧ Numeral 16 rest t ∧
        Zone.fits 64 t = true := by
  obtain ⟨rest, hchars⟩ := chars_of_hex hform
  have hparse : parse z s = .ok t ↔ ofHex? rest = some t := by
    have hdrop : s.chars.drop 2 = rest := by rw [hchars]; rfl
    simp only [parse, hform, hdrop]
    cases ofHex? rest with
    | none => simp only [reduceCtorEq]
    | some n => simp only [Except.ok.injEq, Option.some.injEq]
  rw [hparse, ofHex?_eq_some_iff]
  constructor
  · rintro ⟨hnumeral, hfits⟩
    refine ⟨rest, ?_, hnumeral, hfits⟩
    -- A text with halves has a replacement character among its characters.
    rw [← hchars]
    refine Text.eq_ofChars s ?_
    rw [hchars, List.forall_mem_cons, List.forall_mem_cons]
    exact ⟨by decide, by decide, ne_replacement_of_numeral hnumeral⟩
  · rintro ⟨rest', rfl, hnumeral⟩
    rw [Text.chars_ofChars, List.cons.injEq, List.cons.injEq] at hchars
    rw [← hchars.2.2]
    exact hnumeral

/-- Of a decimal expression the numerals are read that are not too long. -/
theorem parse_eq_ok_iff_of_decimal (z : Zone) (s : Text) (t : Int)
    (hform : TimeForm.of s.chars = .decimal) :
    parse z s = .ok t ↔
      ∃ cs, s = Text.ofChars cs ∧ Numeral 10 cs t ∧ (¬∃ count, Overlong cs count) ∧
        Zone.fits 64 t = true := by
  have hparse : parse z s = .ok t ↔ ofDecimal s.chars = .ok (some t) := by
    simp only [parse, hform]
    rcases ofDecimal s.chars with count | n
    · simp only [reduceCtorEq]
    · cases n with
      | none => simp only [reduceCtorEq, Except.ok.injEq]
      | some n => simp only [Except.ok.injEq, Option.some.injEq]
  rw [hparse, ofDecimal_eq_ok_iff]
  constructor
  · rintro ⟨hnumeral, hrest⟩
    exact ⟨s.chars, Text.eq_ofChars s (ne_replacement_of_numeral hnumeral), hnumeral, hrest⟩
  · rintro ⟨cs, rfl, hnumeral⟩
    rw [Text.chars_ofChars]
    exact hnumeral

/-- An expression breaks down if it is a decimal numeral that is too long. -/
theorem parse_tooManyDigits_iff (z : Zone) (s : Text) (count : Nat) :
    parse z s = .error (.tooManyDigits count) ↔
      TimeForm.of s.chars = .decimal ∧ Overlong s.chars count := by
  rw [← ofDecimal_eq_error_iff]
  -- Only the decimal form counts digits.
  cases hform : TimeForm.of s.chars with
  | hex =>
      simp only [parse, hform, reduceCtorEq, false_and, iff_false]
      cases ofHex? (s.chars.drop 2) <;>
        simp only [reduceCtorEq, Except.error.injEq, not_false_eq_true]
  | datetime =>
      simp only [parse, hform, reduceCtorEq, false_and, iff_false]
      cases ofDateTime? z s.chars <;>
        simp only [reduceCtorEq, Except.error.injEq, not_false_eq_true]
  | decimal =>
      simp only [parse, hform, true_and]
      rcases ofDecimal s.chars with n | n
      · simp only [Except.error.injEq, TimeFault.tooManyDigits.injEq]
      · cases n <;> simp only [reduceCtorEq, Except.error.injEq]

/-- What is read fits in 64 bits, and what is not read is refused in its form or has too
    many digits. -/
theorem parse_cases (z : Zone) (s : Text) :
    (∃ t, parse z s = .ok t ∧ Zone.fits 64 t = true) ∨
      parse z s = .error (.unreadable (TimeForm.of s.chars) s) ∨
      ∃ count, parse z s = .error (.tooManyDigits count) := by
  cases hform : TimeForm.of s.chars with
  | hex =>
      simp only [parse, hform]
      cases hread : ofHex? (s.chars.drop 2) with
      | none => exact .inr (.inl rfl)
      | some t => exact .inl ⟨t, rfl, ((ofHex?_eq_some_iff _ t).mp hread).2⟩
  | decimal =>
      simp only [parse, hform]
      rcases hread : ofDecimal s.chars with count | _ | t
      · exact .inr (.inr ⟨count, rfl⟩)
      · exact .inr (.inl rfl)
      · exact .inl ⟨t, rfl, ((ofDecimal_eq_ok_iff _ t).mp hread).2.2⟩
  | datetime =>
      simp only [parse, hform]
      cases hread : ofDateTime? z s.chars with
      | none => exact .inr (.inl rfl)
      | some t =>
          rw [ofDateTime?] at hread
          split at hread
          · exact .inl ⟨t, rfl, Zone.fits_of_ofLocal? hread⟩
          · exact absurd hread (by simp only [reduceCtorEq, not_false_eq_true])

/-- An expression names a moment of 64 bits, or is refused with itself and the name of
    the form that is told by its first two characters and its colons, or is a decimal
    numeral of too many digits, and then it breaks down. The hexadecimal numerals of the
    numbers in range are accepted and nothing else in that form is. So are the decimal
    ones, unless they are too long. -/
theorem parse_or_refused (z : Zone) (s : Text) :
    let form := TimeForm.of s.chars
    let InRange := fun t : Int => -(Nat.pow 2 63 : Nat) ≤ t ∧ t < (Nat.pow 2 63 : Nat)
    form.name = (if ['0', 'x'] <+: s.chars then "hex string"
      else if ':' ∈ s.chars then "datetime" else "decimal string") ∧
    ((∃ t, parse z s = .ok t ∧ InRange t) ∨
      (parse z s).mapError TimeFault.trouble = .error (.failure (.parse form.name s)) ∨
      ∃ count, parse z s = .error (.tooManyDigits count)) ∧
    (∀ count, parse z s = .error (.tooManyDigits count) ↔
      form = .decimal ∧ Overlong s.chars count) ∧
    (form = .hex → ∀ t, parse z s = .ok t ↔
      ∃ rest, s = Text.ofChars ('0' :: 'x' :: rest) ∧ Numeral 16 rest t ∧ InRange t) ∧
    (form = .decimal → ∀ t, parse z s = .ok t ↔
      ∃ cs, s = Text.ofChars cs ∧ Numeral 10 cs t ∧ (¬∃ count, Overlong cs count) ∧
        InRange t) := by
  intro form InRange
  have hrange : ∀ t, Zone.fits 64 t = true ↔ InRange t := Zone.fits_iff 64
  refine ⟨?_, ?_, parse_tooManyDigits_iff z s, fun hform t => ?_, fun hform t => ?_⟩
  · have hform : form = _ := formOf_eq s.chars
    rw [hform]
    split
    · rfl
    · split <;> rfl
  · rcases parse_cases z s with ⟨t, hread, hfits⟩ | hrefused | hbreaks
    · exact .inl ⟨t, hread, (hrange t).mp hfits⟩
    · rw [hrefused]
      exact .inr (.inl rfl)
    · exact .inr (.inr hbreaks)
  · simp only [← hrange]
    exact parse_eq_ok_iff_of_hex z s t hform
  · simp only [← hrange]
    exact parse_eq_ok_iff_of_decimal z s t hform

/-- A numeral of 4301 ones names no moment, and yet it is not refused: it breaks down
    over its length. -/
theorem parse_breaks_on_ones :
    let s := Text.ofChars (List.replicate 4301 '1')
    let z := Zone.universal
    TimeForm.of s.chars = .decimal ∧ (∀ t, parse z s ≠ .ok t) ∧
      (parse z s).mapError TimeFault.trouble = .error (.breakdown (.digits 4301)) ∧
      ∀ form, (parse z s).mapError TimeFault.trouble ≠ .error (.failure (.parse form s)) := by
  intro s z
  have hchars : s.chars = List.replicate 4301 '1' := Text.chars_ofChars _
  have hones : ∀ c ∈ List.replicate 4301 '1', c = '1' := fun c hc => List.eq_of_mem_replicate hc
  have hform : TimeForm.of s.chars = .decimal := by
    rw [hchars]
    exact TimeForm.of_eq_decimal _ (fun hx => absurd (hones _ hx) (by decide))
      (fun hcolon => absurd (hones _ hcolon) (by decide))
  have hnumeral : Decimal.isNumeral (List.replicate 4301 '1') = true := by
    rw [Decimal.isNumeral, Bool.and_eq_true, List.all_eq_true]
    exact ⟨rfl, fun c hc => by rw [hones c hc]; decide⟩
  have hlong : Overlong s.chars 4301 := by
    rw [hchars]
    exact ⟨false, _, _, .bare _, (digits_ten_iff _ _).mpr ⟨hnumeral, rfl⟩, List.length_replicate,
      by decide⟩
  have hparse := (parse_tooManyDigits_iff z s 4301).mpr ⟨hform, hlong⟩
  rw [hparse]
  refine ⟨hform, fun t => ?_, rfl, fun form => ?_⟩
  · simp only [ne_eq, reduceCtorEq, not_false_eq_true]
  · simp only [Except.mapError, TimeFault.trouble, ne_eq, Except.error.injEq, reduceCtorEq,
      not_false_eq_true]

end Time

end Beacon
