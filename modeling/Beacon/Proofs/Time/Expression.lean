import Beacon.Proofs.Number.Digits
import Beacon.Proofs.Time.Zone
import Beacon.Text.Ascii
import Beacon.Time.Expression

/-!
# Texts That Name a Moment

What each of the three forms of a time expression is read to.

A date and time has one text only. The text has a digit at each of fourteen places
and a fixed character at the other five, and each of its six numbers has a width of
its own, in which a number has one numeral. So whatever has the shape is
the ISO text of the date and time that is read from it.

A number of seconds has its numeral as a text, and it has its hexadecimal digits
behind `0x` and the sign. These are read digit by digit in either case, so that how
they are spelled makes no difference. Both are read to the number if it fits in 64
bits.

## Main definitions

* `Time.sign`: What stands before the digits of a number.
* `Time.hexText`: A number of seconds in hexadecimal digits.
* `Time.Spells`: The texts of a number of seconds.

## Theorems

* `Time.hasShape_iff`: What has the shape of a date and time.
* `Time.dateTimeOf_chars`: The ISO text of a date and time is read to it.
* `Time.eq_chars_of_hasShape`: What has the shape is the ISO text of what is read.
* `Time.parse_isoText_iff`: The ISO text of a local time is read to its moment.
* `Time.isoText_of_parse`: A datetime that is read is the ISO text of a local time.
* `Time.parse_signed`, `Time.parse_hexText`: A number of seconds is read to itself.
-/

namespace Beacon

namespace Text

/-- A text is its characters if none of them stands for a half. -/
theorem eq_ofChars (t : Text) (h : ∀ c ∈ t.chars, c ≠ CodePoint.replacement) :
    t = ofChars t.chars := by
  induction t with
  | nil => rfl
  | cons p rest ih =>
      have hcons : chars (p :: rest) = p.toChar :: chars rest := rfl
      rw [hcons, List.forall_mem_cons] at h
      rw [hcons, ofChars_cons, ← ih h.2]
      cases p with
      | char c => rfl
      | half half => exact absurd rfl h.1

end Text

namespace DateTime

theorem not_mem_padded (width n : Nat) (c : Char) (h : c.isDigit = false) :
    c ∉ padded width n := by
  intro hc
  rw [isDigit_of_mem_padded width n c hc] at h
  exact Bool.noConfusion h

theorem padded_two (n : Nat) (h : n < 10 ^ 2) :
    ∃ a b, padded 2 n = [a, b] ∧ a.isDigit = true ∧ b.isDigit = true := by
  match hcs : padded 2 n, length_padded 2 n (by decide) h with
  | [a, b], _ =>
      have hdigits := isDigit_of_mem_padded 2 n
      rw [hcs] at hdigits
      simp only [List.forall_mem_cons] at hdigits
      exact ⟨a, b, rfl, hdigits.1, hdigits.2.1⟩

theorem padded_four (n : Nat) (h : n < 10 ^ 4) :
    ∃ a b c d, padded 4 n = [a, b, c, d] ∧ a.isDigit = true ∧ b.isDigit = true ∧
      c.isDigit = true ∧ d.isDigit = true := by
  match hcs : padded 4 n, length_padded 4 n (by decide) h with
  | [a, b, c, d], _ =>
      have hdigits := isDigit_of_mem_padded 4 n
      rw [hcs] at hdigits
      simp only [List.forall_mem_cons] at hdigits
      exact ⟨a, b, c, d, rfl, hdigits.1, hdigits.2.1, hdigits.2.2.1, hdigits.2.2.2.1⟩

/-- What stands in the ISO text of a date and time is a digit or one of its marks. -/
theorem not_mem_chars (d : DateTime) (c : Char) (hdigit : c.isDigit = false)
    (hmark : c ∉ ['-', 'T', ':']) : c ∉ d.chars 'T' := by
  simp only [List.mem_cons, List.not_mem_nil, or_false, not_or] at hmark
  simp only [chars, List.mem_append, List.mem_cons, not_mem_padded _ _ c hdigit, hmark, or_false,
    not_false_eq_true]

end DateTime

namespace TimeForm

theorem of_eq_datetime (cs : List Char) (hx : 'x' ∉ cs) (hcolon : ':' ∈ cs) : of cs = .datetime := by
  have hprefix : ¬ ['0', 'x'].isPrefixOf cs = true := fun h =>
    hx ((List.isPrefixOf_iff_prefix.mp h).subset (by decide))
  rw [of, if_neg hprefix, if_pos (List.contains_iff_mem.mpr hcolon)]

theorem of_eq_decimal (cs : List Char) (hx : 'x' ∉ cs) (hcolon : ':' ∉ cs) : of cs = .decimal := by
  have hprefix : ¬ ['0', 'x'].isPrefixOf cs = true := fun h =>
    hx ((List.isPrefixOf_iff_prefix.mp h).subset (by decide))
  rw [of, if_neg hprefix, if_neg (fun h => hcolon (List.contains_iff_mem.mp h))]

end TimeForm

namespace Time

/-! ### Dates and times -/

theorem hasShape_cells (a b c d p e f q g h r i j s k l u m n : Char) :
    hasShape [a, b, c, d, p, e, f, q, g, h, r, i, j, s, k, l, u, m, n] =
      (a.isDigit && (b.isDigit && (c.isDigit && (d.isDigit && (decide (p = '-') && (e.isDigit &&
      (f.isDigit && (decide (q = '-') && (g.isDigit && (h.isDigit && (decide (r = 'T') &&
      (i.isDigit && (j.isDigit && (decide (s = ':') && (k.isDigit && (l.isDigit &&
      (decide (u = ':') && (m.isDigit && (n.isDigit && true))))))))))))))))))) := rfl

theorem dateTimeOf_cells (a b c d p e f q g h r i j s k l u m n : Char) :
    dateTimeOf [a, b, c, d, p, e, f, q, g, h, r, i, j, s, k, l, u, m, n]
      = ⟨⟨Decimal.value [a, b, c, d], Decimal.value [e, f], Decimal.value [g, h]⟩,
        Decimal.value [i, j], Decimal.value [k, l], Decimal.value [m, n]⟩ := rfl

/-- The shape of a date and time is digits with its marks between them. -/
theorem hasShape_iff (cs : List Char) :
    hasShape cs = true ↔ ∃ a b c d e f g h i j k l m n,
      cs = [a, b, c, d, '-', e, f, '-', g, h, 'T', i, j, ':', k, l, ':', m, n] ∧
        ∀ x ∈ [a, b, c, d, e, f, g, h, i, j, k, l, m, n], x.isDigit = true := by
  constructor
  -- Once the text is known to have nineteen characters, each place is looked at by itself.
  · intro hshape
    have hlength : cs.length = 19 := by
      rw [hasShape, Bool.and_eq_true, decide_eq_true_eq] at hshape
      exact hshape.1
    match cs, hlength with
    | [a, b, c, d, p, e, f, q, g, h, r, i, j, s, k, l, u, m, n], _ =>
        simp only [hasShape_cells, Bool.and_eq_true, decide_eq_true_eq, and_true] at hshape
        obtain ⟨ha, hb, hc, hd, rfl, he, hf, rfl, hg, hh, rfl, hi, hj, rfl, hk, hl, rfl, hm, hn⟩ :=
          hshape
        refine ⟨a, b, c, d, e, f, g, h, i, j, k, l, m, n, rfl, ?_⟩
        simp only [List.forall_mem_cons, ha, hb, hc, hd, he, hf, hg, hh, hi, hj, hk, hl, hm, hn,
          List.not_mem_nil, false_implies, implies_true, and_self]
  · rintro ⟨a, b, c, d, e, f, g, h, i, j, k, l, m, n, rfl, hdigits⟩
    simp only [List.forall_mem_cons] at hdigits
    simp only [hasShape_cells, hdigits, Bool.and_true, decide_true]

/-- What has the shape of a date and time is the ISO text of what is read from it. -/
theorem eq_chars_of_hasShape (cs : List Char) (hshape : hasShape cs = true) :
    cs = (dateTimeOf cs).chars 'T' := by
  obtain ⟨a, b, c, d, e, f, g, h, i, j, k, l, m, n, rfl, hdigits⟩ := (hasShape_iff cs).mp hshape
  simp only [List.forall_mem_cons] at hdigits
  obtain ⟨ha, hb, hc, hd, he, hf, hg, hh, hi, hj, hk, hl, hm, hn, -⟩ := hdigits
  -- In its width each number has no numeral but the one that was read.
  have htwo : ∀ x y : Char, x.isDigit = true → y.isDigit = true →
      DateTime.padded 2 (Decimal.value [x, y]) = [x, y] := by
    intro x y hx hy
    refine DateTime.padded_value 2 [x, y] (by decide) rfl ?_
    simp only [List.forall_mem_cons, hx, hy, List.not_mem_nil, false_implies, implies_true, and_self]
  have hfour : DateTime.padded 4 (Decimal.value [a, b, c, d]) = [a, b, c, d] := by
    refine DateTime.padded_value 4 [a, b, c, d] (by decide) rfl ?_
    simp only [List.forall_mem_cons, ha, hb, hc, hd, List.not_mem_nil, false_implies, implies_true,
      and_self]
  simp only [dateTimeOf_cells, DateTime.chars, Int.toNat_natCast, hfour, htwo e f he hf,
    htwo g h hg hh, htwo i j hi hj, htwo k l hk hl, htwo m n hm hn]
  rfl

/-- The ISO text of a date and time has their shape and is read to it. -/
theorem dateTimeOf_chars (d : DateTime) (hvalid : d.isValid = true) (hfirst : 1 ≤ d.date.year)
    (hlast : d.date.year ≤ 9999) :
    hasShape (d.chars 'T') = true ∧ dateTimeOf (d.chars 'T') = d := by
  obtain ⟨⟨year, month, day⟩, hour, minute, second⟩ := d
  obtain ⟨hdate, hhour, hminute, hsecond⟩ := (DateTime.isValid_iff _).mp hvalid
  obtain ⟨-, hpos, hday⟩ := (Date.isValid_iff _).mp hdate
  have hmonth := Calendar.month_le_of_monthLength_pos year month (Nat.le_trans hpos hday)
  have hlength := Calendar.monthLength_le year month
  simp only at hfirst hlast hday hhour hminute hsecond
  -- On the calendar and the clock, and up to the year 9999, every number fits its width.
  obtain ⟨a, b, c, d, hyear, ha, hb, hc, hd⟩ := DateTime.padded_four year.toNat (by omega)
  obtain ⟨e, f, hmonth, he, hf⟩ := DateTime.padded_two month (by omega)
  obtain ⟨g, h, hday, hg, hh⟩ := DateTime.padded_two day (by omega)
  obtain ⟨i, j, hhour, hi, hj⟩ := DateTime.padded_two hour (by omega)
  obtain ⟨k, l, hminute, hk, hl⟩ := DateTime.padded_two minute (by omega)
  obtain ⟨m, n, hsecond, hm, hn⟩ := DateTime.padded_two second (by omega)
  have hcells : DateTime.chars 'T' ⟨⟨year, month, day⟩, hour, minute, second⟩
      = [a, b, c, d, '-', e, f, '-', g, h, 'T', i, j, ':', k, l, ':', m, n] := by
    simp only [DateTime.chars, hyear, hmonth, hday, hhour, hminute, hsecond]
    rfl
  rw [hcells]
  constructor
  · simp only [hasShape_cells, ha, hb, hc, hd, he, hf, hg, hh, hi, hj, hk, hl, hm, hn,
      Bool.and_true, decide_true]
  -- Each number is read from the cells it was written to.
  · rw [dateTimeOf_cells, ← hyear, ← hmonth, ← hday, ← hhour, ← hminute, ← hsecond]
    simp only [DateTime.value_padded, Int.toNat_of_nonneg (Int.le_of_lt hfirst)]

/-! ### The three forms -/

/-- A datetime is read if it has the shape of one and is a local time. -/
theorem parse_eq_ok_iff_of_datetime (z : Zone) (expression : Text) (t : Int)
    (hform : TimeForm.of expression.chars = .datetime) :
    parse z expression = .ok t ↔
      hasShape expression.chars = true ∧ z.ofLocal? (dateTimeOf expression.chars) = some t := by
  simp only [parse, hform, ofDateTime?]
  by_cases hshape : hasShape expression.chars = true
  · rw [if_pos hshape]
    cases z.ofLocal? (dateTimeOf expression.chars) with
    | none => simp only [hshape, reduceCtorEq, and_false]
    | some seconds => simp only [hshape, Except.ok.injEq, Option.some.injEq, true_and]
  · simp only [hshape, Bool.false_eq_true, if_false, reduceCtorEq, false_and]

/-- The ISO text of a local time is read to its moment. -/
theorem parse_isoText_iff (z : Zone) (d : DateTime) (t : Int) (hvalid : d.isValid = true)
    (hfirst : 1 ≤ d.date.year) (hlast : d.date.year ≤ 9999) :
    parse z ↑d.isoText = .ok t ↔ z.ofLocal? d = some t := by
  obtain ⟨hshape, hread⟩ := dateTimeOf_chars d hvalid hfirst hlast
  have hchars : (Text.ofString d.isoText).chars = d.chars 'T' := by
    rw [Text.ofString, Text.chars_ofChars, DateTime.isoText, String.toList_ofList]
  have hcolon : ':' ∈ d.chars 'T' := by
    simp only [DateTime.chars, List.mem_append, List.mem_cons, or_true, true_or]
  have hform := TimeForm.of_eq_datetime (d.chars 'T')
    (d.not_mem_chars 'x' (by decide) (by decide)) hcolon
  rw [parse_eq_ok_iff_of_datetime z _ t (by rw [hchars, hform]), hchars, hread]
  exact and_iff_right hshape

/-- A datetime that is read is the ISO text of a local time. -/
theorem isoText_of_parse (z : Zone) (expression : Text) (t : Int)
    (hform : TimeForm.of expression.chars = .datetime) (h : parse z expression = .ok t) :
    ∃ d : DateTime, expression = ↑d.isoText ∧ z.ofLocal? d = some t := by
  obtain ⟨hshape, hlocal⟩ := (parse_eq_ok_iff_of_datetime z expression t hform).mp h
  have hchars := eq_chars_of_hasShape expression.chars hshape
  refine ⟨dateTimeOf expression.chars, ?_, hlocal⟩
  -- Half of a surrogate pair would be read as a character that is nowhere in an ISO text.
  have htext : expression = Text.ofChars expression.chars := by
    refine Text.eq_ofChars expression fun c hc heq => ?_
    rw [hchars, heq] at hc
    exact DateTime.not_mem_chars _ _ (by decide) (by decide) hc
  rw [Text.ofString, DateTime.isoText, String.toList_ofList, ← hchars]
  exact htext

/-! ### Numbers of seconds -/

/-- What stands before the digits of a number. -/
def sign (t : Int) : List Char := if t < 0 then ['-'] else []

/-- The sign of a number is taken from before its digits, which are of a kind that has
    no signs. -/
theorem takeSign_append (kind : Char → Bool) (t : Int) (digits : List Char)
    (hdigits : ∀ c ∈ digits, kind c = true) (hminus : kind '-' = false) (hplus : kind '+' = false) :
    takeSign (sign t ++ digits) = (decide (t < 0), digits) := by
  unfold sign
  by_cases hneg : t < 0
  · rw [if_pos hneg, decide_eq_true hneg]
    rfl
  · rw [if_neg hneg, decide_eq_false hneg, List.nil_append]
    cases digits with
    | nil => rfl
    | cons c rest =>
        -- Nothing is taken from digits alone, because their first is neither sign.
        have hkind := hdigits c List.mem_cons_self
        unfold takeSign
        split
        · rename_i heq
          rw [(List.cons.inj heq).1, hminus] at hkind
          exact Bool.noConfusion hkind
        · rename_i heq
          rw [(List.cons.inj heq).1, hplus] at hkind
          exact Bool.noConfusion hkind
        · rfl

theorem withSign_natAbs (t : Int) : withSign (decide (t < 0)) t.natAbs = t := by
  unfold withSign
  by_cases hneg : t < 0
  · rw [if_pos (decide_eq_true hneg)]
    omega
  · rw [if_neg (by rw [decide_eq_true_eq]; exact hneg)]
    omega

/-- The numeral of a number is its sign and its digits. -/
theorem toList_signed (t : Int) :
    (Decimal.signed t).toList = sign t ++ Decimal.chars t.natAbs := by
  unfold sign
  cases t with
  | ofNat n =>
      have hpos : ¬ Int.ofNat n < 0 := Int.not_lt.mpr (Int.natCast_nonneg n)
      rw [if_neg hpos]
      exact Decimal.toList_text n
  | negSucc n =>
      rw [if_pos (Int.negSucc_lt_zero n), Decimal.signed, String.toList_append,
        Decimal.toList_text]
      rfl

theorem isDigit_of_mem_chars (n : Nat) : ∀ c ∈ Decimal.chars n, c.isDigit = true := fun c hc =>
  Nat.isDigit_of_mem_toDigits (by decide) (by decide) hc

/-- There is nothing but digits behind the sign of a numeral. -/
theorem not_mem_numeral (t : Int) (c : Char) (hdigit : c.isDigit = false) (hminus : c ≠ '-') :
    c ∉ sign t ++ Decimal.chars t.natAbs := by
  intro hmem
  rcases List.mem_append.mp hmem with hsign | hmem
  · unfold sign at hsign
    by_cases hneg : t < 0
    · rw [if_pos hneg] at hsign
      exact hminus (List.mem_singleton.mp hsign)
    · rw [if_neg hneg] at hsign
      exact List.not_mem_nil hsign
  · rw [isDigit_of_mem_chars t.natAbs c hmem] at hdigit
    exact Bool.noConfusion hdigit

/-- A number of 64 bits has few digits. -/
theorem length_chars_le (t : Int) (h : Zone.fits 64 t = true) :
    (Decimal.chars t.natAbs).length ≤ Decimal.maxDigits := by
  have hpow : (Nat.pow 2 (64 - 1) : Nat) = 9223372036854775808 := by decide
  rw [Zone.fits_iff] at h
  -- Nineteen digits would do, but they are far fewer than the limit in any case.
  have hlength : (Decimal.chars t.natAbs).length ≤ 20 := by
    refine (Nat.length_toDigits_le_iff (by decide) (by decide)).mpr ?_
    omega
  rw [Decimal.maxDigits]
  omega

/-- The numeral of a number of seconds is read to it. -/
theorem parse_signed (z : Zone) (t : Int) (h : Zone.fits 64 t = true) :
    parse z ↑(Decimal.signed t) = .ok t := by
  have hchars : (Text.ofString (Decimal.signed t)).chars = sign t ++ Decimal.chars t.natAbs := by
    rw [Text.ofString, Text.chars_ofChars, toList_signed]
  -- The form is chosen by an `x` or a colon in the text, and there is neither.
  have hform := TimeForm.of_eq_decimal _ (not_mem_numeral t 'x' (by decide) (by decide))
    (not_mem_numeral t ':' (by decide) (by decide))
  have hsign := takeSign_append Char.isDigit t _ (isDigit_of_mem_chars t.natAbs) (by decide)
    (by decide)
  simp only [parse, hchars, hform, ofDecimal, hsign, Decimal.isNumeral_chars, Bool.not_true,
    Bool.false_eq_true, if_false, if_neg (Nat.not_lt.mpr (length_chars_le t h)),
    Decimal.value_chars, withSign_natAbs, inRange?, if_pos h]

/-! ### Hexadecimal digits -/

/-- The case of a hexadecimal digit makes no difference. -/
theorem value?_lower (c : Char) : Hex.value? (Ascii.lower c) = Hex.value? c := by
  unfold Ascii.lower
  by_cases hupper : 'A' ≤ c ∧ c ≤ 'Z'
  -- The letters behind F are no digits in either case.
  · have hall : ∀ n < 26, Hex.value? (Char.ofNat (65 + n + 32)) = Hex.value? (Char.ofNat (65 + n)) := by
      decide
    obtain ⟨n, hn, hc⟩ : ∃ n < 26, c.toNat = 65 + n := by
      have hlow : 'A'.toNat ≤ c.toNat := hupper.1
      have hhigh : c.toNat ≤ 'Z'.toNat := hupper.2
      have hA : 'A'.toNat = 65 := rfl
      have hZ : 'Z'.toNat = 90 := rfl
      exact ⟨c.toNat - 65, by omega, by omega⟩
    rw [if_pos hupper, hc, hall n hn, ← hc, Char.ofNat_toNat]
  · rw [if_neg hupper]

theorem hexValue_map_lower (cs : List Char) : hexValue (cs.map Ascii.lower) = hexValue cs := by
  simp only [hexValue, List.foldl_map, value?_lower]

theorem value?_digitChar (n : Nat) (h : n < 16) : Hex.value? n.digitChar = some n := by
  have hall : ∀ n < 16, Hex.value? n.digitChar = some n := by decide
  exact hall n h

/-- The hexadecimal digits of a number are read to it. -/
theorem hexValue_toDigits (n : Nat) : hexValue (Nat.toDigits 16 n) = n := by
  induction n using Nat.strongRecOn with
  | ind n ih =>
      by_cases hsmall : n < 16
      · rw [Nat.toDigits_of_lt_base hsmall, hexValue, List.foldl_cons, List.foldl_nil,
          value?_digitChar n hsmall, Option.getD_some, Nat.mul_zero, Nat.zero_add]
      -- The last digit is the remainder, and those before it are the digits of the quotient.
      · have hrest := ih (n / 16) (by omega)
        rw [hexValue] at hrest
        rw [Nat.toDigits_of_base_le (by decide) (by omega), hexValue, List.foldl_append, hrest,
          List.foldl_cons, List.foldl_nil, value?_digitChar _ (Nat.mod_lt n (by decide)),
          Option.getD_some, Nat.div_add_mod]

theorem isSome_of_mem_toDigits (n : Nat) :
    ∀ c ∈ Nat.toDigits 16 n, (Hex.value? c).isSome = true := by
  induction n using Nat.strongRecOn with
  | ind n ih =>
      intro c hc
      by_cases hsmall : n < 16
      · rw [Nat.toDigits_of_lt_base hsmall, List.mem_singleton] at hc
        rw [hc, value?_digitChar n hsmall, Option.isSome_some]
      · rw [Nat.toDigits_of_base_le (by decide) (by omega), List.mem_append,
          List.mem_singleton] at hc
        rcases hc with hrest | hlast
        · exact ih (n / 16) (by omega) c hrest
        · rw [hlast, value?_digitChar _ (Nat.mod_lt n (by decide)), Option.isSome_some]

/-- A number of seconds in hexadecimal: `0x`, its sign, and these digits. -/
def hexText (t : Int) (digits : List Char) : String :=
  String.ofList ('0' :: 'x' :: (sign t ++ digits))

/-- A number of seconds in hexadecimal digits of either case is read to it. -/
theorem parse_hexText (z : Zone) (t : Int) (digits : List Char) (h : Zone.fits 64 t = true)
    (hspelled : digits.map Ascii.lower = Nat.toDigits 16 t.natAbs) :
    parse z ↑(hexText t digits) = .ok t := by
  have hdigits : ∀ c ∈ digits, (Hex.value? c).isSome = true := by
    intro c hc
    rw [← value?_lower c]
    exact isSome_of_mem_toDigits t.natAbs _ (hspelled ▸ List.mem_map_of_mem hc)
  have hsign := takeSign_append (fun c => (Hex.value? c).isSome) t digits hdigits (by decide)
    (by decide)
  have hsome : digits ≠ [] := by
    rintro rfl
    exact Nat.toDigits_ne_nil hspelled.symm
  have hvalue : hexValue digits = t.natAbs := by
    rw [← hexValue_map_lower, hspelled, hexValue_toDigits]
  have hchars : (Text.ofString (hexText t digits)).chars
      = '0' :: 'x' :: (sign t ++ digits) := by
    rw [Text.ofString, Text.chars_ofChars, hexText, String.toList_ofList]
  have hform : ∀ rest, TimeForm.of ('0' :: 'x' :: rest) = .hex := fun _ => rfl
  have hcond : (!digits.isEmpty && digits.all fun c => (Hex.value? c).isSome) = true := by
    rw [Bool.and_eq_true, Bool.not_eq_true', List.isEmpty_eq_false_iff, List.all_eq_true]
    exact ⟨hsome, hdigits⟩
  simp only [parse, hchars, hform, List.drop_succ_cons, List.drop_zero, ofHex?, hsign,
    if_pos hcond, hvalue, withSign_natAbs, inRange?, if_pos h]

/-- The texts of a number of seconds: its numeral, and its hexadecimal digits in
    either case behind `0x` and its sign. -/
def Spells (t : Int) (expression : Text) : Prop :=
  expression = ↑(Decimal.signed t) ∨
    ∃ digits, digits.map Ascii.lower = Nat.toDigits 16 t.natAbs ∧ expression = ↑(hexText t digits)

theorem parse_of_spells (z : Zone) (t : Int) (expression : Text) (h : Zone.fits 64 t = true)
    (hspells : Spells t expression) : parse z expression = .ok t := by
  rcases hspells with rfl | ⟨digits, hspelled, rfl⟩
  · exact parse_signed z t h
  · exact parse_hexText z t digits h hspelled

end Time

end Beacon
