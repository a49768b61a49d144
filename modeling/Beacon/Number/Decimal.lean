/-!
# Decimal Numerals

Whole numbers as the node API writes them: ASCII digits, no sign, no leading
mark. The digits themselves are the library's `Nat.toDigits`, so that what is
written and what is read back meet in its lemmas.

A numeral longer than `maxDigits` is refused wherever one is read, before its
value is looked at. Leading zeros count towards the length and a sign does
not.

## Main definitions

* `Decimal.isNumeral`: A text is one or more ASCII digits.
* `Decimal.value`: The number a numeral stands for.
* `Decimal.chars`, `Decimal.text`: The numeral of a number.
* `Decimal.signed`: The numeral of an integer, with a minus sign when due.
* `Decimal.maxDigits`: The longest numeral that is read.

## Theorems

* `Decimal.value_chars`: A number's numeral reads back as the number.
* `Decimal.isNumeral_chars`: A number's numeral is a numeral.
-/

namespace Beacon

namespace Decimal

/-- The longest numeral that is read, in digits. -/
def maxDigits : Nat := 4300

/-- One or more ASCII digits. -/
def isNumeral (cs : List Char) : Bool := !cs.isEmpty && cs.all Char.isDigit

/-- The number a numeral stands for. -/
def value (cs : List Char) : Nat := Nat.ofDigitChars 10 cs 0

/-- The digits of a number. -/
def chars (n : Nat) : List Char := Nat.toDigits 10 n

/-- The numeral of a number. -/
def text (n : Nat) : String := n.repr

/-- The numeral of an integer: a minus sign before the digits when it is
    negative, and nothing before them otherwise. -/
def signed : Int → String
  | .ofNat n => text n
  | .negSucc n => "-" ++ text (n + 1)

/-- A number's numeral reads back as the number. -/
@[simp] theorem value_chars (n : Nat) : value (chars n) = n :=
  Nat.ofDigitChars_toDigits (by decide) (by decide)

/-- A number's numeral is a numeral. -/
@[simp] theorem isNumeral_chars (n : Nat) : isNumeral (chars n) = true := by
  have hne : chars n ≠ [] := List.ne_nil_of_length_pos Nat.length_toDigits_pos
  simp only [isNumeral, Bool.and_eq_true, Bool.not_eq_true', List.isEmpty_eq_false_iff, hne,
    ne_eq, not_false_eq_true, List.all_eq_true, true_and]
  intro c hc
  exact Nat.isDigit_of_mem_toDigits (by decide) (by decide) hc

/-- The numeral of a number is its digits. -/
theorem toList_text (n : Nat) : (text n).toList = chars n := by
  simp [text, chars, Nat.repr_eq_ofList_toDigits]

end Decimal

end Beacon
