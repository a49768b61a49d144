import Beacon.Number.Decimal

/-!
# Binary Floating Point Numbers

The numbers with a point or an exponent that a node may send and a caller may
set as a timeout. They are the doubles of IEEE 754, and two things about them
show: which double a decimal text stands for, and how a double is written.

Both are exact statements about integers, so a double is kept here as what it
means, a mantissa times a power of two, and no machine arithmetic takes part.
A text is read to the nearest double, a tie going to the even mantissa. A
double is written with the fewest digits that read back as it, and of those
with the nearest; positionally while the decimal exponent is modest, and with
an exponent of at least two digits otherwise.

## Main definitions

* `Binary64`: A double.
* `Binary64.ofDecimal`: The double nearest to a whole number times a power of
  ten.
* `Binary64.shortest`: The digits and decimal exponent a double is written
  with.
* `Binary64.text`: The written form.
-/

namespace Beacon

/-- A double: not a number, an infinity, or a mantissa below `2 ^ 53` times a
    power of two no lower than `2 ^ -1074`. -/
inductive Binary64
  | nan
  | infinite (negative : Bool)
  | finite (negative : Bool) (mantissa : Nat) (exponent : Int)
  deriving DecidableEq, Repr, Inhabited

namespace Binary64

/-- The lowest exponent of a double. -/
def minExponent : Int := -1074

/-- The highest exponent of a double. -/
def maxExponent : Int := 971

/-- A zero of the given sign. -/
def zero (negative : Bool) : Binary64 := .finite negative 0 minExponent

/-- `num / den` rounded to a whole number, a tie going to the even one. -/
def roundRatio (num den : Nat) : Nat :=
  let q := num / den
  let twice := 2 * (num % den)
  if den < twice ∨ (twice = den ∧ q % 2 = 1) then q + 1 else q

/-- `num / den` divided by a power of two, as a ratio again. -/
def scaleDown (num den : Nat) (exponent : Int) : Nat × Nat :=
  match exponent with
  | .ofNat e => (num, den * Nat.pow 2 e)
  | .negSucc e => (num * Nat.pow 2 (e + 1), den)

/-- The double nearest to a positive ratio. The exponent is the least one at
    which the mantissa has no more than 53 bits. -/
def ofRatio (negative : Bool) (num den : Nat) : Binary64 :=
  let guess : Int := max (Int.ofNat num.log2 - Int.ofNat den.log2 - 53) minExponent
  let (n, d) := scaleDown num den guess
  let exponent := if Nat.pow 2 53 ≤ n / d then guess + 1 else guess
  let (n, d) := scaleDown num den exponent
  let mantissa := roundRatio n d
  let (mantissa, exponent) :=
    if mantissa = Nat.pow 2 53 then (Nat.pow 2 52, exponent + 1) else (mantissa, exponent)
  if maxExponent < exponent then .infinite negative else .finite negative mantissa exponent

/-- The double nearest to `n` times `10 ^ power`. A power so large or so small
    that the outcome is settled by the number of digits alone is not raised. -/
def ofDecimal (negative : Bool) (n : Nat) (power : Int) : Binary64 :=
  if n = 0 then zero negative
  else
    let magnitude := power + (Decimal.chars n).length
    if 310 < magnitude then .infinite negative
    else if magnitude < -330 then zero negative
    else match power with
      | .ofNat p => ofRatio negative (n * Nat.pow 10 p) 1
      | .negSucc p => ofRatio negative n (Nat.pow 10 (p + 1))

/-- A positive double as a ratio. -/
def ratio (mantissa : Nat) (exponent : Int) : Nat × Nat :=
  match exponent with
  | .ofNat e => (mantissa * Nat.pow 2 e, 1)
  | .negSucc e => (mantissa, Nat.pow 2 (e + 1))

/-- The number of places before the point of a positive ratio: the `k` with
    `10 ^ (k - 1) ≤ num / den < 10 ^ k`. -/
def places (num den : Nat) : Int :=
  if den ≤ num then Int.ofNat (Decimal.chars (num / den)).length
  else
    let j := (Decimal.chars (den / num)).length
    if den = num * Nat.pow 10 (j - 1) then 2 - Int.ofNat j else 1 - Int.ofNat j

/-- Whether `candidate * 10 ^ power` reads back as the double `mantissa * 2 ^
    exponent`: it lies between the midpoints to its neighbours, the midpoints
    themselves included when the mantissa is even. Everything is compared in
    quarters of the gap above, because the gap below a power of two is half as
    wide. -/
def readsBack (mantissa : Nat) (exponent : Int) (candidate : Nat) (power : Int) : Bool :=
  let quarter := exponent - 2
  let (num, den) := match power with
    | .ofNat p => (candidate * Nat.pow 10 p, 1)
    | .negSucc p => (candidate, Nat.pow 10 (p + 1))
  let (num, den) := scaleDown num den quarter
  let narrow := mantissa = Nat.pow 2 52 ∧ minExponent < exponent
  let low := 4 * mantissa - (if narrow then 1 else 2)
  let high := 4 * mantissa + 2
  if mantissa % 2 = 0 then decide (low * den ≤ num ∧ num ≤ high * den)
  else decide (low * den < num ∧ num < high * den)

/-- The digits of a double that has at most `left` more digits to try after
    `count`: of the two neighbours on the grid of `count` digits the one that
    reads back, or the nearer if both do, or the even one if they are equally
    near. -/
def shortestFrom (mantissa : Nat) (exponent k : Int) (num den count : Nat) :
    (left : Nat) → Nat × Int
  | 0 => (num / den, 0)
  | left + 1 =>
    let power := k - Int.ofNat count
    let (n, d) := match power with
      | .ofNat p => (num, den * Nat.pow 10 p)
      | .negSucc p => (num * Nat.pow 10 (p + 1), den)
    let low := n / d
    let nearLow := decide (2 * (n % d) < d ∨ 2 * (n % d) = d ∧ low % 2 = 0)
    match readsBack mantissa exponent low power, readsBack mantissa exponent (low + 1) power with
    | true, true => if nearLow then (low, power) else (low + 1, power)
    | true, false => (low, power)
    | false, true => (low + 1, power)
    | false, false => shortestFrom mantissa exponent k num den (count + 1) left

/-- The whole number and power of ten that a positive double is written with:
    the fewest digits that read back as it. -/
def shortest (mantissa : Nat) (exponent : Int) : Nat × Int :=
  let (num, den) := ratio mantissa exponent
  shortestFrom mantissa exponent (places num den) num den 1 17

/-- A number's digits without the zeros it ends in. -/
def trimZeros (cs : List Char) : List Char :=
  (cs.reverse.dropWhile (· = '0')).reverse

/-- The written form of digits `d₁d₂…` standing for `0.d₁d₂… × 10 ^ point`:
    positional while `-4 < point ≤ 16`, with at least one digit on each side of
    the point; otherwise one digit before the point and a signed exponent of at
    least two digits. -/
def layout (digits : List Char) (point : Int) : List Char :=
  if -4 < point ∧ point ≤ 16 then
    match point with
    | .negSucc p => "0.".toList ++ List.replicate (p + 1) '0' ++ digits
    | .ofNat 0 => "0.".toList ++ digits
    | .ofNat p =>
      if digits.length ≤ p then
        digits ++ List.replicate (p - digits.length) '0' ++ ".0".toList
      else digits.take p ++ '.' :: digits.drop p
  else
    let e := point - 1
    let size := Decimal.chars e.natAbs
    let size := if size.length < 2 then '0' :: size else size
    let sign := if e < 0 then '-' else '+'
    let fraction := match digits.drop 1 with
      | [] => []
      | rest => '.' :: rest
    digits.take 1 ++ fraction ++ 'e' :: sign :: size

/-- A double as text: the fewest digits that read back as it. -/
def text : Binary64 → String
  | .nan => "nan"
  | .infinite negative => if negative then "-inf" else "inf"
  | .finite negative mantissa exponent =>
    let body :=
      if mantissa = 0 then "0.0".toList
      else
        let (n, power) := shortest mantissa exponent
        let cs := Decimal.chars n
        layout (trimZeros cs) (power + Int.ofNat cs.length)
    String.ofList (if negative then '-' :: body else body)

/-- Whether a double is zero, of either sign. -/
def isZero : Binary64 → Bool
  | .finite _ mantissa _ => mantissa = 0
  | _ => false

/-- Whether a double is one. -/
def isOne (x : Binary64) : Bool := x = ofDecimal false 1 0

/-- Whether a double is at most zero. Not-a-number is not. -/
def isNonPositive : Binary64 → Bool
  | .nan => false
  | .infinite negative => negative
  | .finite negative mantissa _ => negative || mantissa = 0

end Binary64

end Beacon
