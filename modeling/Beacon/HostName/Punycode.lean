/-!
# Labels in ASCII

How code points of every script are written with letters, digits and hyphens.
The ASCII characters come first, as they are, and a hyphen after them if there
are any. The others follow in the order of their numbers, each as a step from
the one before: how many places in the growing text are passed over, a round
through all of it for every number in between.

A step is written in digits of base 36, the lowest first. A digit below a
threshold is the last one of its step. The threshold of a digit depends on its
place and on a bias, which moves with the sizes of the steps before, so that
usual steps take few digits.

## Main definitions

* `Punycode.encode`: Code points in ASCII.
* `Punycode.decode?`: The code points that ASCII characters stand for.
-/

namespace Beacon

namespace Punycode

/-! ### Digits and thresholds -/

/-- The number of digits. -/
def base : Nat := 36

/-- The digit of a number below 36: letters first. -/
def digit (n : Nat) : Char := if n < 26 then Char.ofNat (0x61 + n) else Char.ofNat (0x16 + n)

/-- The number of a digit, a letter in either case. -/
def digit? (c : Char) : Option Nat :=
  if 'a' ≤ c ∧ c ≤ 'z' then some (c.toNat - 0x61)
  else if 'A' ≤ c ∧ c ≤ 'Z' then some (c.toNat - 0x41)
  else if '0' ≤ c ∧ c ≤ '9' then some (c.toNat - 0x16)
  else none

/-- The threshold at a place, places being multiples of 36. -/
def threshold (place bias : Nat) : Nat := max 1 (min 26 (place - bias))

/-- Thresholds are positive. -/
theorem threshold_pos (place bias : Nat) : 0 < threshold place bias :=
  Nat.lt_of_lt_of_le Nat.zero_lt_one (Nat.le_max_left _ _)

/-- A step divided by 35 until it is small, and 36 for every division. -/
def shrink (delta : Nat) : Nat × Nat :=
  if 455 < delta then
    let (small, bias) := shrink (delta / 35)
    (small, bias + base)
  else (delta, 0)
termination_by delta
decreasing_by exact Nat.div_lt_self (by omega) (by omega)

/-- The bias after a step in a text that has `length` code points with the new
    one. The first step is mostly larger than those that follow. -/
def adapt (delta length : Nat) (isFirst : Bool) : Nat :=
  let delta := if isFirst then delta / 700 else delta / 2
  let (small, bias) := shrink (delta + delta / length)
  bias + 36 * small / (small + 38)

/-! ### Encoding -/

/-- The digits of a step, from a place on. -/
def digits (bias place step : Nat) : List Char :=
  let t := threshold place bias
  if step < t then [digit step]
  else
    digit (t + (step - t) % (base - t)) :: digits bias (place + base) ((step - t) / (base - t))
termination_by step
decreasing_by
  have := threshold_pos place bias
  exact Nat.lt_of_le_of_lt (Nat.div_le_self _ _) (by omega)

/-- An encoding on its way. -/
structure Progress where
  /-- The digits so far, last first. -/
  written : List Char
  /-- The step so far to the next code point. -/
  delta : Nat
  /-- The bias. -/
  bias : Nat
  /-- How many code points have been written. -/
  count : Nat
  /-- Whether no step has been written. -/
  isFirst : Bool

/-- An encoding that passes over a place of the text, or writes the code point
    there if its turn has come. -/
def Progress.pass (turn : Nat) (p : Progress) (n : Nat) : Progress :=
  if n < turn then { p with delta := p.delta + 1 }
  else if n = turn then
    ⟨(digits p.bias base p.delta).reverse ++ p.written, 0,
      adapt p.delta (p.count + 1) p.isFirst, p.count + 1, false⟩
  else p

/-- An encoding that goes through the text once for each of the numbers, from
    the least to the greatest, `turn` being the least that has not had its
    turn. -/
def Progress.write (text : List Nat) (p : Progress) (turn : Nat) : List Nat → List Char
  | [] => p.written.reverse
  | n :: more =>
    let p := { p with delta := p.delta + (n - turn) * (p.count + 1) }
    let p := text.foldl (Progress.pass n) p
    Progress.write text { p with delta := p.delta + 1 } (n + 1) more

/-- Numbers in order with another one among them, unless it is there. -/
def insert (n : Nat) : List Nat → List Nat
  | [] => [n]
  | m :: rest => if n < m then n :: m :: rest else if n = m then m :: rest else m :: insert n rest

/-- The first number that is no ASCII character. -/
def firstOther : Nat := 0x80

/-- The bias at the start. -/
def firstBias : Nat := 72

/-- Code points in ASCII. -/
def encode (text : List Nat) : List Char :=
  let plain := (text.filter (· < firstOther)).map Char.ofNat
  let others := (text.filter (firstOther ≤ ·)).foldr insert []
  plain ++ (if plain.isEmpty then [] else ['-'])
    ++ Progress.write text ⟨[], 0, firstBias, plain.length, true⟩ firstOther others

/-! ### Decoding -/

/-- A decoding on its way. -/
structure Reading where
  /-- The code points so far. -/
  text : List Nat
  /-- The last code point that was put in. -/
  last : Nat
  /-- The place after it. -/
  place : Nat
  /-- The bias. -/
  bias : Nat
  /-- The step so far. -/
  delta : Nat
  /-- What the next digit of the step counts. -/
  weight : Nat
  /-- The place of that digit, in multiples of 36. -/
  digitPlace : Nat
  /-- Whether no step has been completed. -/
  isFirst : Bool

/-- The greatest code point. -/
def greatest : Nat := 0x10ffff

/-- A decoding after the next digit. -/
def Reading.take (r : Reading) (d : Nat) : Option Reading :=
  let t := threshold r.digitPlace r.bias
  let delta := r.delta + d * r.weight
  if t ≤ d then
    some { r with
      delta := delta, weight := r.weight * (base - t), digitPlace := r.digitPlace + base }
  else
    let length := r.text.length + 1
    let place := r.place + delta
    let last := r.last + place / length
    let place := place % length
    if greatest < last then none
    else some ⟨r.text.take place ++ last :: r.text.drop place, last, place + 1,
      adapt delta length r.isFirst, 0, 1, base, false⟩

/-- The code points that a decoding comes to. It must not end inside a step. -/
def Reading.finish (r : Reading) : List Char → Option (List Nat)
  | [] => if r.digitPlace = base then some r.text else none
  | c :: rest => match (digit? c).bind r.take with
    | some r => r.finish rest
    | none => none

/-- The code points that ASCII characters stand for. What comes before the last
    hyphen stands for itself. -/
def decode? (cs : List Char) : Option (List Nat) :=
  let steps := (cs.reverse.takeWhile (· ≠ '-')).reverse
  let plain := (cs.take (cs.length - steps.length)).dropLast
  Reading.finish ⟨plain.map Char.toNat, firstOther, 0, firstBias, 0, 1, base, true⟩ steps

end Punycode

end Beacon
