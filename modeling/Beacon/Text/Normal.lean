import Beacon.Text.Combining
import Beacon.Text.Composition

/-!
# Composed Text

The same text can be written with code points that are composed or with bases
and marks, and the marks on a base can come in different orders. Of all these
spellings one is the composed form. It is found by taking everything apart,
putting the marks in the order of their classes, and composing what composes.

A mark composes with the last base before it, unless a mark of the same or a
higher class stands between them.

## Main definitions

* `Text.decomposed`: Code points taken apart.
* `Text.ordered`: Code points with their marks in order.
* `Text.recomposed`: Code points with everything composed.
* `Text.isComposed`: Whether code points are in composed form.
-/

namespace Beacon

namespace Text

/-- How many times over a code point can be composed. -/
def maxParts : Nat := 4

/-- A code point taken apart, its base as often as the first argument allows. -/
def decomposedPoint : (fuel : Nat) → Nat → List Nat
  | 0, n => [n]
  | fuel + 1, n => match parts? n with
    | some (base, mark) => decomposedPoint fuel base ++ [mark]
    | none => [n]

/-- Code points taken apart. -/
def decomposed (ns : List Nat) : List Nat := ns.flatMap (decomposedPoint maxParts)

/-- Marks in order with another one before them. It goes behind those of lower
    classes. -/
def insertMark (n : Nat) : List Nat → List Nat
  | [] => [n]
  | m :: rest =>
    if combiningClass m ≠ 0 && combiningClass m < combiningClass n then m :: insertMark n rest
    else n :: m :: rest

/-- Code points with the marks on every base in the order of their classes. -/
def ordered : List Nat → List Nat
  | [] => []
  | n :: rest =>
    if combiningClass n = 0 then n :: ordered rest else insertMark n (ordered rest)

/-- Code points with everything composed. `base` is the last base, `marks` are
    those after it that did not compose with it, last first. -/
def recomposedFrom (base : Nat) (marks : List Nat) : List Nat → List Nat
  | [] => base :: marks.reverse
  | n :: rest =>
    let isFree := match marks with
      | [] => true
      | m :: _ => combiningClass m < combiningClass n
    match if isFree then composed? base n else none with
    | some composed => recomposedFrom composed marks rest
    | none =>
      if combiningClass n = 0 then base :: marks.reverse ++ recomposedFrom n [] rest
      else recomposedFrom base (n :: marks) rest

/-- Code points with everything composed. Marks that come before the first base
    stay as they are. -/
def recomposed (ns : List Nat) : List Nat :=
  let lead := ns.takeWhile fun n => combiningClass n ≠ 0
  match ns.dropWhile fun n => combiningClass n ≠ 0 with
  | [] => lead
  | base :: rest => lead ++ recomposedFrom base [] rest

/-- Whether code points are in composed form: none of them is one that is never
    used there, and taking them apart and composing them again changes
    nothing. -/
def isComposed (ns : List Nat) : Bool :=
  !ns.any isReplaced && recomposed (ordered (decomposed ns)) = ns

end Text

end Beacon
