/-!
# Tables of Code Points

A property of code points is given by the intervals that have it, and a class by
the intervals of its members, each with the class. That is the shape of the
standard's own tables, and it keeps them short, since neighbours mostly agree.

## Main definitions

* `Intervals`, `Intervals.hold`: A property, and whether a code point has it.
* `Classed`, `Classed.classOf?`: Classes, and that of a code point.
-/

namespace Beacon

/-- Intervals of code points, both ends included. -/
abbrev Intervals := List (Nat × Nat)

/-- Whether a code point lies in one of the intervals. -/
def Intervals.hold (table : Intervals) (n : Nat) : Bool :=
  table.any fun (first, last) => first ≤ n && n ≤ last

/-- Intervals of code points, both ends included, each with its class. -/
abbrev Classed (α : Type) := List (Nat × Nat × α)

/-- The class of a code point, if it lies in one of the intervals. -/
def Classed.classOf? {α : Type} (table : Classed α) (n : Nat) : Option α :=
  (table.find? fun (first, last, _) => first ≤ n && n ≤ last).map fun (_, _, c) => c

end Beacon
