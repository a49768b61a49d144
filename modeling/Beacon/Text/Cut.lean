/-!
# Cutting Text

A text cut at a sign: in two where the sign occurs first, as a name and its
value, or wherever it occurs, as the steps of a path.

## Main definitions

* `Text.cutAt`: A text cut in two.
* `Text.pieces`: A text cut wherever a sign occurs.
-/

namespace Beacon

namespace Text

/-- What stands before the first occurrence of a sign, and what stands after it
    if there is one. -/
def cutAt {α : Type} [DecidableEq α] (c : α) (cs : List α) : List α × Option (List α) :=
  match cs.dropWhile (· ≠ c) with
  | _ :: rest => (cs.takeWhile (· ≠ c), some rest)
  | [] => (cs, none)

/-- The pieces of a text between the occurrences of a sign. -/
def pieces {α : Type} [DecidableEq α] (c : α) : List α → List (List α)
  | [] => [[]]
  | d :: rest =>
    if d = c then [] :: pieces c rest
    else match pieces c rest with
      | piece :: more => (d :: piece) :: more
      | [] => [[d]]

end Text

end Beacon
