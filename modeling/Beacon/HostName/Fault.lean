import Beacon.Text.Quoted

/-!
# Faults of Host Names

Why a label of a host name is not allowed. Where the fault lies with one code
point, it is named by number and by its position, counted from one, and the
label is shown.
-/

namespace Beacon

/-- Why a label of a host name is not allowed. -/
inductive LabelFault
  /-- There are no characters. -/
  | empty
  /-- There are too many characters. -/
  | tooLong
  /-- The name as a whole has too many characters. -/
  | nameTooLong
  /-- Nothing follows the mark of an encoded label. -/
  | bareMark
  /-- An encoded label ends in a hyphen. -/
  | openEnd
  /-- An encoded label cannot be decoded. -/
  | undecodable
  /-- The label is not in composed form. -/
  | notComposed
  /-- There are two hyphens where the mark of an encoded label has them. -/
  | innerHyphens
  /-- There is a hyphen at an end. -/
  | outerHyphen
  /-- A mark comes first. -/
  | leadingMark
  /-- A joiner joins nothing. -/
  | joiner (point : CodePoint) (position : Nat) (label : Text)
  /-- A code point is not in the right surroundings. -/
  | context (point : CodePoint) (position : Nat) (label : Text)
  /-- A code point is never allowed. -/
  | forbidden (point : CodePoint) (position : Nat) (label : Text)
  /-- The direction of a code point is not known. -/
  | unknownDirection (position : Nat) (label : Text)
  /-- The first code point tells no direction. -/
  | directionAtStart (label : Text)
  /-- A code point goes against the direction to the left. -/
  | againstRight (position : Nat)
  /-- A code point goes against the direction to the right. -/
  | againstLeft (position : Nat)
  /-- Numbers of two kinds are mixed. -/
  | mixedNumbers
  /-- The last code point is neither letter nor number. -/
  | directionAtEnd
  deriving DecidableEq, Repr

namespace LabelFault

/-- The number of a code point as it is named in messages. -/
def named (p : CodePoint) : String :=
  String.ofList ('U' :: '+' :: (Quoted.padded 4 p.code).map Char.toUpper)

/-- The text of a fault. -/
def message : LabelFault → String
  | empty => "Empty Label"
  | tooLong => "Label too long"
  | nameTooLong => "Domain too long"
  | bareMark => "Malformed A-label, no Punycode eligible content found"
  | openEnd => "A-label must not end with a hyphen"
  | undecodable => "Invalid A-label"
  | notComposed => "Label must be in Normalization Form C"
  | innerHyphens => "Label has disallowed hyphens in 3rd and 4th position"
  | outerHyphen => "Label must not start or end with a hyphen"
  | leadingMark => "Label begins with an illegal combining character"
  | joiner point position label =>
    s!"Unknown codepoint adjacent to joiner {named point} at position {position} in "
      ++ Quoted.text label
  | context point position label =>
    s!"Codepoint {named point} not allowed at position {position} in {Quoted.text label}"
  | forbidden point position label =>
    s!"Codepoint {named point} at position {position} of {Quoted.text label} not allowed"
  | unknownDirection position label =>
    s!"Unknown directionality in label {Quoted.text label} at position {position}"
  | directionAtStart label =>
    s!"First codepoint in label {Quoted.text label} must be directionality L, R or AL"
  | againstRight position =>
    s!"Invalid direction for codepoint at position {position} in a right-to-left label"
  | againstLeft position =>
    s!"Invalid direction for codepoint at position {position} in a left-to-right label"
  | mixedNumbers => "Can not mix numeral types in a right-to-left label"
  | directionAtEnd => "Label ends with illegal codepoint directionality"

end LabelFault

end Beacon
