/-!
# Text from Outside

Text that comes from outside is a row of code points, and not every row of code
points is a string. JSON can name half of a surrogate pair by itself, and so can
anyone who hands a text over as JSON. Such a half is no character and has no
place in a string, but it is carried along, compared and shown like any other
code point, and refused only where characters are needed.

The words of the program itself are strings, and a string is a text. In the
other direction, what only recognizes certain characters reads a text through
the replacement character: it is no digit, no letter, no blank and not ASCII,
and so is a half.

## Main definitions

* `CodePoint`: A character, or half of a surrogate pair.
* `Text`: A row of code points.
* `Text.ofString`: A string as a text.
* `Text.chars`, `Text.legible`: A text with replacement characters for its
  halves.
* `Text.span`: The characters of a kind at the head of a text.

## Theorems

* `CodePoint.ofNat_code`: A code point is known by its number.
* `Text.legible_ofString`: A string is read from its text as it is.
-/

namespace Beacon

/-- A character, or half of a surrogate pair. -/
inductive CodePoint
  /-- A character. -/
  | char (c : Char)
  /-- The half of a surrogate pair with this number among the halves. -/
  | half (h : Fin 2048)
  deriving DecidableEq, Repr, Inhabited

namespace CodePoint

/-- The number of the first half. -/
def firstHalf : Nat := 0xd800

/-- The number of a code point. -/
def code : CodePoint → Nat
  | .char c => c.toNat
  | .half h => firstHalf + h.val

/-- The code point of a number. -/
def ofNat (n : Nat) : CodePoint :=
  if h : firstHalf ≤ n ∧ n < firstHalf + 2048 then .half ⟨n - firstHalf, by omega⟩
  else .char (Char.ofNat n)

/-- The character that stands for what is no character. -/
def replacement : Char := '\ufffd'

/-- A code point as a character. -/
def toChar : CodePoint → Char
  | .char c => c
  | .half _ => replacement

/-- Whether a code point is a character of a kind. -/
def isA (kind : Char → Bool) : CodePoint → Bool
  | .char c => kind c
  | .half _ => false

/-- Whether a code point is an ASCII character. -/
def isAscii (p : CodePoint) : Bool := p.code < 128

/-- A code point is known by its number. -/
@[simp] theorem ofNat_code (p : CodePoint) : ofNat p.code = p := by
  cases p with
  | char c =>
    have h : ¬(firstHalf ≤ c.toNat ∧ c.toNat < firstHalf + 2048) := by
      have := c.valid
      simp only [UInt32.isValidChar, Nat.isValidChar, Char.toNat, firstHalf] at this ⊢
      omega
    simp [ofNat, code, h]
  | half h =>
    have := h.isLt
    have h' : firstHalf ≤ firstHalf + h.val ∧ firstHalf + h.val < firstHalf + 2048 := by omega
    simp [ofNat, code, h']

end CodePoint

/-- A row of code points. -/
abbrev Text := List CodePoint

namespace Text

/-- Characters as a text. -/
def ofChars (cs : List Char) : Text := cs.map .char

/-- A string as a text. -/
def ofString (s : String) : Text := ofChars s.toList

instance : Coe String Text := ⟨ofString⟩

/-- The characters of a text, with replacement characters for its halves. -/
def chars (t : Text) : List Char := t.map CodePoint.toChar

/-- A text as a string, with replacement characters for its halves. -/
def legible (t : Text) : String := String.ofList (chars t)

/-- Whether a text has a half of a surrogate pair. -/
def isBroken (t : Text) : Bool := t.any fun p => !p.isA fun _ => true

/-- The characters of a kind at the head of a text, last first in front of
    `done`, and the rest. -/
def spanFrom (kind : Char → Bool) (done : List Char) : Text → List Char × Text
  | .char c :: rest =>
    if kind c then spanFrom kind (c :: done) rest else (done.reverse, .char c :: rest)
  | rest => (done.reverse, rest)

/-- The characters of a kind at the head of a text, and the rest. -/
def span (kind : Char → Bool) (t : Text) : List Char × Text := spanFrom kind [] t

/-- Texts one after the other with a text between any two. -/
def join (between : Text) : List Text → Text
  | [] => []
  | [t] => t
  | t :: rest => t ++ (between ++ join between rest)

theorem ofChars_cons (c : Char) (cs : List Char) : ofChars (c :: cs) = .char c :: ofChars cs := rfl

theorem ofChars_append (cs ds : List Char) : ofChars (cs ++ ds) = ofChars cs ++ ofChars ds :=
  List.map_append

@[simp] theorem chars_ofChars (cs : List Char) : chars (ofChars cs) = cs := by
  simp only [chars, ofChars, List.map_map]
  exact List.map_id' cs

/-- A string is read from its text as it is. -/
@[simp] theorem legible_ofString (s : String) : legible (ofString s) = s := by
  simp [legible, ofString]

@[simp] theorem ofString_inj {s t : String} : ofString s = ofString t ↔ s = t :=
  ⟨fun h => by rw [← legible_ofString s, h, legible_ofString], fun h => h ▸ rfl⟩

end Text

end Beacon
