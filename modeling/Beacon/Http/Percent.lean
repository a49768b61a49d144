import Beacon.Bytes.Hex
import Beacon.Text.Charset
import Beacon.Text.Utf8

/-!
# Percent Encoding

How characters are written in a location where they cannot stand as themselves:
each byte of their UTF-8 as a percent sign and two uppercase digits. Which
characters are safe depends on the part of the location. What has the form of
an escape already is left as it is, so that encoding twice is encoding once,
and a percent sign that begins no escape is a character like any other.

In a query made from a form, a blank is written as a plus sign, and nothing but
letters, digits and four signs is safe.

## Main definitions

* `Percent.encode`, `Percent.encodeText`: A text with its unsafe characters
  escaped.
* `Percent.form`: A text as the value of a form.
* `Percent.decode`: A text with its escapes resolved.
-/

namespace Beacon

namespace Percent

/-- An escape for one byte. -/
def escape (b : UInt8) : List Char :=
  ['%', (Hex.digit (b.toNat / 16)).toUpper, (Hex.digit (b.toNat % 16)).toUpper]

/-- The escapes for a character. -/
def escapes (c : Char) : List Char := (Utf8.encode c.toString).flatMap escape

/-- Whether a character is safe everywhere. -/
def isUnreserved (c : Char) : Bool :=
  c.isAlphanum || c = '-' || c = '.' || c = '_' || c = '~'

/-- Whether a character is a hexadecimal digit. -/
def isDigit (c : Char) : Bool := (Hex.value? c).isSome

/-- A character, escaped unless it is safe. -/
def guarded (safe : Char → Bool) (c : Char) : List Char :=
  if isUnreserved c || safe c then [c] else escapes c

/-- A text with its unsafe characters escaped, escapes standing as they are. -/
def encode (safe : Char → Bool) : List Char → List Char
  | [] => []
  | c :: rest =>
    if c = '%' then match rest with
      | a :: b :: more =>
        if isDigit a && isDigit b then c :: a :: b :: encode safe more
        else guarded safe c ++ encode safe (a :: b :: more)
      | rest => guarded safe c ++ encode safe rest
    else guarded safe c ++ encode safe rest

/-- A text with its unsafe characters escaped, one after the other. Half of a
    surrogate pair has no escape. -/
def encodeText (safe : Char → Bool) (t : Text) : Except CharsetFault (List Char) :=
  (Charset.unicode.checkEach t).map (encode safe)

/-- A text as the value of a form. It is written as a whole. -/
def form (t : Text) : Except CharsetFault (List Char) :=
  (Charset.unicode.check t).map fun cs =>
    cs.flatMap fun c => if c = ' ' then ['+'] else guarded (fun _ => false) c

/-- The bytes of a text whose escapes stand for bytes. -/
def bytes : List Char → Bytes
  | [] => []
  | c :: rest =>
    if c = '%' then match rest with
      | a :: b :: more => match Hex.value? a, Hex.value? b with
        | some high, some low => UInt8.ofNat (16 * high + low) :: bytes more
        | _, _ => Utf8.encode c.toString ++ bytes (a :: b :: more)
      | rest => Utf8.encode c.toString ++ bytes rest
    else Utf8.encode c.toString ++ bytes rest

/-- A text with its escapes resolved. -/
def decode (cs : List Char) : List Char := Utf8.decode (bytes cs)

end Percent

end Beacon
