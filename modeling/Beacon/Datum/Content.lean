import Beacon.Datum.Reader
import Beacon.Text.Utf8
import Beacon.Text.Wide

/-!
# JSON in Bytes

JSON that comes as bytes is text in UTF-8, UTF-16 or UTF-32. A mark at the start
says which it is; without one, the zero bytes among the first four do, because
JSON text starts with an ASCII character. The mark is no part of the text.

## Main definitions

* `Content.Coding`: How text is put into bytes.
* `Content.coding`: The coding of bytes that hold JSON, and what follows the
  mark.
* `Content.read`: The datum that bytes hold.
-/

namespace Beacon

namespace Content

/-- How text is put into bytes. -/
inductive Coding
  | utf8
  | utf16 (bigEndian : Bool)
  | utf32 (bigEndian : Bool)
  deriving DecidableEq, Repr

/-- The coding that the zero bytes at the start show. -/
def unmarked : Bytes → Coding
  | a :: b :: c :: d :: _ =>
    if a = 0 then if b = 0 then .utf32 true else .utf16 true
    else if b = 0 then if c = 0 ∧ d = 0 then .utf32 false else .utf16 false
    else .utf8
  | [a, b] => if a = 0 then .utf16 true else if b = 0 then .utf16 false else .utf8
  | _ => .utf8

/-- The coding of bytes that hold JSON, and the bytes without the mark. -/
def coding : Bytes → Coding × Bytes
  | 0x00 :: 0x00 :: 0xfe :: 0xff :: rest => (.utf32 true, rest)
  | 0xff :: 0xfe :: 0x00 :: 0x00 :: rest => (.utf32 false, rest)
  | 0xfe :: 0xff :: rest => (.utf16 true, rest)
  | 0xff :: 0xfe :: rest => (.utf16 false, rest)
  | 0xef :: 0xbb :: 0xbf :: rest => (.utf8, rest)
  | bs => (unmarked bs, bs)

/-- The text that bytes hold in a coding. -/
def text? : Coding → Bytes → Option Text
  | .utf8, bs => Utf8.decode? bs
  | .utf16 bigEndian, bs => Wide.decode16? bigEndian bs
  | .utf32 bigEndian, bs => Wide.decode32? bigEndian bs

/-- The datum that bytes hold as JSON. Bytes that hold no text hold no JSON. -/
def read (bs : Bytes) : Except JsonFault Datum :=
  let (coding, bs) := coding bs
  match text? coding bs with
  | some t => Datum.parse t
  | none => .error .malformed

end Content

end Beacon
