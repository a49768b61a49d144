import Beacon.Bytes.Basic
import Beacon.Text.Basic

/-!
# Text in Bytes

Reading UTF-8. A character takes one to four bytes, the first of which says how
many there are, and in some cases which second bytes may follow, so that no
character has two encodings and none is half a surrogate pair.

Bytes that are no encoding stand for one flaw each time: as many bytes as could
have begun a character count together, and reading goes on with the first byte
that does not fit. Reading for show puts the replacement character in place of
a flaw; reading for use refuses the whole. Reading for use also takes the three
bytes that half of a surrogate pair would have, and the half is part of the
text then; two halves that follow each other do not become one character.

The reader is a machine that takes a byte at a time, so that a stream can be
read in pieces.

## Main definitions

* `Utf8.Pending`: A character that has begun.
* `Utf8.step`: What a byte completes, and what is pending after it.
* `Utf8.decodeFrom`, `Utf8.decode`: Reading for show, in pieces and as a whole.
* `Utf8.decode?`: Reading for use.
* `Utf8.encode`: The bytes of a text.
-/

namespace Beacon

namespace Utf8

/-- A character that has begun: the bytes still missing, the range of the next
    of them, and the bits so far. -/
structure Pending where
  /-- Bytes still missing. -/
  missing : Nat
  /-- The least next byte. -/
  low : Nat
  /-- The greatest next byte. -/
  high : Nat
  /-- The bits so far. -/
  code : Nat
  deriving DecidableEq, Repr

/-- What a byte begins: a whole character, one that is pending, or a flaw. -/
def begin (halves : Bool) (b : Nat) : List (Option CodePoint) × Option Pending :=
  if b < 0x80 then ([some (.ofNat b)], none)
  else if b < 0xc2 then ([none], none)
  else if b < 0xe0 then ([], some ⟨1, 0x80, 0xbf, b - 0xc0⟩)
  else if b = 0xe0 then ([], some ⟨2, 0xa0, 0xbf, 0⟩)
  else if b = 0xed && !halves then ([], some ⟨2, 0x80, 0x9f, 0xd⟩)
  else if b < 0xf0 then ([], some ⟨2, 0x80, 0xbf, b - 0xe0⟩)
  else if b = 0xf0 then ([], some ⟨3, 0x90, 0xbf, 0⟩)
  else if b < 0xf4 then ([], some ⟨3, 0x80, 0xbf, b - 0xf0⟩)
  else if b = 0xf4 then ([], some ⟨3, 0x80, 0x8f, 4⟩)
  else ([none], none)

/-- What a byte completes, a flaw being nothing, and what is pending after it.
    Whether halves of surrogate pairs are flaws is up to `halves`. -/
def step (halves : Bool) (pending : Option Pending) (byte : UInt8) :
    List (Option CodePoint) × Option Pending :=
  let b := byte.toNat
  match pending with
  | none => begin halves b
  | some p =>
    if p.low ≤ b ∧ b ≤ p.high then
      let code := 64 * p.code + (b - 0x80)
      if p.missing = 1 then ([some (.ofNat code)], none)
      else ([], some ⟨p.missing - 1, 0x80, 0xbf, code⟩)
    else
      let (done, pending) := begin halves b
      (none :: done, pending)

/-- Code points and flaws of bytes, last first, `done` being those before
    them. -/
def scan (halves : Bool) (pending : Option Pending) (done : List (Option CodePoint)) :
    Bytes → List (Option CodePoint) × Option Pending
  | [] => (done, pending)
  | b :: rest =>
    let (new, pending) := step halves pending b
    scan halves pending (new.reverse ++ done) rest

/-- The characters of a piece of a stream, and what is pending at its end. -/
def decodeFrom (pending : Option Pending) (bs : Bytes) : List Char × Option Pending :=
  let (done, pending) := scan false pending [] bs
  (done.reverse.map fun p => (p.map CodePoint.toChar).getD CodePoint.replacement, pending)

/-- What is left of a character that is pending when a stream ends. -/
def flush (pending : Option Pending) : List Char :=
  if pending.isSome then [CodePoint.replacement] else []

/-- The characters of bytes, read for show. -/
def decode (bs : Bytes) : List Char :=
  let (cs, pending) := decodeFrom none bs
  cs ++ flush pending

/-- The text of bytes, read for use. -/
def decode? (bs : Bytes) : Option Text :=
  match scan true none [] bs with
  | (done, none) => done.reverse.mapM id
  | (_, some _) => none

/-- The bytes of a text. -/
def encode (s : String) : Bytes := s.toUTF8.toList

end Utf8

end Beacon
