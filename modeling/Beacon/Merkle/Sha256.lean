import Beacon.Bytes.Basic

/-!
# SHA-256

The hash that every root is made of. A message is padded to whole blocks of
sixty-four bytes: one bit set, zeros, and the length of the message in bits as
the last eight bytes. The blocks are then folded into a state of eight words,
each block by sixty-four rounds driven by a schedule of sixty-four words. Words
are spelled high byte first, here and in the digest.

A schedule is built backwards, its newest word first, so that each further word
is made of words at fixed places near the front.

## Main definitions

* `Sha256.State`: The eight words carried from block to block.
* `Sha256.schedule`: The words that drive the rounds of a block.
* `Sha256.compress`: A block folded into the state.
* `Sha256.pad`: A message filled up to whole blocks.
* `Sha256.digest`: The hash of a message.

## Theorems

* `Sha256.length_digest`: A digest has thirty-two bytes.
-/

namespace Beacon

namespace Sha256

/-- The eight words carried from block to block. -/
structure State where
  a : UInt32
  b : UInt32
  c : UInt32
  d : UInt32
  e : UInt32
  f : UInt32
  g : UInt32
  h : UInt32

/-- The state before the first block: the leading bits of the fractions of the
    square roots of the first eight primes. -/
def State.start : State :=
  ⟨0x6a09e667, 0xbb67ae85, 0x3c6ef372, 0xa54ff53a,
    0x510e527f, 0x9b05688c, 0x1f83d9ab, 0x5be0cd19⟩

/-- One constant a round: the leading bits of the fractions of the cube roots
    of the first sixty-four primes. -/
def constants : List UInt32 :=
  [0x428a2f98, 0x71374491, 0xb5c0fbcf, 0xe9b5dba5, 0x3956c25b, 0x59f111f1, 0x923f82a4, 0xab1c5ed5,
    0xd807aa98, 0x12835b01, 0x243185be, 0x550c7dc3, 0x72be5d74, 0x80deb1fe, 0x9bdc06a7, 0xc19bf174,
    0xe49b69c1, 0xefbe4786, 0x0fc19dc6, 0x240ca1cc, 0x2de92c6f, 0x4a7484aa, 0x5cb0a9dc, 0x76f988da,
    0x983e5152, 0xa831c66d, 0xb00327c8, 0xbf597fc7, 0xc6e00bf3, 0xd5a79147, 0x06ca6351, 0x14292967,
    0x27b70a85, 0x2e1b2138, 0x4d2c6dfc, 0x53380d13, 0x650a7354, 0x766a0abb, 0x81c2c92e, 0x92722c85,
    0xa2bfe8a1, 0xa81a664b, 0xc24b8b70, 0xc76c51a3, 0xd192e819, 0xd6990624, 0xf40e3585, 0x106aa070,
    0x19a4c116, 0x1e376c08, 0x2748774c, 0x34b0bcb5, 0x391c0cb3, 0x4ed8aa4a, 0x5b9cca4f, 0x682e6ff3,
    0x748f82ee, 0x78a5636f, 0x84c87814, 0x8cc70208, 0x90befffa, 0xa4506ceb, 0xbef9a3f7, 0xc67178f2]

/-- A word turned to the right by `n` bits. -/
def rotate (x : UInt32) (n : UInt32) : UInt32 := (x >>> n) ||| (x <<< (32 - n))

/-- The mixing of a word fifteen places back in the schedule. -/
def spreadOld (x : UInt32) : UInt32 := rotate x 7 ^^^ rotate x 18 ^^^ (x >>> 3)

/-- The mixing of a word two places back in the schedule. -/
def spreadNew (x : UInt32) : UInt32 := rotate x 17 ^^^ rotate x 19 ^^^ (x >>> 10)

/-- The next word of a schedule, of which the newest sixteen words are given,
    newest first. -/
def nextWord (newest : List UInt32) : UInt32 :=
  spreadNew (newest.getD 1 0) + newest.getD 6 0 + spreadOld (newest.getD 14 0)
    + newest.getD 15 0

/-- A schedule grown by `count` words, newest first. -/
def grow : (count : Nat) → List UInt32 → List UInt32
  | 0, words => words
  | count + 1, words => grow count (nextWord words :: words)

/-- The word of four bytes, high byte first. -/
def word (p q r s : UInt8) : UInt32 :=
  (p.toUInt32 <<< 24) ||| (q.toUInt32 <<< 16) ||| (r.toUInt32 <<< 8) ||| s.toUInt32

/-- The words of a byte string, as far as it holds whole words. -/
def words : Bytes → List UInt32
  | p :: q :: r :: s :: rest => word p q r s :: words rest
  | _ => []

/-- The sixty-four words that drive the rounds of a block. -/
def schedule (block : Bytes) : List UInt32 := (grow 48 (words block).reverse).reverse

/-- One round with its word and constant. -/
def round (s : State) (w k : UInt32) : State :=
  let choice := (s.e &&& s.f) ^^^ (~~~s.e &&& s.g)
  let majority := (s.a &&& s.b) ^^^ (s.a &&& s.c) ^^^ (s.b &&& s.c)
  let low := s.h + (rotate s.e 6 ^^^ rotate s.e 11 ^^^ rotate s.e 25) + choice + k + w
  let high := (rotate s.a 2 ^^^ rotate s.a 13 ^^^ rotate s.a 22) + majority
  ⟨low + high, s.a, s.b, s.c, s.d + low, s.e, s.f, s.g⟩

/-- The rounds of a block, one for each pair of word and constant. -/
def rounds : List UInt32 → List UInt32 → State → State
  | w :: ws, k :: ks, s => rounds ws ks (round s w k)
  | _, _, s => s

/-- A block folded into the state. -/
def compress (s : State) (block : Bytes) : State :=
  let t := rounds (schedule block) constants s
  ⟨s.a + t.a, s.b + t.b, s.c + t.c, s.d + t.d, s.e + t.e, s.f + t.f, s.g + t.g, s.h + t.h⟩

/-- The first `count` blocks of a byte string folded into the state. -/
def absorb : (count : Nat) → State → Bytes → State
  | 0, s, _ => s
  | count + 1, s, data => absorb count (compress s (data.take 64)) (data.drop 64)

/-- A message filled up to whole blocks. -/
def pad (message : Bytes) : Bytes :=
  let length := message.length
  message ++ 0x80 :: Bytes.zeros ((119 - length % 64) % 64)
    ++ (Bytes.ofNat 8 (8 * length)).reverse

/-- The four bytes of a word, high byte first. -/
def spell (w : UInt32) : Bytes :=
  [(w >>> 24).toUInt8, (w >>> 16).toUInt8, (w >>> 8).toUInt8, w.toUInt8]

/-- The bytes of a state. -/
def State.bytes (s : State) : Bytes :=
  spell s.a ++ spell s.b ++ spell s.c ++ spell s.d ++ spell s.e ++ spell s.f ++ spell s.g
    ++ spell s.h

/-- The hash of a message. -/
def digest (message : Bytes) : Bytes :=
  let padded := pad message
  (absorb (padded.length / 64) State.start padded).bytes

/-- A digest has thirty-two bytes. -/
@[simp] theorem length_digest (message : Bytes) : (digest message).length = 32 := rfl

end Sha256

end Beacon
