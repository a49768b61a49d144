import Beacon.Merkle.Tree
import Mathlib.Data.List.GetD

/-!
# Hashing with Numbers

The hash of two nodes, computed without a single word or byte.

A node is thirty-two bytes, which spell a number. The hash takes the bytes apart
into words and puts the digest together from words again, and in between every
operation on words is an operation on numbers below `2 ^ 32`. So the number of a
hash is a function of the numbers of the two nodes (`spelled_hashPair`). It is the
same hash, but whole numbers are what a proof can be made to compute with, and
roots become something that can be evaluated.

The schedule of a block is one long number here. A word is added at its low end,
and the word at a place is cut out of it by a shift (`wordAt_packed`). One round of
the hash is the same expression for words and for numbers, with what overflows a
word cut off by `low`, and nothing has to be proved about it.

## Main definitions

* `Bytes.spelled`: The number that bytes spell, the high byte first.
* `Sha256.low`, `Sha256.packed`, `Sha256.wordAt`: Words in a long number.
* `Sha256.Numbers`: The words of a state as numbers.
* `Sha256.compressNumbers`: A block folded into a state, both made of numbers.
* `Merkle.joined`: The node above two nodes, all three of them numbers.

## Theorems

* `Sha256.wordAt_packed`: A word is found at its place.
* `Sha256.numbers_compress`: Folding a block into a state with numbers and with words
  is the same.
* `Sha256.digest_eq_compress`: The hash of sixty-four bytes is made of two blocks.
* `Merkle.spelled_hashPair`: The hash of two nodes.
-/

namespace Beacon

namespace Bytes

/-- The number that a byte string spells, its high byte first. -/
def spelled (bs : Bytes) : Nat := bs.foldl (fun n b => n * 256 + b.toNat) 0

theorem foldl_bytes (bs : Bytes) (n : Nat) :
    bs.foldl (fun n b => n * 256 + b.toNat) n = n * Nat.pow 256 bs.length + spelled bs := by
  induction bs generalizing n with
  | nil => exact (Nat.mul_one n).symm
  | cons b bs ih =>
      have hspelled : spelled (b :: bs) = b.toNat * Nat.pow 256 bs.length + spelled bs := by
        rw [← ih, spelled, List.foldl_cons, Nat.zero_mul, Nat.zero_add]
      have hpow : Nat.pow 256 (bs.length + 1) = 256 * Nat.pow 256 bs.length := Nat.mul_comm _ _
      rw [List.foldl_cons, ih, hspelled, List.length_cons, hpow, Nat.add_mul, Nat.mul_assoc,
        Nat.add_assoc]

theorem spelled_append (left right : Bytes) :
    spelled (left ++ right) = spelled left * Nat.pow 256 right.length + spelled right := by
  rw [spelled, List.foldl_append, foldl_bytes right, ← spelled]

end Bytes

namespace Sha256

/-! ### Words in a long number -/

/-- What is left of a number in a word. -/
def low (n : Nat) : Nat := n % 4294967296

/-- Words as one number, the first of them in the low bits. -/
def packed (ws : List UInt32) : Nat := ws.foldr (fun w n => n * 4294967296 + w.toNat) 0

/-- The word at a place of a long number. -/
def wordAt (n place : Nat) : Nat := low (n >>> (32 * place))

theorem low_packed_cons (w : UInt32) (ws : List UInt32) : low (packed (w :: ws)) = w.toNat := by
  have hw : w.toNat < 4294967296 := w.toNat_lt
  have hcons : packed (w :: ws) = packed ws * 4294967296 + w.toNat := rfl
  unfold low
  omega

theorem shift_packed_cons (w : UInt32) (ws : List UInt32) :
    packed (w :: ws) >>> 32 = packed ws := by
  have hw : w.toNat < 4294967296 := w.toNat_lt
  have hcons : packed (w :: ws) = packed ws * 4294967296 + w.toNat := rfl
  rw [Nat.shiftRight_eq_div_pow]
  omega

/-- A word is found at its place, and behind the last one there are zeros. -/
theorem wordAt_packed (ws : List UInt32) (place : Nat) :
    wordAt (packed ws) place = (ws.getD place 0).toNat := by
  induction ws generalizing place with
  | nil =>
      have hnone : packed [] = 0 := rfl
      rw [wordAt, hnone, Nat.zero_shiftRight, List.getD_nil]
      rfl
  | cons w ws ih =>
      unfold wordAt
      cases place with
      | zero => rw [Nat.mul_zero, Nat.shiftRight_zero, low_packed_cons, List.getD_cons_zero]
      | succ place =>
          rw [Nat.mul_succ, Nat.add_comm, Nat.shiftRight_add, shift_packed_cons,
            List.getD_cons_succ, ← ih, wordAt]

/-! ### Rounds -/

/-- A number below `2 ^ 32` turned to the right by `n` bits. -/
def turned (x n : Nat) : Nat := (x >>> n) ||| low (x <<< (32 - n))

/-- The next word of a schedule, of which the words so far are packed, newest
    first. -/
def nextNumber (schedule : Nat) : Nat :=
  let fresh := wordAt schedule 1
  let stale := wordAt schedule 14
  let mixedFresh := turned fresh 17 ^^^ turned fresh 19 ^^^ (fresh >>> 10)
  let mixedStale := turned stale 7 ^^^ turned stale 18 ^^^ (stale >>> 3)
  low (low (low (mixedFresh + wordAt schedule 6) + mixedStale) + wordAt schedule 15)

/-- A schedule grown by `count` words. -/
def growNumber : (count : Nat) → (schedule : Nat) → Nat
  | 0, schedule => schedule
  | count + 1, schedule => growNumber count (schedule * 4294967296 + nextNumber schedule)

/-- The words of a state as numbers. -/
structure Numbers where
  a : Nat
  b : Nat
  c : Nat
  d : Nat
  e : Nat
  f : Nat
  g : Nat
  h : Nat

/-- The words of a state as numbers. -/
def State.numbers (s : State) : Numbers :=
  ⟨s.a.toNat, s.b.toNat, s.c.toNat, s.d.toNat, s.e.toNat, s.f.toNat, s.g.toNat, s.h.toNat⟩

/-- One round with its word and constant. -/
def roundNumbers (s : Numbers) (w k : Nat) : Numbers :=
  let choice := (s.e &&& s.f) ^^^ ((4294967295 ^^^ s.e) &&& s.g)
  let majority := (s.a &&& s.b) ^^^ (s.a &&& s.c) ^^^ (s.b &&& s.c)
  let turnedLow := turned s.e 6 ^^^ turned s.e 11 ^^^ turned s.e 25
  let turnedHigh := turned s.a 2 ^^^ turned s.a 13 ^^^ turned s.a 22
  let lower := low (low (low (low (s.h + turnedLow) + choice) + k) + w)
  let upper := low (turnedHigh + majority)
  ⟨low (lower + upper), s.a, s.b, s.c, low (s.d + lower), s.e, s.f, s.g⟩

/-- The rounds of `count` words, the oldest of which stands last in the schedule. The
    constants are packed as well. -/
def roundsNumbers : (count schedule constants : Nat) → Numbers → Numbers
  | 0, _, _, s => s
  | count + 1, schedule, constants, s =>
    roundsNumbers count schedule (constants >>> 32)
      (roundNumbers s (wordAt schedule count) (low constants))

/-- A block folded into a state. The block is packed as a schedule is. -/
def compressNumbers (s : Numbers) (block : Nat) : Numbers :=
  let t := roundsNumbers 64 (growNumber 48 block) (packed constants) s
  ⟨low (s.a + t.a), low (s.b + t.b), low (s.c + t.c), low (s.d + t.d), low (s.e + t.e),
    low (s.f + t.f), low (s.g + t.g), low (s.h + t.h)⟩

theorem toNat_nextWord (ws : List UInt32) : (nextWord ws).toNat = nextNumber (packed ws) := by
  unfold nextNumber
  simp only [wordAt_packed]
  rfl

theorem growNumber_packed (count : Nat) (ws : List UInt32) :
    growNumber count (packed ws) = packed (grow count ws) := by
  induction count generalizing ws with
  | zero => rfl
  | succ count ih =>
      rw [growNumber, ← toNat_nextWord]
      exact ih (nextWord ws :: ws)

theorem numbers_round (s : State) (w k : UInt32) :
    (round s w k).numbers = roundNumbers s.numbers w.toNat k.toNat := rfl

theorem numbers_rounds (ws : List UInt32) (count : Nat) (hcount : count ≤ ws.length)
    (ks : List UInt32) (hks : ks.length = count) (s : State) :
    (rounds (ws.take count).reverse ks s).numbers
      = roundsNumbers count (packed ws) (packed ks) s.numbers := by
  induction count generalizing ks s with
  | zero =>
      rw [List.eq_nil_of_length_eq_zero hks]
      rfl
  | succ count ih =>
      rcases ks with _ | ⟨k, ks⟩
      · simp at hks
      · -- The last of the first words is the one whose turn it is.
        have htake : (ws.take (count + 1)).reverse = ws[count] :: (ws.take count).reverse := by
          rw [List.take_succ_eq_append_getElem hcount, List.reverse_append]
          rfl
        rw [List.length_cons, Nat.add_right_cancel_iff] at hks
        rw [htake, rounds, ih (by omega) ks hks, roundsNumbers, low_packed_cons,
          shift_packed_cons, wordAt_packed, List.getD_eq_getElem ws 0 hcount, numbers_round]

/-! ### Bytes -/

theorem byte_pushed (n : Nat) (b : UInt8) : n * 256 + b.toNat = n <<< 8 ||| b.toNat := by
  have hshift : n * 256 = n <<< 8 := (Nat.shiftLeft_eq n 8).symm
  rw [hshift]
  exact Nat.shiftLeft_add_eq_or_of_lt b.toNat_lt n

theorem toNat_word (p q r s : UInt8) :
    (word p q r s).toNat = ((p.toNat * 256 + q.toNat) * 256 + r.toNat) * 256 + s.toNat := by
  -- A byte that is shifted to its place stays within the word.
  have hfits (b : UInt8) (n : Nat) (hn : n ≤ 24) : b.toNat <<< n < 4294967296 := by
    have hb : b.toNat < 2 ^ 8 := b.toNat_lt
    have hpow : 2 ^ 8 * 2 ^ n ≤ 2 ^ 8 * 2 ^ 24 :=
      Nat.mul_le_mul_left _ (Nat.pow_le_pow_right (by omega) hn)
    have hlt : b.toNat * 2 ^ n < 2 ^ 8 * 2 ^ n := Nat.mul_lt_mul_of_pos_right hb (Nat.two_pow_pos n)
    rw [Nat.shiftLeft_eq]
    omega
  unfold word
  simp only [byte_pushed, Nat.shiftLeft_or_distrib, ← Nat.shiftLeft_add, UInt32.toNat_or,
    UInt32.toNat_shiftLeft, UInt8.toNat_toUInt32, UInt32.reduceToNat, Nat.reduceMod, Nat.reducePow,
    Nat.reduceAdd]
  rw [Nat.mod_eq_of_lt (hfits p 24 (by omega)), Nat.mod_eq_of_lt (hfits q 16 (by omega)),
    Nat.mod_eq_of_lt (hfits r 8 (by omega))]

theorem foldl_spell (w : UInt32) (n : Nat) :
    (spell w).foldl (fun n b => n * 256 + b.toNat) n = n * 4294967296 + w.toNat := by
  have hw : w.toNat < 4294967296 := w.toNat_lt
  simp only [spell, List.foldl_cons, UInt32.toNat_toUInt8, UInt32.toNat_shiftRight,
    UInt32.reduceToNat, Nat.reduceMod, Nat.shiftRight_eq_div_pow, Nat.reducePow, List.foldl_nil]
  omega

/-- Bytes that make whole words spell the same number as their words. -/
theorem foldl_words (bs : Bytes) (h : bs.length % 4 = 0) (n : Nat) :
    (words bs).foldl (fun n w => n * 4294967296 + w.toNat) n
      = bs.foldl (fun n b => n * 256 + b.toNat) n := by
  induction bs using words.induct generalizing n with
  | case1 p q r s rest ih =>
      have hrest : rest.length % 4 = 0 := by
        simp only [List.length_cons] at h
        omega
      have hpushed : n * 4294967296 + (word p q r s).toNat
          = (((n * 256 + p.toNat) * 256 + q.toNat) * 256 + r.toNat) * 256 + s.toNat := by
        rw [toNat_word]
        omega
      rw [words, List.foldl_cons, ih hrest, hpushed]
      simp only [List.foldl_cons]
  | case2 bs hbs =>
      -- What is no word long and makes whole words is empty.
      rcases bs with _ | ⟨p, _ | ⟨q, _ | ⟨r, _ | ⟨s, rest⟩⟩⟩⟩
      · rfl
      all_goals first | exact absurd rfl (hbs p q r s rest) | simp at h

theorem packed_words (bs : Bytes) (h : bs.length % 4 = 0) :
    packed (words bs).reverse = bs.spelled := by
  rw [packed, List.foldr_reverse]
  exact foldl_words bs h 0

theorem length_words (bs : Bytes) : (words bs).length = bs.length / 4 := by
  induction bs using words.induct with
  | case1 p q r s rest ih =>
      rw [words, List.length_cons, ih]
      simp only [List.length_cons]
      omega
  | case2 bs hbs =>
      rcases bs with _ | ⟨p, _ | ⟨q, _ | ⟨r, _ | ⟨s, rest⟩⟩⟩⟩
      all_goals first | exact absurd rfl (hbs p q r s rest) | simp [words]

theorem length_grow (count : Nat) (ws : List UInt32) :
    (grow count ws).length = ws.length + count := by
  induction count generalizing ws with
  | zero => rfl
  | succ count ih =>
      rw [grow, ih, List.length_cons]
      omega

/-- Folding a block into a state with numbers and with words is the same. -/
theorem numbers_compress (s : State) (block : Bytes) (h : block.length = 64) :
    (compress s block).numbers = compressNumbers s.numbers block.spelled := by
  have hlen : (grow 48 (words block).reverse).length = 64 := by
    rw [length_grow, List.length_reverse, length_words, h]
  have hrounds := numbers_rounds _ 64 (Nat.le_of_eq hlen.symm) constants rfl s
  rw [List.take_of_length_le (Nat.le_of_eq hlen), ← growNumber_packed,
    packed_words block (by rw [h])] at hrounds
  rw [compressNumbers, ← hrounds]
  rfl

/-- The number that a state spells. -/
def Numbers.spelled (s : Numbers) : Nat :=
  [s.a, s.b, s.c, s.d, s.e, s.f, s.g, s.h].foldl (fun n w => n * 4294967296 + w) 0

theorem spelled_bytes (s : State) : s.bytes.spelled = s.numbers.spelled := by
  unfold Bytes.spelled State.bytes
  simp only [List.foldl_append, foldl_spell]
  rfl

/-- What follows a message of sixty-four bytes to make it whole blocks. -/
def padding : Bytes := 0x80 :: Bytes.zeros 55 ++ (Bytes.ofNat 8 512).reverse

/-- The hash of sixty-four bytes is made of two blocks. -/
theorem digest_eq_compress (message : Bytes) (h : message.length = 64) :
    digest message = (compress (compress State.start message) padding).bytes := by
  have hpad : pad message = message ++ padding := by
    unfold pad padding
    rw [h, List.append_assoc]
  have hlen : (message ++ padding).length = 128 := by
    rw [List.length_append, h]
    rfl
  rw [digest, hpad]
  simp only [hlen]
  rw [absorb, absorb, absorb, List.take_left' h, List.drop_left' h]
  rfl

end Sha256

namespace Merkle

/-- The node above two nodes, all of them numbers. -/
def joined (left right : Nat) : Nat :=
  let s := Sha256.compressNumbers Sha256.State.start.numbers (left * Nat.pow 256 32 + right)
  (Sha256.compressNumbers s Sha256.padding.spelled).spelled

/-- The hash of two nodes. -/
theorem spelled_hashPair (left right : Bytes) (hleft : left.length = Chunk.size)
    (hright : right.length = Chunk.size) :
    (hashPair left right).spelled = joined left.spelled right.spelled := by
  have hlen : (left ++ right).length = 64 := by
    rw [List.length_append, hleft, hright]
    rfl
  rw [hashPair, Sha256.digest_eq_compress _ hlen, Sha256.spelled_bytes,
    Sha256.numbers_compress _ Sha256.padding rfl, Sha256.numbers_compress _ _ hlen,
    Bytes.spelled_append, hright]
  rfl

end Merkle

end Beacon
