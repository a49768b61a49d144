import Beacon.Text.Utf8
import Mathlib.Tactic.SplitIfs

/-!
# Line Feeds in Bytes

Bytes that are read for show have as many line feeds in their text as there are among
the bytes.

A byte below 128 is a character by itself wherever it stands: it never continues one,
and whatever was pending before it is a flaw. The other way round, no character of
several bytes is a line feed, because the least second byte makes the number of the
character 128 or more. A flaw is shown as a replacement character, which is none
either.

## Main definitions

* `Utf8.glyph`: The character that a code point or a flaw is shown as.
* `Utf8.feeds`: The line feeds among what code points and flaws are shown as.
* `Utf8.Pending.Wide`: What is pending completes no ASCII character.

## Theorems

* `Utf8.feeds_step`: A byte is shown as a line feed if it is one.
* `Utf8.feeds_scan`: As many line feeds are shown as there are among the bytes.
* `Utf8.count_decode`: Bytes have as many line feeds as their text.
-/

namespace Beacon

namespace CodePoint

/-- The only code point that is shown as a line feed is the line feed. -/
theorem toChar_ofNat_eq_newline_iff (n : Nat) : (ofNat n).toChar = '\n' ↔ n = 10 := by
  constructor
  · intro h
    unfold ofNat at h
    split at h
    · have hreplaced : replacement = '\n' := h
      exact absurd hreplaced (by decide)
    · rw [toChar, Char.ofNat] at h
      by_cases hvalid : n.isValidChar
      · rw [dif_pos hvalid] at h
        exact congrArg Char.toNat h
      · rw [dif_neg hvalid] at h
        exact absurd (congrArg Char.toNat h) (by decide)
  · rintro rfl
    rfl

end CodePoint

namespace Utf8

/-- The character that a code point or a flaw is shown as. -/
def glyph (p : Option CodePoint) : Char := (p.map CodePoint.toChar).getD CodePoint.replacement

/-- The line feeds among what code points and flaws are shown as. -/
def feeds (ps : List (Option CodePoint)) : Nat := (ps.map glyph).count '\n'

theorem feeds_ofNat (n : Nat) : feeds [some (.ofNat n)] = if n = 10 then 1 else 0 := by
  rw [feeds, List.map_singleton, List.count_singleton]
  simp only [glyph, Option.map_some, Option.getD_some, beq_iff_eq,
    CodePoint.toChar_ofNat_eq_newline_iff]

theorem feeds_append (ps qs : List (Option CodePoint)) :
    feeds (ps ++ qs) = feeds ps + feeds qs := by
  rw [feeds, List.map_append, List.count_append]
  rfl

theorem feeds_reverse (ps : List (Option CodePoint)) : feeds ps.reverse = feeds ps := by
  rw [feeds, List.map_reverse, List.count_reverse]
  rfl

/-- The bytes that continue a character are not ASCII, and neither is what they complete.
    The character may have begun with zeros only while two of its bytes are missing. -/
structure Pending.Wide (p : Pending) : Prop where
  /-- The next byte is not ASCII. -/
  low : 128 ≤ p.low
  /-- Something is begun after the next byte. -/
  begun : 2 ≤ 64 * p.code + (p.low - 128)
  /-- The last byte completes no ASCII character. -/
  last : p.missing = 1 → 128 ≤ 64 * p.code + (p.low - 128)

/-- Of the bytes that begin something, the line feed is the one that is shown as one. -/
theorem feeds_begin (halves : Bool) (b : Nat) :
    feeds (begin halves b).1 = if b = 10 then 1 else 0 := by
  by_cases hascii : b < 0x80
  · rw [begin, if_pos hascii]
    exact feeds_ofNat b
  · rw [if_neg (by omega), begin, if_neg hascii]
    -- Nothing is complete yet but a flaw.
    split_ifs <;> rfl

theorem wide_begin (halves : Bool) (b : Nat) {p : Pending} (h : (begin halves b).2 = some p) :
    p.Wide := by
  unfold begin at h
  split_ifs at h
  all_goals
    cases h
    constructor <;> simp only [] <;> omega

/-- A byte is shown as a line feed if it is one, whatever is pending. -/
theorem feeds_step (halves : Bool) (pending : Option Pending) (byte : UInt8)
    (hwide : ∀ p, pending = some p → p.Wide) :
    feeds (step halves pending byte).1 = (if byte.toNat = 10 then 1 else 0) ∧
      ∀ p, (step halves pending byte).2 = some p → p.Wide := by
  rcases pending with _ | p
  · exact ⟨feeds_begin halves _, fun q hq => wide_begin halves _ hq⟩
  obtain ⟨hlow, hbegun, hlast⟩ := hwide p rfl
  rw [step]
  simp only []
  by_cases hrange : p.low ≤ byte.toNat ∧ byte.toNat ≤ p.high
  · rw [if_pos hrange, if_neg (show byte.toNat ≠ 10 by omega)]
    by_cases hmissing : p.missing = 1
    · have hcode : 64 * p.code + (byte.toNat - 0x80) ≠ 10 := by
        have := hlast hmissing
        omega
      rw [if_pos hmissing, feeds_ofNat, if_neg hcode]
      exact ⟨rfl, fun q hq => absurd hq (by simp only [reduceCtorEq, not_false_eq_true])⟩
    · rw [if_neg hmissing]
      refine ⟨rfl, fun q hq => ?_⟩
      obtain rfl := Option.some.inj hq
      constructor <;> simp only [] <;> omega
  · rw [if_neg hrange]
    refine ⟨?_, fun q hq => wide_begin halves _ hq⟩
    -- What was pending is a flaw, and the byte begins something else.
    rw [← feeds_begin halves]
    rfl

/-- As many line feeds are shown as there are among the bytes. -/
theorem feeds_scan (halves : Bool) (pending : Option Pending) (done : List (Option CodePoint))
    (bs : Bytes) (hwide : ∀ p, pending = some p → p.Wide) :
    feeds (scan halves pending done bs).1 = feeds done + bs.count 10 := by
  induction bs generalizing pending done with
  | nil => rfl
  | cons b bs ih =>
      obtain ⟨hstep, hnext⟩ := feeds_step halves pending b hwide
      have hbyte : (if b == 10 then 1 else 0) = if b.toNat = 10 then 1 else 0 := by
        simp only [beq_iff_eq, ← UInt8.toNat_inj]
        rfl
      rw [scan]
      simp only []
      rw [ih _ _ hnext, feeds_append, feeds_reverse, hstep, List.count_cons, hbyte]
      omega

/-- Bytes have as many line feeds as their text. -/
theorem count_decode (bs : Bytes) : (decode bs).count '\n' = bs.count 10 := by
  have hscan := feeds_scan false none [] bs fun p hp => by cases hp
  rw [show feeds [] = 0 from rfl, Nat.zero_add] at hscan
  have hflush (pending : Option Pending) : (flush pending).count '\n' = 0 := by
    unfold flush
    split <;> rfl
  have hdecode : decode bs
      = (scan false none [] bs).1.reverse.map glyph ++ flush (scan false none [] bs).2 := rfl
  rw [hdecode, List.count_append, hflush, Nat.add_zero, ← hscan, ← feeds_reverse]
  rfl

end Utf8

end Beacon
