import Beacon.Bytes.Basic

/-!
# Hexadecimal Text

The written form of a byte string: two lowercase digits a byte, and in the node
API a leading `0x`.

Reading is more generous than writing. It takes either case of digit, a text
with or without the leading `0x`, and blanks between bytes. What it does not
take is reported by position, counted in the text after the leading `0x` is
removed, because that position is part of the error a caller sees. Three
positions can be at fault: the first character outside ASCII, which is looked
for before anything else; a character that is no digit where a digit is due;
and the end of the text after half a byte.

## Main definitions

* `Hex.digit`: The lowercase digit of a number below sixteen.
* `Hex.value?`: The number a digit of either case stands for.
* `Hex.chars`, `Hex.text`, `Hex.marked`: A byte string as digits, as text, and
  as text with its leading `0x`.
* `Hex.read`: The bytes of a text, or the position that cannot be read.

## Theorems

* `Hex.readFrom_chars`: The digits of bytes are read to the bytes.
* `Hex.read_marked`: Bytes are read back from their text.
-/

namespace Beacon

namespace Hex

/-- The lowercase digit of a number below sixteen. -/
def digit (n : Nat) : Char :=
  if n < 10 then Char.ofNat (48 + n) else Char.ofNat (87 + n)

/-- The number a hexadecimal digit stands for, in either case. -/
def value? (c : Char) : Option Nat :=
  if '0' ≤ c ∧ c ≤ '9' then some (c.toNat - 48)
  else if 'a' ≤ c ∧ c ≤ 'f' then some (c.toNat - 87)
  else if 'A' ≤ c ∧ c ≤ 'F' then some (c.toNat - 55)
  else none

/-- The two digits of one byte, high half first. -/
def ofByte (b : UInt8) : List Char := [digit (b.toNat / 16), digit (b.toNat % 16)]

/-- The digits of a byte string. -/
def chars (bs : Bytes) : List Char := bs.flatMap ofByte

/-- A byte string as hexadecimal text. -/
def text (bs : Bytes) : String := String.ofList (chars bs)

/-- A byte string as hexadecimal text with its leading `0x`. -/
def marked (bs : Bytes) : String := String.ofList ('0' :: 'x' :: chars bs)

/-- A text without its leading `0x`, if it has one. -/
def unmarked : List Char → List Char
  | '0' :: 'x' :: rest => rest
  | cs => cs

/-- The blanks allowed between two bytes: the six ASCII ones. -/
def isBlank (c : Char) : Bool :=
  c = ' ' || c = '\t' || c = '\n' || c = '\r' || c = '\x0b' || c = '\x0c'

/-- Reads bytes from position `pos` on, `done` holding the bytes already read,
    last first. The error is the position that cannot be read. -/
def readFrom (pos : Nat) (done : Bytes) : List Char → Except Nat Bytes
  | [] => .ok done.reverse
  | c :: rest =>
    if isBlank c then readFrom (pos + 1) done rest
    else match value? c with
      | none => .error pos
      | some high => match rest with
        | [] => .error (pos + 1)
        | d :: rest => match value? d with
          | none => .error (pos + 1)
          | some low => readFrom (pos + 2) (UInt8.ofNat (16 * high + low) :: done) rest

/-- The bytes of a text without a leading `0x`, or the position at fault. A
    character outside ASCII is found before any other fault. -/
def readDigits (cs : List Char) : Except Nat Bytes :=
  match cs.findIdx? (fun c => 128 ≤ c.toNat) with
  | some pos => .error pos
  | none => readFrom 0 [] cs

/-- The bytes of a text with or without a leading `0x`. -/
def read (s : String) : Except Nat Bytes := readDigits (unmarked s.toList)

/-- A lowercase digit stands for the number it was written for. -/
theorem value?_digit (n : Nat) (h : n < 16) : value? (digit n) = some n := by
  have hall : ∀ n < 16, value? (digit n) = some n := by decide
  exact hall n h

/-- A digit is an ASCII character and no blank. -/
theorem digit_plain (n : Nat) (h : n < 16) :
    isBlank (digit n) = false ∧ (digit n).toNat < 128 := by
  have hall : ∀ n < 16, isBlank (digit n) = false ∧ (digit n).toNat < 128 := by decide
  exact hall n h

theorem halves_lt (b : UInt8) : b.toNat / 16 < 16 ∧ b.toNat % 16 < 16 := by
  have h : b.toNat < 256 := b.toNat_lt
  omega

/-- A byte is its two halves. -/
theorem ofNat_halves (b : UInt8) : UInt8.ofNat (16 * (b.toNat / 16) + b.toNat % 16) = b := by
  rw [Nat.div_add_mod, UInt8.ofNat_toNat]

/-- The digits of bytes are read to the bytes, after those already read. -/
theorem readFrom_chars (bs : Bytes) (pos : Nat) (done : Bytes) :
    readFrom pos done (chars bs) = .ok (done.reverse ++ bs) := by
  induction bs generalizing pos done with
  | nil =>
      rw [List.append_nil]
      rfl
  | cons b bs ih =>
      obtain ⟨hhigh, hlow⟩ := halves_lt b
      have hcons : chars (b :: bs)
          = digit (b.toNat / 16) :: digit (b.toNat % 16) :: chars bs := rfl
      rw [hcons, readFrom, (digit_plain _ hhigh).1, if_neg Bool.false_ne_true]
      simp only [value?_digit _ hhigh, value?_digit _ hlow]
      rw [ofNat_halves, ih, List.reverse_cons, List.append_assoc, List.singleton_append]

theorem chars_ascii (bs : Bytes) : ∀ c ∈ chars bs, c.toNat < 128 := by
  intro c hc
  obtain ⟨b, -, hb⟩ := List.mem_flatMap.mp hc
  obtain ⟨hhigh, hlow⟩ := halves_lt b
  rw [ofByte, List.mem_cons, List.mem_singleton] at hb
  rcases hb with rfl | rfl
  · exact (digit_plain _ hhigh).2
  · exact (digit_plain _ hlow).2

/-- Bytes are read back from their text. -/
theorem read_marked (bs : Bytes) : read (marked bs) = .ok bs := by
  have hascii : (chars bs).findIdx? (fun c => 128 ≤ c.toNat) = none := by
    rw [List.findIdx?_eq_none_iff]
    intro c hc
    have hlt := chars_ascii bs c hc
    exact decide_eq_false (by omega)
  rw [read, marked, String.toList_ofList, unmarked, readDigits, hascii]
  exact readFrom_chars bs 0 []

end Hex

end Beacon
