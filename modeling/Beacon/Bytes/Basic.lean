/-!
# Byte Strings

Everything a beacon block is made of ends up as bytes: encodings, roots,
signatures, hex text. A byte string here is a plain list, so that cutting and
joining are the list operations and every law about layouts is a law about
lists.

Numbers travel little-endian. The width is given when writing, because a
number does not know how many zero bytes its field has room for; reading needs
no width, the string being its own.

## Main definitions

* `Bytes`: A byte string.
* `Bytes.ofNat`: A number in a given number of bytes, low byte first.
* `Bytes.toNat`: The number a byte string spells, low byte first.

## Theorems

* `Bytes.length_ofNat`: A number takes exactly the width it is given.
* `Bytes.toNat_ofNat`: Reading back gives the number modulo the width.
* `Bytes.toNat_lt`: A string of `n` bytes spells a number below `256 ^ n`.
-/

namespace Beacon

/-- A byte string. -/
abbrev Bytes := List UInt8

namespace Bytes

/-- The low `width` bytes of `n`, lowest first. -/
def ofNat : (width : Nat) → Nat → Bytes
  | 0, _ => []
  | width + 1, n => UInt8.ofNat n :: ofNat width (n / 256)

/-- The number spelled by a byte string, lowest byte first. -/
def toNat : Bytes → Nat
  | [] => 0
  | b :: rest => b.toNat + 256 * toNat rest

/-- A string of zero bytes. -/
def zeros (n : Nat) : Bytes := List.replicate n 0

@[simp] theorem length_ofNat (width n : Nat) : (ofNat width n).length = width := by
  induction width generalizing n with
  | zero => rfl
  | succ width ih => simp [ofNat, ih]

@[simp] theorem length_zeros (n : Nat) : (zeros n).length = n := List.length_replicate

/-- A number read back is the number written, cut to the width it was given. -/
theorem toNat_ofNat (width n : Nat) : toNat (ofNat width n) = n % Nat.pow 256 width := by
  induction width generalizing n with
  | zero => simp [ofNat, toNat, Nat.mod_one]
  | succ width ih =>
    have hpow : Nat.pow 256 (width + 1) = 256 * Nat.pow 256 width := Nat.mul_comm _ _
    simp only [ofNat, toNat, ih, UInt8.toNat_ofNat', hpow, Nat.mod_mul]

/-- A string of `n` bytes spells a number below `256 ^ n`. -/
theorem toNat_lt (bs : Bytes) : toNat bs < Nat.pow 256 bs.length := by
  induction bs with
  | nil => simp [toNat]
  | cons b rest ih =>
    have hb : b.toNat < 256 := b.toNat_lt
    have hpow : Nat.pow 256 (rest.length + 1) = Nat.pow 256 rest.length * 256 := rfl
    rw [toNat, List.length_cons, hpow]
    omega

end Bytes

end Beacon
