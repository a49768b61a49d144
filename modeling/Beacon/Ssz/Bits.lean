import Beacon.Ssz.Fault

/-!
# Bits in Bytes

Bits pack low bit first: bit `i` is bit `i % 8` of byte `i / 8`. Packing takes
the number of bytes to fill. Bits that are missing at the end are zero, and a
bit that is set beyond the last byte cannot be packed.

## Main definitions

* `Bits.ofByte`, `Bits.toByte`: The eight bits of a byte, and back.
* `Bits.pack`: Bits in a given number of bytes.
* `Bits.unpack`: The first bits of a byte string.
-/

namespace Beacon

namespace Bits

/-- The number that bits spell, lowest first. -/
def value : List Bool → Nat
  | [] => 0
  | b :: rest => (if b then 1 else 0) + 2 * value rest

/-- The byte of up to eight bits, lowest first. -/
def toByte (bits : List Bool) : UInt8 := UInt8.ofNat (value bits)

/-- The bits of a number, lowest first. -/
def spread : (count : Nat) → Nat → List Bool
  | 0, _ => []
  | count + 1, n => (n % 2 = 1) :: spread count (n / 2)

/-- The eight bits of a byte, lowest first. -/
def ofByte (b : UInt8) : List Bool := spread 8 b.toNat

/-- The first `8 * count` bits in `count` bytes. -/
def fill : (count : Nat) → List Bool → Bytes
  | 0, _ => []
  | count + 1, bits => toByte (bits.take 8) :: fill count (bits.drop 8)

/-- Bits in a given number of bytes. -/
def pack (count : Nat) (bits : List Bool) : Except Fault Bytes :=
  if (bits.drop (8 * count)).any id then .error .bitBeyond else .ok (fill count bits)

/-- All bits of a byte string. -/
def ofBytes (data : Bytes) : List Bool := data.flatMap ofByte

/-- The first `count` bits of a byte string. -/
def unpack (data : Bytes) (count : Nat) : Except Fault (List Bool) :=
  if count ≤ 8 * data.length then .ok ((ofBytes data).take count) else .error .byteBeyond

/-- The position of the highest bit set in a byte that is not zero. -/
def highest (b : UInt8) : Nat := b.toNat.log2

end Bits

end Beacon
