import Beacon.Ssz.Bits
import Mathlib.Algebra.Ring.Nat

/-!
# Packing Bits and Taking Them Out Again

Bits are packed eight to a byte and the last byte is filled up with zeros.
Unpacking everything therefore gives the bits back with some zeros behind them
(`ofBytes_fill`), and nothing can be lost as long as there are bytes enough.
What tells the bits from the zeros behind them is a count, and where no type
fixes the count it is marked by one more bit, the delimiter.

The delimiter is found as the highest bit of the last byte. That byte holds the
bits that are left over after whole bytes, and the delimiter right above them,
so it is never zero and its highest bit stands at the number of left-over bits
(`highest_delimited`). This holds with no bits left over too: the delimiter
then has the last byte for itself.

## Theorems

* `value_lt`: Bits spell a number below the power of two of their count.
* `spread_value`: The bits of a spelled number, zeros following them.
* `ofBytes_fill`: Everything unpacked is the bits and zeros behind them.
* `unpack_fill`: Unpacking a count of bits that were packed.
* `getLast?_fill`: The last byte holds what is left over after whole bytes.
* `highest_delimited`: The delimiter stands right above the left-over bits.
-/

namespace Beacon

namespace Bits

theorem value_lt (bits : List Bool) : value bits < 2 ^ bits.length := by
  induction bits with
  | nil => exact Nat.one_pos
  | cons b rest ih =>
      rw [value, List.length_cons, Nat.pow_succ]
      cases b with
      | true => rw [if_pos rfl]; omega
      | false => rw [if_neg Bool.false_ne_true]; omega

theorem value_append (bits more : List Bool) :
    value (bits ++ more) = value bits + 2 ^ bits.length * value more := by
  induction bits with
  | nil => simp only [List.nil_append, value, List.length_nil, Nat.pow_zero, Nat.one_mul,
      Nat.zero_add]
  | cons b rest ih =>
      have hpow : 2 ^ (b :: rest).length = 2 * 2 ^ rest.length := by
        rw [List.length_cons, Nat.pow_succ, Nat.mul_comm]
      rw [List.cons_append, value, value, ih, hpow, Nat.mul_assoc]
      omega

theorem spread_zero (count : Nat) : spread count 0 = List.replicate count false := by
  induction count with
  | zero => rfl
  | succ count ih =>
      have hbit : decide (0 % 2 = 1) = false := rfl
      rw [spread, Nat.zero_div, ih, List.replicate_succ, hbit]

/-- The bits of the number that bits spell, zeros following them up to the
    count asked for. -/
theorem spread_value (count : Nat) (bits : List Bool) (h : bits.length ≤ count) :
    spread count (value bits) = bits ++ List.replicate (count - bits.length) false := by
  induction count generalizing bits with
  | zero =>
      rw [List.eq_nil_of_length_eq_zero (Nat.le_zero.mp h)]
      rfl
  | succ count ih =>
      cases bits with
      | nil => exact spread_zero (count + 1)
      | cons b rest =>
          have hhalf : value (b :: rest) / 2 = value rest := by
            rw [value]
            cases b with
            | true => rw [if_pos rfl]; omega
            | false => rw [if_neg Bool.false_ne_true]; omega
          have hlow : decide (value (b :: rest) % 2 = 1) = b := by
            rw [value]
            cases b with
            | true => rw [if_pos rfl]; exact decide_eq_true (by omega)
            | false => rw [if_neg Bool.false_ne_true]; exact decide_eq_false (by omega)
          have hrest : rest.length ≤ count := Nat.le_of_succ_le_succ h
          rw [spread, hlow, hhalf, ih rest hrest, List.length_cons, Nat.add_sub_add_right,
            List.cons_append]

theorem toNat_toByte (bits : List Bool) (h : bits.length ≤ 8) :
    (toByte bits).toNat = value bits := by
  have hlt : value bits < 2 ^ 8 :=
    Nat.lt_of_lt_of_le (value_lt bits) (Nat.pow_le_pow_right (by omega) h)
  rw [toByte, UInt8.toNat_ofNat', Nat.mod_eq_of_lt hlt]

theorem ofByte_toByte (bits : List Bool) (h : bits.length ≤ 8) :
    ofByte (toByte bits) = bits ++ List.replicate (8 - bits.length) false := by
  rw [ofByte, toNat_toByte bits h, spread_value 8 bits h]

@[simp] theorem length_fill (count : Nat) (bits : List Bool) :
    (fill count bits).length = count := by
  induction count generalizing bits with
  | zero => rfl
  | succ count ih => rw [fill, List.length_cons, ih]

@[simp] theorem length_ofBytes (data : Bytes) : (ofBytes data).length = 8 * data.length := by
  induction data with
  | nil => rfl
  | cons b rest ih =>
      have hbyte : (ofByte b).length = 8 := rfl
      rw [ofBytes, List.flatMap_cons, List.length_append, hbyte, List.length_cons, ← ofBytes, ih]
      omega

/-- Everything unpacked from packed bits is these bits and zeros behind them. -/
theorem ofBytes_fill (count : Nat) (bits : List Bool) (h : bits.length ≤ 8 * count) :
    ofBytes (fill count bits) = bits ++ List.replicate (8 * count - bits.length) false := by
  induction count generalizing bits with
  | zero =>
      rw [List.eq_nil_of_length_eq_zero (Nat.le_zero.mp h)]
      rfl
  | succ count ih =>
      have hrest : (bits.drop 8).length ≤ 8 * count := by
        rw [List.length_drop]
        omega
      have hbyte : (bits.take 8).length ≤ 8 := List.length_take_le 8 bits
      rw [fill, ofBytes, List.flatMap_cons, ← ofBytes, ih _ hrest, ofByte_toByte _ hbyte]
      -- Either the first byte is full, or the bits end in it and zeros follow.
      by_cases hfull : 8 ≤ bits.length
      · have hlen : (bits.take 8).length = 8 := by rw [List.length_take]; omega
        rw [hlen, Nat.sub_self, List.replicate_zero, List.append_nil, ← List.append_assoc,
          List.take_append_drop, List.length_drop]
        congr 2
        omega
      · rw [List.take_of_length_le (by omega), List.drop_of_length_le (by omega), List.nil_append,
          List.length_nil, List.append_assoc, List.replicate_append_replicate]
        congr 2
        omega

/-- Unpacking gives the bits that were packed, as many as are asked for. -/
theorem unpack_fill (count taken : Nat) (bits : List Bool) (htaken : taken ≤ bits.length)
    (h : bits.length ≤ 8 * count) :
    unpack (fill count bits) taken = .ok (bits.take taken) := by
  rw [unpack, length_fill, if_pos (Nat.le_trans htaken h), ofBytes_fill count bits h,
    List.take_append_of_le_length htaken]

/-- The last byte holds the bits left over after the whole bytes before it. -/
theorem getLast?_fill (count : Nat) (bits : List Bool) :
    (fill (count + 1) bits).getLast? = some (toByte ((bits.drop (8 * count)).take 8)) := by
  induction count generalizing bits with
  | zero => rfl
  | succ count ih =>
      have hdrop : 8 + 8 * count = 8 * (count + 1) := by omega
      rw [fill, List.getLast?_cons, ih, List.drop_drop, hdrop, Option.getD_some]

/-- The delimiter stands right above the left-over bits, so it is the highest
    bit of a byte that is not zero. -/
theorem highest_delimited (bits : List Bool) (h : bits.length < 8) :
    toByte (bits ++ [true]) ≠ 0 ∧ highest (toByte (bits ++ [true])) = bits.length := by
  have hlen : (bits ++ [true]).length ≤ 8 := by
    rw [List.length_append, List.length_singleton]
    omega
  have hone : value [true] = 1 := rfl
  have hvalue : (toByte (bits ++ [true])).toNat = value bits + 2 ^ bits.length := by
    rw [toNat_toByte _ hlen, value_append, hone, Nat.mul_one]
  have hpos : 0 < 2 ^ bits.length := Nat.two_pow_pos _
  have hlt : value bits < 2 ^ bits.length := value_lt bits
  constructor
  · intro hzero
    rw [hzero] at hvalue
    have : (0 : UInt8).toNat = 0 := rfl
    omega
  · rw [highest, hvalue]
    refine (Nat.log2_eq_iff (by omega)).mpr ⟨by omega, ?_⟩
    rw [Nat.pow_succ]
    omega

end Bits

end Beacon
