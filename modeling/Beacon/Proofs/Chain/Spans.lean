import Beacon.Proofs.Chain.Resolution
import Beacon.Proofs.Service.Configuration

/-!
# Slots and Epochs as Spans of Time

Slots cut time into spans of one length, without gaps and without overlaps, and so do
epochs. The slot of a moment is the one whose span it lies in, before the start of the
chain as well as after it.

Both numbers are quotients rounded down, and a quotient rounded down by a positive number
is known by the two multiples that it lies between (`fdiv_eq_iff`). Everything about slots
follows from this with the length of a slot as the divisor. An epoch is the quotient of a
quotient. That is one quotient by the product of the two divisors (`epochOf_slotAt`), so an
epoch is a span in its own right, and the same fact about quotients says which.

None of it would hold with a divisor of zero, where there is no quotient. A timing has no
such divisor, because what reads a timing refuses zeros: the numbers of a timing are those
that stand in the data (`lists_of_read`, `exists_ofNode_iff`), and the two divisors are
positive.

## Main definitions

* `quotient?`: A quotient rounded down, unless the divisor is zero.
* `Timing.Covers`, `Timing.EpochCovers`: A moment lies in a slot, and in an epoch.

## Theorems

* `fdiv_eq_iff`: A quotient is known by the multiples around it.
* `Timing.covers_iff`, `Timing.epochCovers_iff`: A moment lies in one slot and one epoch.
* `Timing.epochOf_slotAt`: The epoch of a moment is one quotient.
* `Timing.lists_of_read`, `Timing.exists_ofNode_iff`: Data with a divisor of zero gives no
  timing.
* `Timing.slots_partition`: Slots and epochs partition time, and dividing never fails.
-/

namespace Beacon

open Outcome

/-- A quotient rounded down, unless the divisor is zero. -/
def quotient? (dividend divisor : Int) : Option Int :=
  if divisor = 0 then none else some (dividend.fdiv divisor)

/-- A quotient by a positive number is known by the multiples that the dividend lies
    between. -/
theorem fdiv_eq_iff {a d q : Int} (hd : 0 < d) : q = a.fdiv d ↔ q * d ≤ a ∧ a < (q + 1) * d := by
  rw [Int.fdiv_eq_ediv_of_nonneg a (by omega), eq_comm, Int.ediv_eq_iff_of_pos hd, Int.add_mul,
    Int.one_mul]

namespace Timing

variable (timing : Timing)

/-- A moment lies in a slot: it is not before the slot's start, and the next slot has not
    started. -/
def Covers (slot seconds : Int) : Prop :=
  timing.startOf slot ≤ seconds ∧ seconds < timing.startOf (slot + 1)

/-- A moment lies in an epoch: it is not before the start of the epoch's first slot, and
    the first slot of the next epoch has not started. -/
def EpochCovers (epoch seconds : Int) : Prop :=
  timing.startOf (epoch * timing.slotsPerEpoch) ≤ seconds ∧
    seconds < timing.startOf ((epoch + 1) * timing.slotsPerEpoch)

/-- A moment lies in its slot and in no other. -/
theorem covers_iff (slot seconds : Int) :
    timing.Covers slot seconds ↔ slot = timing.slotAt seconds := by
  have hpos := timing.secondsPerSlot_pos
  rw [slotAt, fdiv_eq_iff (by omega), Covers, startOf, startOf]
  omega

/-- The slots of later moments are not earlier. -/
theorem slotAt_mono {a b : Int} (hab : a ≤ b) : timing.slotAt a ≤ timing.slotAt b := by
  have hpos := timing.secondsPerSlot_pos
  -- The span of the first moment starts before the second moment too.
  have hstart := ((timing.covers_iff _ a).mpr rfl).1
  have hnext := ((timing.covers_iff _ b).mpr rfl).2
  by_contra hlt
  have hmul : (timing.slotAt b + 1) * timing.secondsPerSlot
      ≤ timing.slotAt a * timing.secondsPerSlot :=
    Int.mul_le_mul_of_nonneg_right (by omega) (by omega)
  simp only [startOf] at hstart hnext
  omega

/-- The epoch of a moment is the quotient by the length of an epoch. -/
theorem epochOf_slotAt (seconds : Int) :
    timing.epochOf (timing.slotAt seconds) = (seconds - timing.genesisTime).fdiv
      ((timing.secondsPerSlot * timing.slotsPerEpoch : Nat) : Int) := by
  have hslot : (0 : Int) ≤ timing.secondsPerSlot := Int.natCast_nonneg _
  have hepoch : (0 : Int) ≤ timing.slotsPerEpoch := Int.natCast_nonneg _
  rw [epochOf, slotAt, Int.fdiv_eq_ediv_of_nonneg _ hslot, Int.fdiv_eq_ediv_of_nonneg _ hepoch,
    Int.fdiv_eq_ediv_of_nonneg _ (Int.natCast_nonneg _), Int.ediv_ediv_of_nonneg hslot,
    Int.natCast_mul]

/-- A moment lies in its epoch and in no other. -/
theorem epochCovers_iff (epoch seconds : Int) :
    timing.EpochCovers epoch seconds ↔ epoch = timing.epochOf (timing.slotAt seconds) := by
  have hpos := Nat.mul_pos timing.secondsPerSlot_pos timing.slotsPerEpoch_pos
  have hstart (n : Int) : n * ((timing.secondsPerSlot * timing.slotsPerEpoch : Nat) : Int)
      = n * timing.slotsPerEpoch * timing.secondsPerSlot := by
    rw [Int.natCast_mul, Int.mul_comm (timing.secondsPerSlot : Int), Int.mul_assoc]
  rw [epochOf_slotAt, fdiv_eq_iff (by omega), hstart, hstart, EpochCovers, startOf, startOf]
  omega

/-! ### Zeros are refused -/

/-- The numbers of a timing that was read are those that the data list. -/
theorem lists_of_read {d : Datum} {timing : Timing} (h : read d = .ok timing) :
    d.Lists "genesis_time" timing.genesisTime ∧
      d.Lists "seconds_per_slot" timing.secondsPerSlot ∧
      d.Lists "slots_per_epoch" timing.slotsPerEpoch := by
  cases d with
  | record given =>
      rcases Fault.collect_eq_ok (Fault.closed_eq_ok h).1 with
        ⟨genesis, divisors, hgenesis, hdivisors, rfl⟩
      rcases Fault.collect_eq_ok hdivisors with ⟨perSlot, perEpoch, hperSlot, hperEpoch, rfl⟩
      rcases Fault.required_eq_ok hgenesis with ⟨a, ha, hna⟩
      rcases Fault.required_eq_ok hperSlot with ⟨b, hb, hnb⟩
      rcases Fault.required_eq_ok hperEpoch with ⟨c, hc, hnc⟩
      exact ⟨lists_of_number rfl ha hna, lists_of_number rfl hb (positive_eq_ok_iff.mp hnb),
        lists_of_number rfl hc (positive_eq_ok_iff.mp hnc)⟩
  | null | bool | int | real | text | bytes | list | tuple =>
      exact absurd h (by simp only [read, Fault.problem, reduceCtorEq, not_false_eq_true])

/-- The node's answers give a timing exactly if they list its three numbers and neither of
    the divisors is zero. -/
theorem exists_ofNode_iff {spec genesis : Datum} :
    (∃ timing, ofNode spec genesis = .ok timing) ↔
      ∃ start perSlot perEpoch, genesis.Lists "genesis_time" start ∧
        spec.Lists "SECONDS_PER_SLOT" perSlot ∧ spec.Lists "SLOTS_PER_EPOCH" perEpoch ∧
        perSlot ≠ 0 ∧ perEpoch ≠ 0 := by
  simp only [ofNode_eq_ok_iff]
  constructor
  · rintro ⟨timing, hstart, hslot, hepoch⟩
    exact ⟨_, _, _, hstart, hslot, hepoch, Nat.ne_of_gt timing.secondsPerSlot_pos,
      Nat.ne_of_gt timing.slotsPerEpoch_pos⟩
  · rintro ⟨start, perSlot, perEpoch, hstart, hslot, hepoch, hslot0, hepoch0⟩
    exact ⟨⟨start, perSlot, perEpoch, by omega, by omega⟩, hstart, hslot, hepoch⟩

/-- Slots and epochs partition time. Data that state a divisor of zero give no timing, and
    with a timing the two divisions always succeed. Every moment lies in the span of the
    slot that it is said to lie in and in no other; the start of a slot lies in the slot;
    later moments lie in no earlier slots; and the epoch of a moment's slot is the quotient
    by the length of an epoch, rounded down, and the only epoch that the moment lies in. -/
theorem slots_partition :
    (∀ d timing, read d = .ok timing → d.Lists "seconds_per_slot" timing.secondsPerSlot ∧
      d.Lists "slots_per_epoch" timing.slotsPerEpoch ∧ timing.secondsPerSlot ≠ 0 ∧
      timing.slotsPerEpoch ≠ 0) ∧
    (∀ spec genesis, (∃ timing, ofNode spec genesis = .ok timing) ↔
      ∃ start perSlot perEpoch, genesis.Lists "genesis_time" start ∧
        spec.Lists "SECONDS_PER_SLOT" perSlot ∧ spec.Lists "SLOTS_PER_EPOCH" perEpoch ∧
        perSlot ≠ 0 ∧ perEpoch ≠ 0) ∧
    ∀ timing : Timing,
      (∀ seconds, quotient? (seconds - timing.genesisTime) timing.secondsPerSlot
        = some (timing.slotAt seconds)) ∧
      (∀ slot, quotient? slot timing.slotsPerEpoch = some (timing.epochOf slot)) ∧
      (∀ seconds slot, timing.startOf slot ≤ seconds ∧ seconds < timing.startOf (slot + 1) ↔
        slot = timing.slotAt seconds) ∧
      (∀ slot, timing.slotAt (timing.startOf slot) = slot) ∧
      (∀ seconds later, seconds ≤ later → timing.slotAt seconds ≤ timing.slotAt later) ∧
      (∀ seconds, timing.epochOf (timing.slotAt seconds)
        = ⌊((seconds - timing.genesisTime : Int) : ℚ)
          / (timing.secondsPerSlot * timing.slotsPerEpoch : Nat)⌋) ∧
      ∀ seconds epoch, timing.EpochCovers epoch seconds ↔
        epoch = timing.epochOf (timing.slotAt seconds) := by
  refine ⟨?_, fun spec genesis => exists_ofNode_iff, fun timing => ?_⟩
  · intro d timing h
    rcases lists_of_read h with ⟨-, hslot, hepoch⟩
    exact ⟨hslot, hepoch, Nat.ne_of_gt timing.secondsPerSlot_pos,
      Nat.ne_of_gt timing.slotsPerEpoch_pos⟩
  have hslot := timing.secondsPerSlot_pos
  have hepoch := timing.slotsPerEpoch_pos
  refine ⟨fun seconds => if_neg (by omega), fun slot => if_neg (by omega),
    fun seconds slot => timing.covers_iff slot seconds, slotAt_startOf timing,
    fun seconds later => slotAt_mono timing,
    fun seconds => ?_, fun seconds epoch => timing.epochCovers_iff epoch seconds⟩
  rw [epochOf_slotAt, Int.fdiv_eq_ediv_of_nonneg _ (Int.natCast_nonneg _),
    Rat.floor_intCast_div_natCast]

/-- A chain that starts at second 100, with slots of 12 seconds and epochs of 32 slots. The
    second before it starts is the last one of slot -1 and of epoch -1. -/
theorem slots_partition_before_genesis :
    let d : Datum := .record [("genesis_time", .text "100"), ("seconds_per_slot", .text "12"),
      ("slots_per_epoch", .int 32)]
    let timing : Timing := ⟨100, 12, 32, by decide, by decide⟩
    read d = .ok timing ∧ d.Lists "seconds_per_slot" 12 ∧ d.Lists "slots_per_epoch" 32 ∧
      quotient? (99 - 100) 12 = some (-1) ∧ timing.slotAt 99 = -1 ∧
      timing.epochOf (timing.slotAt 99) = -1 ∧ timing.EpochCovers (-1) 99 := by
  intro d timing
  have hread : read d = .ok timing := rfl
  rcases slots_partition.1 d timing hread with ⟨hslots, hepochs, -, -⟩
  rcases slots_partition.2.2 timing with ⟨hquotient, -, hcovers, -, -, -, hepoch⟩
  have hslot : -1 = timing.slotAt 99 := (hcovers 99 (-1)).mp (by decide)
  have hminus : timing.epochOf (timing.slotAt 99) = -1 := by
    rw [← hslot]
    decide
  refine ⟨hread, hslots, hepochs, ?_, hslot.symm, hminus, (hepoch 99 (-1)).mpr hminus.symm⟩
  rw [hslot]
  exact hquotient 99

end Timing

end Beacon
