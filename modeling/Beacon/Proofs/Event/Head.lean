import Beacon.Event.Head
import Beacon.Proofs.Ssz.NodeForm

/-!
# Reading Head Events

What becomes of the data of a head event, good or bad.

Data that a node writes for a head event is read to what it says: the slot from a
numeral, the two roots from hex text, and from a truth value whether an epoch
began.

Whatever else the data is, the check ends with a list of problems. Every check of
a field turns its own cause into a problem before it is collected, so nothing
that ends a check on the spot comes out of one. That is why bad data on a stream
is always a failure that the tool foresees.

## Main definitions

* `Fault.IsInvalid`: A fault that is a list of problems.
* `HeadEvent.datum`: A head event in the form of the node API.

## Theorems

* `HeadEvent.failsIn_read`: Data that is no head event has problems.
* `HeadEvent.read_datum`: A head event in the form of the node API is read.
-/

namespace Beacon

open Outcome

namespace Fault

/-- A record was checked, and the fault says what is wrong with it. -/
def IsInvalid (fault : Fault) : Prop := ∃ details, fault = .invalid details

/-- A fault that is one cause, or the problems of a record. -/
def IsCollected (fault : Fault) : Prop := (∃ c, fault = .cause c) ∨ fault.IsInvalid

theorem isInvalid_problem (p : Problem) : IsInvalid (problem p) := ⟨_, rfl⟩

/-- A cause that is refused is a problem. -/
theorem failsIn_refuse {α : Type} {x : Except Fault α} (h : FailsIn IsCollected x) :
    FailsIn IsInvalid (refuse x) := by
  rcases x with fault | a
  · rcases h fault rfl with ⟨c, rfl⟩ | ⟨details, rfl⟩
    · exact failsIn_error (isInvalid_problem _)
    · exact failsIn_error ⟨details, rfl⟩
  · exact failsIn_ok a

theorem failsIn_under {α : Type} {step : Step} {x : Except Fault α} (h : FailsIn IsInvalid x) :
    FailsIn IsInvalid (under step x) := by
  rcases x with fault | a
  · obtain ⟨details, rfl⟩ := h fault rfl
    exact failsIn_error ⟨_, rfl⟩
  · exact failsIn_ok a

theorem failsIn_collect {α β γ : Type} {f : α → β → γ} {x : Except Fault α} {y : Except Fault β}
    (hx : FailsIn IsInvalid x) (hy : FailsIn IsInvalid y) :
    FailsIn IsInvalid (collect f x y) := by
  rcases x with fault | a
  · obtain ⟨details, rfl⟩ := hx fault rfl
    rcases y with fault | b
    · obtain ⟨more, rfl⟩ := hy fault rfl
      exact failsIn_error ⟨_, rfl⟩
    · exact failsIn_error ⟨_, rfl⟩
  · rcases y with fault | b
    · exact failsIn_error (hy fault rfl)
    · exact failsIn_ok (f a b)

theorem failsIn_required {α : Type} {name : String} {check : Datum → Except Fault α}
    {given : List (Text × Datum)} (h : ∀ d, FailsIn IsInvalid (check d)) :
    FailsIn IsInvalid (required name check given) := by
  unfold required
  refine failsIn_under ?_
  split
  · exact h _
  · exact failsIn_error (isInvalid_problem .missing)

end Fault

open Fault

theorem Number.failsIn_ofInt (type : String) (bits : Nat) (n : Int) :
    FailsIn IsCollected (Number.ofInt type bits n) := by
  unfold Number.ofInt
  split
  · split
    · exact failsIn_ok _
    · exact failsIn_error (.inl ⟨_, rfl⟩)
  · exact failsIn_error (.inl ⟨_, rfl⟩)

theorem Number.failsIn_read (type : String) (bits : Nat) (d : Datum) :
    FailsIn IsInvalid (Number.read type bits d) := by
  unfold Number.read
  refine failsIn_refuse ?_
  split
  · unfold Number.ofNumeral
    simp only []
    split
    · exact failsIn_error (.inl ⟨_, rfl⟩)
    · split
      · exact failsIn_error (.inl ⟨_, rfl⟩)
      · exact Number.failsIn_ofInt type bits _
  -- What is no text is left to the constructor.
  · unfold Number.make
    split
    · exact Number.failsIn_ofInt type bits _
    all_goals exact failsIn_error (.inl ⟨_, rfl⟩)

theorem Bytes.failsIn_ofDatum (d : Datum) : FailsIn IsCollected (Bytes.ofDatum d) := by
  unfold Bytes.ofDatum
  split
  · split
    · exact failsIn_ok _
    · exact failsIn_error (.inl ⟨_, rfl⟩)
  · exact failsIn_ok _
  · exact failsIn_error (.inl ⟨_, rfl⟩)

namespace HeadEvent

/-- A root is bytes or has problems. -/
theorem failsIn_root (d : Datum) : FailsIn IsInvalid (root d) := by
  have hread : Schema.bytes32.read d = refuse (Schema.readBytes "Bytes32" 32 d) := by
    rw [Schema.bytes32, Schema.read]
  unfold root
  rw [hread, Schema.readBytes, Schema.checkedBytes]
  rcases hbytes : Bytes.ofDatum d with fault | bs
  · rcases Bytes.failsIn_ofDatum d fault hbytes with ⟨c, rfl⟩ | ⟨details, rfl⟩
    · exact failsIn_error (isInvalid_problem _)
    · exact failsIn_error ⟨details, rfl⟩
  -- What the type accepts are bytes, so the check after it never sees anything else.
  · rw [ok_bind]
    by_cases hlength : bs.length = 32
    · rw [if_pos hlength]
      exact failsIn_ok bs
    · rw [if_neg hlength]
      exact failsIn_error (isInvalid_problem _)

theorem failsIn_truthOfWord (cs : List Char) : FailsIn IsInvalid (truthOfWord cs) := by
  unfold truthOfWord
  simp only []
  split
  · exact failsIn_ok _
  · split
    · exact failsIn_ok _
    · exact failsIn_error (isInvalid_problem _)

theorem failsIn_truth (d : Datum) : FailsIn IsInvalid (truth d) := by
  unfold truth
  -- A truth value, two sorts of numbers that may stand for one, and two sorts of
  -- words; data of every other kind is refused.
  split
  · exact failsIn_ok _
  · split
    · exact failsIn_ok _
    · split
      · exact failsIn_ok _
      · exact failsIn_error (isInvalid_problem _)
  · split
    · exact failsIn_ok _
    · split
      · exact failsIn_ok _
      · exact failsIn_error (isInvalid_problem _)
  · split
    · exact failsIn_error (isInvalid_problem _)
    · exact failsIn_truthOfWord _
  · exact failsIn_truthOfWord _
  · exact failsIn_error (isInvalid_problem _)

theorem failsIn_optional {α : Type} {name : String} {absent : α} {check : Datum → Except Fault α}
    {given : List (Text × Datum)} (h : ∀ d, FailsIn IsInvalid (check d)) :
    FailsIn IsInvalid (optional name absent check given) := by
  unfold optional
  split
  · exact failsIn_under (h _)
  · exact failsIn_ok absent

/-- Data that is no head event has problems, and nothing else is wrong with it. -/
theorem failsIn_read (d : Datum) : FailsIn IsInvalid (read d) := by
  unfold read
  split
  · refine failsIn_collect (failsIn_collect ?_ ?_) (failsIn_collect ?_ ?_)
    · exact failsIn_required (Number.failsIn_read "Uint64" 64)
    · exact failsIn_required failsIn_root
    · exact failsIn_required failsIn_root
    · exact failsIn_optional failsIn_truth
  · exact failsIn_error (isInvalid_problem _)

/-- A root in the form of the node API is read to its bytes. -/
theorem root_marked (bs : Bytes) (h : bs.length = 32) : root (.text (Hex.marked bs)) = .ok bs := by
  have hread : Schema.bytes32.read (.text (Hex.marked bs)) = .ok (.bytes bs) :=
    Schema.read_present Schema.bytes32 (.bytes bs) (by decide) h
  rw [root, hread]

/-- A head event in the form of the node API. -/
def datum (h : HeadEvent) : Datum :=
  .record [("slot", .text (Decimal.text h.slot)), ("block", .text (Hex.marked h.block)),
    ("state", .text (Hex.marked h.state)), ("epoch_transition", .bool h.epochTransition)]

/-- A head event in the form of the node API is read to what it says. -/
theorem read_datum (h : HeadEvent) (hslot : h.slot < Nat.pow 2 64) (hblock : h.block.length = 32)
    (hstate : h.state.length = 32) : read h.datum = .ok h := by
  have hnumber := Schema.read_numeral "Uint64" 64 h.slot (by decide) hslot
  rw [datum, read]
  change collect _ (collect _ (under _ (Number.read "Uint64" 64 _)) (under _ (root _)))
    (collect _ (under _ (root _)) (.ok h.epochTransition)) = _
  rw [hnumber, root_marked h.block hblock, root_marked h.state hstate]
  rfl

end HeadEvent

end Beacon
