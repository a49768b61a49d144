import Beacon.Proofs.Outcome
import Beacon.Ssz.Reading

/-!
# Checks of Contents

When contents pass the check that a type makes of them.

A type of bytes or of bits looks at the number of them and at nothing else, and it
does not matter what the contents were given as. Being refused, being placed under a
step and being turned into the fault of an element only changes what is wrong, so that
what passes is the same with and without it.

A record passes if all the fields that it must have are there and pass, and if there
are no others.

## Theorems

* `Fault.refuse_eq_ok_iff`: What is refused is no success, and a success is not refused.
* `Fault.closed_eq_ok`, `Fault.required_eq_ok`: A record that is accepted has all
  the fields it must have, and no others.
* `Schema.checkedBytes_eq_ok_iff`, `Schema.checkedByteList_eq_ok_iff`: Bytes pass if
  there are as many as the type wants.
* `Schema.checkedBitvector_eq_ok_iff`, `Schema.checkedBitlist_eq_ok_iff`: So do bits.
* `Schema.checkedElement_eq_ok_iff`: An element passes if its own check does.
-/

namespace Beacon

open Outcome

namespace Fault

variable {α β γ δ : Type}

/-- What is refused is no success, and a success is not refused. -/
theorem refuse_eq_ok_iff {x : Except Fault α} {a : α} : refuse x = .ok a ↔ x = .ok a := by
  rcases x with fault | b
  · cases fault <;> simp only [refuse, reduceCtorEq]
  · exact Iff.rfl

theorem under_eq_ok {step : Step} {x : Except Fault α} {a : α} (h : under step x = .ok a) :
    x = .ok a := by
  unfold under at h
  split at h
  · exact absurd h (by simp only [reduceCtorEq, not_false_eq_true])
  · exact h

/-- Two parts that were checked with success were each checked with success. -/
theorem collect_eq_ok {f : α → β → γ} {x : Except Fault α} {y : Except Fault β} {c : γ}
    (h : collect f x y = .ok c) : ∃ a b, x = .ok a ∧ y = .ok b ∧ f a b = c := by
  unfold collect at h
  split at h
  · exact ⟨_, _, rfl, rfl, Except.ok.inj h⟩
  all_goals exact absurd h (by simp only [reduceCtorEq, not_false_eq_true])

/-- A field that must be there is there, and its data was accepted. -/
theorem required_eq_ok {name : String} {check : δ → Except Fault α}
    {given : List (Text × δ)} {a : α} (h : required name check given = .ok a) :
    ∃ d, given.lookup ↑name = some d ∧ check d = .ok a := by
  have hfound := under_eq_ok h
  split at hfound
  · rename_i d hd
    exact ⟨d, hd, hfound⟩
  · exact absurd hfound (by simp only [problem, reduceCtorEq, not_false_eq_true])

/-- A closed record that was accepted has none but known fields. -/
theorem closed_eq_ok {known : List String} {given : List (Text × δ)} {checked : Except Fault α}
    {a : α} (h : closed known given checked = .ok a) :
    checked = .ok a ∧ ∀ field ∈ given, ∃ name ∈ known, field.1 = ↑name := by
  unfold closed at h
  simp only [] at h
  split at h
  · split at h <;> exact absurd h (by simp only [problem, reduceCtorEq, not_false_eq_true])
  obtain ⟨_, _, hchecked, hrefused, rfl⟩ := collect_eq_ok h
  refine ⟨hchecked, fun field hfield => ?_⟩
  have hothers : others known given = [] := by
    rw [← List.isEmpty_iff]
    by_contra hne
    rw [if_neg hne] at hrefused
    exact absurd hrefused (by simp only [reduceCtorEq, not_false_eq_true])
  rw [others, List.filter_eq_nil_iff, List.forall_mem_map] at hothers
  have hknown := hothers field hfield
  rw [Bool.not_eq_true, Bool.not_eq_false', List.any_eq_true] at hknown
  obtain ⟨name, hname, heq⟩ := hknown
  exact ⟨name, hname, of_decide_eq_true heq⟩

end Fault

namespace Schema

variable {name : String} {v : Value}

theorem checkedBytes_eq_ok_iff {length : Nat} {given : Except Fault Bytes} :
    checkedBytes name length given = .ok v ↔
      ∃ bs, given = .ok bs ∧ bs.length = length ∧ .bytes bs = v := by
  unfold checkedBytes
  simp only [bind_eq_ok_iff, pure, Except.pure, ite_eq_ok_iff]

theorem checkedLengthless_ne_ok {given : Except Fault Bytes} :
    checkedLengthless name given ≠ .ok v := by
  unfold checkedLengthless
  simp only [ne_eq, bind_eq_ok_iff, reduceCtorEq, and_false, exists_false, not_false_eq_true]

theorem checkedByteList_eq_ok_iff {limit : Nat} {given : Except Fault Bytes} :
    checkedByteList name limit given = .ok v ↔
      ∃ bs, given = .ok bs ∧ bs.length ≤ limit ∧ .bytes bs = v := by
  rcases given with fault | bs
  · simp only [reduceCtorEq, false_and, exists_false, iff_false]
    unfold checkedByteList
    -- No fault of the bytes is turned into a success.
    split
    · rename_i hgiven
      exact absurd hgiven (by simp only [reduceCtorEq, not_false_eq_true])
    · simp only [reduceCtorEq, not_false_eq_true]
    · rw [Fault.refuse_eq_ok_iff]
      simp only [reduceCtorEq, not_false_eq_true]
  · simp only [checkedByteList, ite_eq_ok_iff, Except.ok.injEq, exists_eq_left']

theorem checkedBitvector_eq_ok_iff {length : Nat} {given : Except Fault (List Bool)} :
    checkedBitvector name length given = .ok v ↔
      ∃ bits, given = .ok bits ∧ bits.length = length ∧ .bits bits = v := by
  unfold checkedBitvector
  simp only [Fault.refuse_eq_ok_iff, bind_eq_ok_iff, pure, Except.pure, ite_eq_ok_iff]

theorem checkedBitlist_eq_ok_iff {limit : Nat} {given : Except Fault (List Bool)} :
    checkedBitlist name limit given = .ok v ↔
      ∃ bits, given = .ok bits ∧ bits.length ≤ limit ∧ .bits bits = v := by
  unfold checkedBitlist
  simp only [Fault.refuse_eq_ok_iff, bind_eq_ok_iff, pure, Except.pure, ite_eq_ok_iff]

theorem checkedElement_eq_ok_iff {α : Type} {kind : String} {x : Except Fault α} {a : α} :
    checkedElement name kind x = .ok a ↔ x = .ok a := by
  rcases x with fault | b
  · cases fault <;> simp only [checkedElement, reduceCtorEq]
  · exact Iff.rfl

end Schema

end Beacon
