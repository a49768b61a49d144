import Beacon.Proofs.Report.Breakdown

/-!
# The Heading of a Report

Every report starts with the slot of its block, the epoch of the slot and the local
time at which the slot starts, a line each.

The slot is a number of the block, and the other two are found out from it. They are
the same in every mode of detail and for every fork, because what is special to a
fork comes at the end, and there is always a fourth item.

## Theorems

* `Report.findOut_eq_ok`: What is found out about a block.
* `Report.items_eq`: The first items of a report.
* `Report.text_eq`: The first lines of a report.
-/

namespace Beacon

namespace Report

/-- What is found out about a block is its epoch and its time. -/
theorem findOut_eq_ok {z : Zone} {timing : Timing} {message : Typed} {facts : Facts}
    (h : findOut z timing message = .ok facts) :
    timing.localStart z (message.number ["slot"]) = .ok facts.start ∧
      facts.epoch = timing.epochOf (message.number ["slot"]) := by
  rw [findOut] at h
  cases hstart : timing.localStart z (message.number ["slot"]) with
  | error fault =>
      simp only [hstart, reduceCtorEq] at h
  | ok start =>
      simp only [hstart] at h
      cases hroot : message.type.root message.value with
      | error fault =>
          simp only [hroot, reduceCtorEq] at h
      | ok root =>
          simp only [hroot, Except.ok.injEq] at h
          rw [← h]
          exact ⟨rfl, rfl⟩

/-- The first three items are the slot of the block, its epoch and its time. -/
theorem items_eq (facts : Facts) (fork : Fork) (signed : Value) (sidecars : List Value)
    (verbose : Bool) :
    ∃ item rest, items facts fork signed sidecars verbose =
      count "Slot" (((Typed.mk fork.signedBlock signed).part ["message"]).number ["slot"])
        :: ("Epoch: " ++ Decimal.signed facts.epoch) :: ("Timestamp: " ++ facts.start.text)
        :: item :: rest := by
  simp only [items, phase0Items, List.cons_append]
  exact ⟨_, _, rfl⟩

/-- A report starts with the slot of the block, its epoch and its time. -/
theorem text_eq {r : Renderer} {b : Block} {report : String}
    (h : b.fork.signedBlock.Admits b.signed) (hrender : r.render b .text = .ok report) :
    ∃ start after, r.timing.localStart r.zone b.slot = .ok start ∧
      report = "Slot: " ++ Decimal.text b.slot
        ++ "\nEpoch: " ++ Decimal.signed (r.timing.epochOf b.slot)
        ++ "\nTimestamp: " ++ start.text ++ "\n" ++ after := by
  obtain ⟨message, -, hpart, hslot⟩ := Block.message_eq b.fork b.signed h
  rw [Renderer.render_text_eq r b _ hpart] at hrender
  cases hfacts : findOut r.zone r.timing ⟨b.fork.block, message⟩ with
  | error breakdown =>
      rw [hfacts] at hrender
      exact absurd hrender (by simp only [Except.map, Except.mapError, reduceCtorEq,
        not_false_eq_true])
  | ok facts =>
      rw [hfacts] at hrender
      obtain ⟨hstart, hepoch⟩ := findOut_eq_ok hfacts
      rw [hslot] at hstart hepoch
      obtain ⟨item, rest, hitems⟩ := items_eq facts b.fork b.signed b.sidecars r.verbose
      rw [hpart, hslot, hepoch] at hitems
      have hreport : ofItems (items facts b.fork b.signed b.sidecars r.verbose) = report :=
        Except.ok.inj hrender
      refine ⟨facts.start, String.intercalate "\n" (item :: rest) ++ "\n", hstart, ?_⟩
      -- Each of the first three items is followed by a break, because there is a fourth one.
      rw [← hreport, ofItems, hitems, String.intercalate_cons_cons, String.intercalate_cons_cons,
        String.intercalate_cons_cons, count, ← String.toList_inj]
      simp only [String.toList_append, List.append_assoc]
      rfl

end Report

end Beacon
