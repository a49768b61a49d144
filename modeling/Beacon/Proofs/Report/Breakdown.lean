import Beacon.Proofs.Ssz.Overflow
import Beacon.Report.Render

/-!
# When Rendering Breaks Down

Rendering a block of a fork's schema either succeeds, or fails in the one way
that is foreseen, because the fork has no binary form; or it breaks down, which
nobody on the way handles. `Renderer.Breaks` says when that is.

JSON is always written. The binary form breaks down when an offset is too wide
for its bytes, since that is the only fault that an encoding can have. A report
needs the local time at which the block's slot starts and the block's root. The
root exists for every block. The time does not: a slot may be any number of 64
bits, and most of these lie beyond every year that a date can name.

## Main definitions

* `Renderer.Breaks`: A block has no time to report, or no layout.

## Theorems

* `Block.message_eq`: What stands inside the signature of a block.
* `Report.findOut_ok`, `Report.findOut_error`: What a report needs can be found out
  if the time can be.
* `Renderer.render_json`: JSON is always written.
* `Renderer.render_text_ok`, `Renderer.render_text_error`: A report depends on the
  time of the block's slot.
* `Renderer.render_ssz_phase0`, `Renderer.render_ssz_ok`,
  `Renderer.render_ssz_error`: The binary form depends on the fork and on the
  layout.
* `Renderer.breakdown_iff`: Rendering breaks down exactly if `Breaks` says so.
-/

namespace Beacon

open Outcome

namespace Block

/-- Inside the signature of a block stands a value of the fork's block, and the
    slot of the block is the slot of that value. -/
theorem message_eq (fork : Fork) (signed : Value) (h : fork.signedBlock.Admits signed) :
    ∃ message, fork.block.Admits message ∧
      (Typed.mk fork.signedBlock signed).part ["message"] = ⟨fork.block, message⟩ ∧
      (Typed.mk fork.block message).number ["slot"]
        = (Typed.mk fork.signedBlock signed).number ["message", "slot"] := by
  rcases signed with _ | _ | _ | vs
  · exact h.elim
  · exact h.elim
  · exact h.elim
  rcases vs with _ | ⟨message, rest⟩
  · exact h.elim
  exact ⟨message, h.1, rfl, rfl⟩

end Block

namespace Report

/-- The root of a block can always be found out, so what a report needs can be
    unless the time of the block's slot cannot be. -/
theorem findOut_ok (z : Zone) (timing : Timing) (fork : Fork) (message : Value) (start : DateTime)
    (h : fork.block.Admits message)
    (hstart : timing.localStart z ((Typed.mk fork.block message).number ["slot"]) = .ok start) :
    ∃ facts, findOut z timing ⟨fork.block, message⟩ = .ok facts := by
  have hroot : fork.block.root message = .ok (fork.block.reference message) :=
    Schema.root_eq fork.block message (Schema.block_wellFormed fork) (Schema.block_roomy fork) h
  rw [findOut]
  simp only [hstart, hroot]
  exact ⟨_, rfl⟩

theorem findOut_error (z : Zone) (timing : Timing) (t : Typed) (fault : ClockFault)
    (hstart : timing.localStart z (t.number ["slot"]) = .error fault) :
    findOut z timing t = .error (.clock fault) := by
  rw [findOut]
  simp only [hstart]

end Report

namespace Renderer

/-- A block cannot be rendered, and nobody foresees it: a report is asked for and
    the slot starts at no time that a clock shows, or the binary form is asked for
    and an offset is too wide. -/
def Breaks (r : Renderer) (mode : Mode) (b : Block) : Prop :=
  match mode with
  | .json => False
  | .ssz => b.fork ≠ .phase0 ∧ b.fork.signedBlock.encode b.signed = .error .tooWide
  | .text => ∃ fault, r.timing.localStart r.zone b.slot = .error fault

theorem offers_json (fork : Fork) : offers fork .json = true := by
  cases fork <;> rfl

theorem offers_text (fork : Fork) : offers fork .text = true := by
  cases fork <;> rfl

theorem offers_ssz (fork : Fork) : offers fork .ssz = true ↔ fork ≠ .phase0 := by
  cases fork <;> decide

/-- A report has the facts that can be found out about a block. -/
theorem render_text_eq (r : Renderer) (b : Block) (t : Typed) (h : b.typed.part ["message"] = t) :
    r.render b .text = ((Report.findOut r.zone r.timing t).map fun facts =>
      Report.ofItems (Report.items facts b.fork b.signed b.sidecars r.verbose)).mapError
        .breakdown := by
  rw [render, offers_text, if_neg (by decide)]
  simp only [Report.text, ← h]
  rfl

/-- There is a report on a block if there is a time to report. -/
theorem render_text_ok (r : Renderer) (b : Block) (start : DateTime)
    (h : b.fork.signedBlock.Admits b.signed)
    (hstart : r.timing.localStart r.zone b.slot = .ok start) :
    ∃ text, r.render b .text = .ok text := by
  obtain ⟨message, hmessage, hpart, hslot⟩ := Block.message_eq b.fork b.signed h
  rw [Block.slot, Block.typed, ← hslot] at hstart
  obtain ⟨facts, hfacts⟩ := Report.findOut_ok _ _ _ message start hmessage hstart
  rw [render_text_eq r b _ hpart, hfacts]
  exact ⟨_, rfl⟩

/-- A report on a block breaks down if there is no time to report. -/
theorem render_text_error (r : Renderer) (b : Block) (fault : ClockFault)
    (h : b.fork.signedBlock.Admits b.signed)
    (hstart : r.timing.localStart r.zone b.slot = .error fault) :
    r.render b .text = .error (.breakdown (.clock fault)) := by
  obtain ⟨message, hmessage, hpart, hslot⟩ := Block.message_eq b.fork b.signed h
  rw [Block.slot, Block.typed, ← hslot] at hstart
  rw [render_text_eq r b _ hpart, Report.findOut_error _ _ _ fault hstart]
  rfl

theorem render_json (r : Renderer) (b : Block) :
    r.render b .json = .ok (b.fork.signedBlock.json b.signed ++ "\n") := by
  rw [render, offers_json, if_neg (by decide)]

/-- A Phase0 block has no binary form, which is a failure. -/
theorem render_ssz_phase0 (r : Renderer) (b : Block) (h : b.fork = .phase0) :
    r.render b .ssz = .error (.failure (.unsupported b.fork.name "ssz")) := by
  rw [render, h]
  rfl

/-- A later block has a binary form if it can be laid out. -/
theorem render_ssz_ok (r : Renderer) (b : Block) (bs : Bytes) (h : b.fork ≠ .phase0)
    (hencode : b.fork.signedBlock.encode b.signed = .ok bs) :
    r.render b .ssz = .ok (Hex.text bs ++ "\n") := by
  rw [render, (offers_ssz b.fork).mpr h, if_neg (by decide), hencode]

/-- A later block that has too wide an offset breaks down. -/
theorem render_ssz_error (r : Renderer) (b : Block) (h : b.fork ≠ .phase0)
    (hencode : b.fork.signedBlock.encode b.signed = .error .tooWide) :
    r.render b .ssz = .error (.breakdown (.fault .tooWide)) := by
  rw [render, (offers_ssz b.fork).mpr h, if_neg (by decide), hencode]
  rfl

/-- Rendering a block of its fork's schema breaks down exactly if the block has no
    time to report or no layout. -/
theorem breakdown_iff (r : Renderer) (mode : Mode) (b : Block)
    (h : b.fork.signedBlock.Admits b.signed) :
    (∃ breakdown, r.render b mode = .error (.breakdown breakdown)) ↔ r.Breaks mode b := by
  cases mode with
  | json =>
      rw [render_json, Breaks]
      simp only [reduceCtorEq, exists_false]
  | text =>
      rw [Breaks]
      cases hstart : r.timing.localStart r.zone b.slot with
      | error fault =>
          rw [render_text_error r b fault h hstart]
          exact ⟨fun _ => ⟨fault, rfl⟩, fun _ => ⟨.clock fault, rfl⟩⟩
      | ok start =>
          obtain ⟨text, htext⟩ := render_text_ok r b start h hstart
          rw [htext]
          simp only [reduceCtorEq, exists_false]
  | ssz =>
      rw [Breaks]
      by_cases hfork : b.fork = .phase0
      · rw [render_ssz_phase0 r b hfork]
        simp only [Except.error.injEq, reduceCtorEq, exists_false, hfork, ne_eq, not_true_eq_false,
          false_and]
      · cases hencode : b.fork.signedBlock.encode b.signed with
        | error fault =>
            -- An encoding has no other fault.
            obtain rfl := Schema.failsIn_encode b.fork.signedBlock b.signed
              (Schema.signedBlock_wellFormed b.fork) h fault hencode
            rw [render_ssz_error r b hfork hencode]
            exact ⟨fun _ => ⟨hfork, rfl⟩, fun _ => ⟨.fault .tooWide, rfl⟩⟩
        | ok bs =>
            rw [render_ssz_ok r b bs hfork hencode]
            simp only [reduceCtorEq, exists_false, and_false]

end Renderer

end Beacon
