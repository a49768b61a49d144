import Beacon.Proofs.Outcome
import Beacon.Proofs.Service.Changing
import Beacon.Report.Render

/-!
# Ordinary Troubles

A command that ends in a trouble answers to it with its status, and two kinds of
trouble are told from all others for that: the interruption of the program, which
counts as a good end, and the failure that there is no block, which has a status of
its own. Every other trouble is ordinary.

The troubles that arise while data is looked at are ordinary, wherever it is: when a
timing is made of a node's answers, when a time names a slot, and when a block is
rendered. To fetch something is different. That fails in the words of the node's own
replies, and rewording such a failure keeps it what it is.

## Main definitions

* `Trouble.isInterruption`, `Trouble.isAbsence`: The two kinds.
* `Trouble.Ordinary`: A trouble is of neither kind.
* `Interrupted`: A computation ends in an interruption.

## Theorems

* `Trouble.reworded_isInterruption`, `Trouble.reworded_isAbsence`: Rewording a
  failure to fetch makes no difference.
* `TimingFault.trouble_ordinary`, `TimeFault.trouble_ordinary`,
  `Renderer.failsIn_render`: The troubles with a timing, with a time and with
  rendering a block are ordinary.
-/

namespace Beacon

open Outcome

/-- Whether a trouble is an interruption of the program. -/
def Trouble.isInterruption : Trouble → Bool
  | .failure _ => false
  | .breakdown b => b.kind = .interrupt

/-- Whether a trouble is the failure that there is no block. -/
def Trouble.isAbsence : Trouble → Bool
  | .failure f => f.kind.isA .empty
  | .breakdown _ => false

/-- A trouble is neither an interruption nor the failure that there is no block. -/
structure Trouble.Ordinary (t : Trouble) : Prop where
  uninterrupted : t.isInterruption = false
  unabsent : t.isAbsence = false

/-- A computation ends in an interruption of the program. -/
def Interrupted {α : Type} (result : Except Trouble α) : Prop :=
  ∃ t, result = .error t ∧ t.isInterruption = true

variable {α β : Type}

theorem interrupted_error (t : Trouble) :
    Interrupted (.error t : Except Trouble α) ↔ t.isInterruption = true := by
  constructor
  · rintro ⟨t', ht, hinterruption⟩
    rw [Except.error.inj ht]
    exact hinterruption
  · intro h
    exact ⟨t, rfl, h⟩

theorem not_interrupted_ok (a : α) : ¬Interrupted (.ok a) := by
  rintro ⟨t, ht, -⟩
  exact absurd ht (by simp only [reduceCtorEq, not_false_eq_true])

theorem not_interrupted_of_failsIn {result : Except Trouble α}
    (h : FailsIn Trouble.Ordinary result) : ¬Interrupted result := by
  rintro ⟨t, ht, hinterruption⟩
  exact absurd ((h t ht).uninterrupted.symm.trans hinterruption) Bool.false_ne_true

theorem Fault.kind_ne_interrupt (fault : Fault) : fault.kind ≠ .interrupt := by
  cases fault with
  | cause c =>
      cases c with
      | decode type fault =>
          cases fault <;> simp only [Fault.kind, Cause.kind, ne_eq, reduceCtorEq, not_false_eq_true]
      | _ => simp only [Fault.kind, Cause.kind, ne_eq, reduceCtorEq, not_false_eq_true]
  | _ => simp only [Fault.kind, ne_eq, reduceCtorEq, not_false_eq_true]

theorem UrlFault.kind_ne_interrupt (fault : UrlFault) : fault.kind ≠ .interrupt := by
  cases fault with
  | label fault =>
      cases fault <;>
        simp only [UrlFault.kind, LabelFault.kind, ne_eq, reduceCtorEq, not_false_eq_true]
  | _ => simp only [UrlFault.kind, ne_eq, reduceCtorEq, not_false_eq_true]

theorem RootFault.kind_ne_interrupt (fault : RootFault) : fault.kind ≠ .interrupt := by
  cases fault with
  | encoding fault => exact fault.kind_ne_interrupt
  | _ => simp only [RootFault.kind, ne_eq, reduceCtorEq, not_false_eq_true]

theorem Breakdown.clock_kind_ne_interrupt (fault : ClockFault) :
    (Breakdown.clock fault).kind ≠ .interrupt := by
  cases fault <;> simp only [Breakdown.kind, ne_eq, reduceCtorEq, not_false_eq_true]

theorem Trouble.ordinary_breakdown {b : Breakdown} (h : b.kind ≠ .interrupt) :
    Trouble.Ordinary (.breakdown b) := ⟨decide_eq_false h, rfl⟩

theorem Trouble.ordinary_failure {f : Failure} (h : f.kind.isA .empty = false) :
    Trouble.Ordinary (.failure f) := ⟨rfl, h⟩

namespace Trouble

variable {wrap : FetchFault → Failure}

theorem reworded_isInterruption (wrap : FetchFault → Failure) (t : Trouble) :
    (t.reworded wrap).isInterruption = t.isInterruption := by
  cases t <;> rfl

theorem reworded_isAbsence (h : ∀ fault, (wrap fault).kind.isA .empty = false) (t : Trouble) :
    (t.reworded wrap).isAbsence = t.isAbsence := by
  rcases t with f | b
  · cases f with
    | fetch fault => exact h fault
    | _ => rfl
  · rfl

end Trouble

theorem TimingFault.trouble_ordinary (fault : TimingFault) : fault.trouble.Ordinary := by
  cases fault with
  | lacks key => exact Trouble.ordinary_failure rfl
  | invalid details => exact Trouble.ordinary_failure rfl
  | unnamed given =>
      exact Trouble.ordinary_breakdown
        (by simp only [Breakdown.kind, ne_eq, reduceCtorEq, not_false_eq_true])

theorem TimeFault.trouble_ordinary (fault : TimeFault) : fault.trouble.Ordinary := by
  cases fault with
  | unreadable form expression => exact Trouble.ordinary_failure rfl
  | tooManyDigits count =>
      exact Trouble.ordinary_breakdown
        (by simp only [Breakdown.kind, ne_eq, reduceCtorEq, not_false_eq_true])

theorem Service.failsIn_resolved (zone : Zone) (timing : Timing) (target : Target) :
    FailsIn Trouble.Ordinary (Service.resolved zone timing target) := by
  unfold Service.resolved
  cases target with
  | identifier blockId => exact failsIn_ok blockId
  | moment expression =>
      simp only []
      split
      · exact failsIn_ok _
      · exact failsIn_error (TimeFault.trouble_ordinary _)

/-- A fault that is put in another way meets a condition if its own condition says
    so. -/
theorem failsIn_mapError {ε ε' : Type} {cond : ε → Prop} {cond' : ε' → Prop} {x : Except ε α}
    {f : ε → ε'} (hx : FailsIn cond x) (hf : ∀ e, cond e → cond' (f e)) :
    FailsIn cond' (x.mapError f) := by
  cases x with
  | error e => exact failsIn_error (hf e (hx e rfl))
  | ok a => exact failsIn_ok a

/-- What a report needs is found out unless there is no time or no root. -/
theorem Report.failsIn_findOut (zone : Zone) (timing : Timing) (message : Typed) :
    FailsIn (fun b => b.kind ≠ .interrupt) (Report.findOut zone timing message) := by
  unfold Report.findOut
  simp only []
  cases timing.localStart zone (message.number ["slot"]) with
  | error fault => exact failsIn_error (Breakdown.clock_kind_ne_interrupt fault)
  | ok start =>
      cases message.type.root message.value with
      | error fault => exact failsIn_error fault.kind_ne_interrupt
      | ok root => exact failsIn_ok _

/-- A block is rendered, or the trouble is ordinary. -/
theorem Renderer.failsIn_render (r : Renderer) (block : Block) (mode : Mode) :
    FailsIn Trouble.Ordinary (r.render block mode) := by
  unfold Renderer.render
  split
  · exact failsIn_error (Trouble.ordinary_failure rfl)
  cases mode with
  | json => exact failsIn_ok _
  | text =>
      refine failsIn_mapError (failsIn_map ?_) fun b => Trouble.ordinary_breakdown
      exact Report.failsIn_findOut r.zone r.timing _
  | ssz =>
      simp only []
      split
      · exact failsIn_ok _
      · unfold Renderer.encodingTrouble
        split
        · exact failsIn_error (Trouble.ordinary_failure rfl)
        · exact failsIn_error (Trouble.ordinary_breakdown (Fault.kind_ne_interrupt _))

end Beacon
