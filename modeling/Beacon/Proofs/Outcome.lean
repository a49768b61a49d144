import Mathlib.Data.List.Forall2

/-!
# Outcomes of Checked Computations

What it takes for a chain of checks to succeed. Encoding, decoding and rooting
are all sequences of steps of which each may end in a fault, so the first move
of nearly every proof about them is to take a success apart into the successes
of its steps. The lemmas here do that once, for a bind, for a map and for a row
of steps.

The other side of a check is what it may end in when it does not succeed. That
is a condition on faults, and a chain of steps meets it when each step does in
the place where it stands: a step may count on the successes before it, because
without them it is not reached.

## Main definitions

* `FailsIn`: Whatever fault there is meets a condition.

## Theorems

* `ok_bind`: A step that has succeeded hands on its result.
* `bind_eq_ok_iff`, `bind_eq_error_iff`: Two steps succeed when the first does and
  then the second, and fail when one of them does.
* `map_eq_ok_iff`: A mapped step succeeds exactly when the step does.
* `mapError_eq_ok_iff`, `mapError_eq_error_iff`: Putting a fault in another way does
  not turn it into a success.
* `ite_eq_ok_iff`: A check succeeds exactly when what it checks is the case.
* `guard_eq_ok_iff`: What stands behind a check is reached when the check is passed.
* `mapM_eq_ok_iff`, `mapM_replicate`: A row of steps succeeds exactly when every step
  does, and one step taken over and over when it does.
* `failsIn_bind`, `failsIn_map`, `failsIn_mapM`: The faults of several steps are
  the faults of one of them.
-/

namespace Beacon

namespace Outcome

variable {ε α β : Type}

theorem ok_bind (a : α) (f : α → Except ε β) : (Except.ok a >>= f) = f a := rfl

theorem bind_eq_ok_iff {x : Except ε α} {f : α → Except ε β} {b : β} :
    x >>= f = .ok b ↔ ∃ a, x = .ok a ∧ f a = .ok b := by
  cases x with
  | error e => simp only [bind, Except.bind, reduceCtorEq, false_and, exists_false]
  | ok a => simp only [bind, Except.bind, Except.ok.injEq, exists_eq_left']

/-- Two steps fail when the first does, or when it succeeds and the second fails. -/
theorem bind_eq_error_iff {x : Except ε α} {f : α → Except ε β} {e : ε} :
    x >>= f = .error e ↔ x = .error e ∨ ∃ a, x = .ok a ∧ f a = .error e := by
  cases x with
  | error e' =>
      simp only [bind, Except.bind, Except.error.injEq, reduceCtorEq, false_and, exists_false,
        or_false]
  | ok a => simp only [bind, Except.bind, reduceCtorEq, Except.ok.injEq, exists_eq_left', false_or]

theorem map_eq_ok_iff {x : Except ε α} {f : α → β} {b : β} :
    x.map f = .ok b ↔ ∃ a, x = .ok a ∧ f a = b := by
  cases x with
  | error e => simp only [Except.map, reduceCtorEq, false_and, exists_false]
  | ok a => simp only [Except.map, Except.ok.injEq, exists_eq_left']

theorem mapError_eq_ok_iff {ε' : Type} {x : Except ε α} {f : ε → ε'} {a : α} :
    x.mapError f = .ok a ↔ x = .ok a := by
  cases x <;> simp only [Except.mapError, reduceCtorEq, Except.ok.injEq]

theorem mapError_eq_error_iff {ε' : Type} {x : Except ε α} {f : ε → ε'} {e' : ε'} :
    x.mapError f = .error e' ↔ ∃ e, x = .error e ∧ f e = e' := by
  cases x <;> simp only [Except.mapError, reduceCtorEq, Except.error.injEq, exists_eq_left',
    false_and, exists_false]

/-- A check succeeds exactly when what it checks is the case. -/
theorem ite_eq_ok_iff {p : Prop} [Decidable p] {e : ε} {a b : α} :
    (if p then .ok a else .error e : Except ε α) = .ok b ↔ p ∧ a = b := by
  split
  · rename_i hp
    rw [Except.ok.injEq, and_iff_right hp]
  · rename_i hp
    exact iff_of_false (by simp only [reduceCtorEq, not_false_eq_true]) fun h => hp h.1

/-- What stands behind a check is reached when the check is passed. -/
theorem guard_eq_ok_iff {p : Prop} [Decidable p] {e : ε} {x : Except ε α} {a : α} :
    (if p then .error e else x) = .ok a ↔ ¬p ∧ x = .ok a := by
  split
  · rename_i hp
    exact iff_of_false (by simp only [reduceCtorEq, not_false_eq_true]) fun h => h.1 hp
  · rename_i hp
    exact (and_iff_right hp).symm

theorem ok_of_toOption {x : Except ε α} {a : α} (h : x.toOption = some a) : x = .ok a := by
  cases x with
  | error e => exact absurd h (by simp only [Except.toOption, reduceCtorEq, not_false_eq_true])
  | ok a' => rw [Option.some.inj h]

/-- A row of steps succeeds exactly when every step does, the results standing
    in the order of the steps. -/
theorem mapM_eq_ok_iff {f : α → Except ε β} {xs : List α} {ys : List β} :
    xs.mapM f = .ok ys ↔ List.Forall₂ (fun x y => f x = .ok y) xs ys := by
  induction xs generalizing ys with
  | nil =>
      rw [List.mapM_nil, List.forall₂_nil_left_iff]
      constructor
      · intro h
        exact (Except.ok.inj h).symm
      · intro h
        rw [h]
        rfl
  | cons x xs ih =>
      rw [List.mapM_cons, bind_eq_ok_iff, List.forall₂_cons_left_iff]
      constructor
      · rintro ⟨y, hy, hrest⟩
        obtain ⟨zs, hzs, hpure⟩ := bind_eq_ok_iff.mp hrest
        exact ⟨y, zs, hy, ih.mp hzs, (Except.ok.inj hpure).symm⟩
      · rintro ⟨y, zs, hy, hzs, rfl⟩
        exact ⟨y, hy, bind_eq_ok_iff.mpr ⟨zs, ih.mpr hzs, rfl⟩⟩

/-- Every result of a row of steps is the result of a step. -/
theorem exists_of_mapM {f : α → Except ε β} {xs : List α} {ys : List β}
    (h : xs.mapM f = .ok ys) : ∀ y ∈ ys, ∃ x ∈ xs, f x = .ok y := by
  have hall := mapM_eq_ok_iff.mp h
  clear h
  induction hall with
  | nil => exact fun y hy => absurd hy List.not_mem_nil
  | cons hy _ ih =>
      refine List.forall_mem_cons.mpr ⟨⟨_, List.mem_cons_self, hy⟩, fun y hmem => ?_⟩
      obtain ⟨x, hx, hxy⟩ := ih y hmem
      exact ⟨x, List.mem_cons_of_mem _ hx, hxy⟩

/-- One step that succeeds, taken over and over, gives its result over and over. -/
theorem mapM_replicate {f : α → Except ε β} {x : α} {y : β} (h : f x = .ok y) (count : Nat) :
    (List.replicate count x).mapM f = .ok (List.replicate count y) := by
  induction count with
  | zero => rfl
  | succ count ih =>
      rw [List.replicate_succ, List.mapM_cons, h, ok_bind, ih]
      rfl

/-- Whenever a computation ends in a fault, the fault meets a condition. -/
def FailsIn (cond : ε → Prop) (x : Except ε α) : Prop := ∀ e, x = .error e → cond e

variable {cond : ε → Prop}

theorem failsIn_ok (a : α) : FailsIn cond (.ok a : Except ε α) := by
  intro e he
  exact absurd he (by simp only [reduceCtorEq, not_false_eq_true])

theorem failsIn_error {e : ε} (h : cond e) : FailsIn cond (.error e : Except ε α) := by
  intro e' he
  rw [← Except.error.inj he]
  exact h

theorem failsIn_ite {p : Prop} [Decidable p] {e : ε} {a : α} (h : cond e) :
    FailsIn cond (if p then .ok a else .error e) := by
  split
  · exact failsIn_ok a
  · exact failsIn_error h

theorem failsIn_bind {x : Except ε α} {f : α → Except ε β} (hx : FailsIn cond x)
    (hf : ∀ a, x = .ok a → FailsIn cond (f a)) : FailsIn cond (x >>= f) := by
  cases x with
  | error e => exact failsIn_error (hx e rfl)
  | ok a => exact hf a rfl

theorem failsIn_map {x : Except ε α} {f : α → β} (hx : FailsIn cond x) :
    FailsIn cond (x.map f) := by
  cases x with
  | error e => exact failsIn_error (hx e rfl)
  | ok a => exact failsIn_ok (f a)

/-- A row of steps ends in a fault of one of the steps. -/
theorem failsIn_mapM {f : α → Except ε β} {xs : List α} (h : ∀ x ∈ xs, FailsIn cond (f x)) :
    FailsIn cond (xs.mapM f) := by
  induction xs with
  | nil =>
      rw [List.mapM_nil]
      exact failsIn_ok []
  | cons x xs ih =>
      rw [List.forall_mem_cons] at h
      rw [List.mapM_cons]
      refine failsIn_bind h.1 fun y _ => failsIn_bind (ih h.2) fun ys _ => ?_
      exact failsIn_ok (y :: ys)

end Outcome

end Beacon
