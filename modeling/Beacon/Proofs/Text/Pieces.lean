import Beacon.Text.Basic
import Beacon.Text.Cut
import Mathlib.Data.List.Basic

/-!
# Pieces of a Text

A text that is cut at a sign and put together again.

Cutting and putting together are inverse to each other: the pieces of a text, put
together with the sign between them, are the text, and texts without the sign are the
pieces of what they make together. So a text can be changed piece by piece, and what is
known of its pieces is known of it.

A piece is the whole text or shorter, and so is what stands before the first sign.

## Theorems

* `Text.join_pieces`, `Text.pieces_join`: Cutting and putting together.
* `Text.pieces_append`: A sign parts the pieces of a text.
* `Text.eq_or_length_lt_of_mem_pieces`: A piece is the whole text or shorter.
* `Text.cutAt_append`: A text is cut behind what does not have the sign.
-/

namespace Beacon

namespace Text

section Pieces

variable {α : Type} [DecidableEq α] (c : α)

theorem pieces_ne_nil (t : List α) : pieces c t ≠ [] := by
  cases t with
  | nil => exact List.cons_ne_nil _ _
  | cons d t =>
      unfold pieces
      split
      · exact List.cons_ne_nil _ _
      · split <;> exact List.cons_ne_nil _ _

/-- What stands before the first sign of a text goes into its first piece. -/
theorem pieces_cons {d : α} (hd : d ≠ c) (t : List α) :
    ∃ piece more, pieces c t = piece :: more ∧ pieces c (d :: t) = (d :: piece) :: more := by
  rcases List.exists_cons_of_ne_nil (pieces_ne_nil c t) with ⟨piece, more, hpieces⟩
  refine ⟨piece, more, hpieces, ?_⟩
  rw [pieces, if_neg hd, hpieces]

theorem pieces_sign (t : List α) : pieces c (c :: t) = [] :: pieces c t := by
  rw [pieces, if_pos rfl]

/-- A sign parts the pieces of a text. -/
theorem pieces_append (s t : List α) : pieces c (s ++ c :: t) = pieces c s ++ pieces c t := by
  induction s with
  | nil => exact pieces_sign c t
  | cons d s ih =>
      by_cases hd : d = c
      · subst hd
        rw [List.cons_append, pieces_sign, pieces_sign, ih, List.cons_append]
      · rcases pieces_cons c hd s with ⟨piece, more, hs, hcons⟩
        rcases pieces_cons c hd (s ++ c :: t) with ⟨piece', more', hs', hcons'⟩
        rw [ih, hs, List.cons_append, List.cons.injEq] at hs'
        rcases hs' with ⟨rfl, rfl⟩
        rw [List.cons_append, hcons', hcons, List.cons_append]

theorem pieces_of_not_mem {t : List α} (h : c ∉ t) : pieces c t = [t] := by
  induction t with
  | nil => rfl
  | cons d t ih =>
      rw [List.mem_cons, not_or] at h
      rcases pieces_cons c (Ne.symm h.1) t with ⟨piece, more, hpieces, hcons⟩
      rw [ih h.2, List.cons.injEq] at hpieces
      rcases hpieces with ⟨rfl, rfl⟩
      exact hcons

theorem not_mem_of_mem_pieces {s t : List α} (h : s ∈ pieces c t) : c ∉ s := by
  induction t generalizing s with
  | nil =>
      rw [pieces, List.mem_singleton] at h
      rw [h]
      exact List.not_mem_nil
  | cons d t ih =>
      by_cases hd : d = c
      · subst hd
        rw [pieces_sign, List.mem_cons] at h
        rcases h with rfl | h
        · exact List.not_mem_nil
        · exact ih h
      · rcases pieces_cons c hd t with ⟨piece, more, hpieces, hcons⟩
        rw [hpieces] at ih
        rw [hcons, List.mem_cons] at h
        rcases h with rfl | h
        · rw [List.mem_cons, not_or]
          exact ⟨Ne.symm hd, ih List.mem_cons_self⟩
        · exact ih (List.mem_cons_of_mem _ h)

/-- A piece of a text is the whole text or shorter. -/
theorem eq_or_length_lt_of_mem_pieces {s t : List α} (h : s ∈ pieces c t) :
    s = t ∨ s.length < t.length := by
  induction t generalizing s with
  | nil => exact Or.inl (List.mem_singleton.mp h)
  | cons d t ih =>
      rw [List.length_cons]
      by_cases hd : d = c
      · subst hd
        rw [pieces_sign, List.mem_cons] at h
        rcases h with rfl | h
        · exact Or.inr (Nat.succ_pos _)
        · rcases ih h with rfl | hlt
          · exact Or.inr (Nat.lt_succ_self _)
          · exact Or.inr (by omega)
      · rcases pieces_cons c hd t with ⟨piece, more, hpieces, hcons⟩
        rw [hpieces] at ih
        rw [hcons, List.mem_cons] at h
        rcases h with rfl | h
        · rcases ih List.mem_cons_self with rfl | hlt
          · exact Or.inl rfl
          · exact Or.inr (Nat.succ_lt_succ hlt)
        · rcases ih (List.mem_cons_of_mem _ h) with rfl | hlt
          · exact Or.inr (Nat.lt_succ_self _)
          · exact Or.inr (by omega)

/-- A text is cut behind what does not have the sign. -/
theorem cutAt_append {s : List α} (h : c ∉ s) (t : List α) :
    cutAt c (s ++ t) = (s ++ (cutAt c t).1, (cutAt c t).2) := by
  have hall : ∀ d ∈ s, (decide (d ≠ c)) = true := by
    intro d hd
    rw [decide_eq_true_eq]
    rintro rfl
    exact h hd
  unfold cutAt
  rw [List.dropWhile_append_of_pos hall, List.takeWhile_append_of_pos hall]
  cases t.dropWhile (· ≠ c) <;> rfl

theorem cutAt_of_not_mem {s : List α} (h : c ∉ s) : cutAt c s = (s, none) := by
  have hcut := cutAt_append c h []
  rw [List.append_nil] at hcut
  rw [hcut]
  exact congrArg (·, none) (List.append_nil s)

theorem cutAt_cons (t : List α) : cutAt c (c :: t) = ([], some t) := by
  unfold cutAt
  rw [List.dropWhile_cons_of_neg (by simp only [ne_eq, not_true_eq_false, decide_false,
    Bool.false_eq_true, not_false_eq_true]), List.takeWhile_cons_of_neg (by simp only [ne_eq,
    not_true_eq_false, decide_false, Bool.false_eq_true, not_false_eq_true])]

/-- A text is cut in two if it has the sign. -/
theorem cutAt_eq_none_iff (t : List α) : (cutAt c t).2 = none ↔ c ∉ t := by
  by_cases hc : c ∈ t
  · rcases List.eq_append_cons_of_mem hc with ⟨s, rest, rfl, hs⟩
    rw [cutAt_append c hs, cutAt_cons]
    exact iff_of_false (Option.some_ne_none rest) fun h => h hc
  · rw [cutAt_of_not_mem c hc]
    exact iff_of_true rfl hc

/-- What stands before the first sign is the whole text only if there is none. -/
theorem length_cutAt (t : List α) :
    (cutAt c t).1.length ≤ t.length ∧ ((cutAt c t).1.length = t.length → c ∉ t) := by
  by_cases hc : c ∈ t
  · rcases List.eq_append_cons_of_mem hc with ⟨s, rest, rfl, hs⟩
    rw [cutAt_append c hs, cutAt_cons]
    simp only [List.append_nil, List.length_append, List.length_cons]
    exact ⟨by omega, fun h => by omega⟩
  · rw [cutAt_of_not_mem c hc]
    exact ⟨Nat.le_refl _, fun _ => hc⟩

end Pieces

section Join

variable (c : CodePoint)

theorem join_cons (t : Text) {ts : List Text} (h : ts ≠ []) :
    join [c] (t :: ts) = t ++ c :: join [c] ts := by
  cases ts with
  | nil => exact absurd rfl h
  | cons s ts => rfl

/-- The pieces of a text make the text again. -/
theorem join_pieces (t : Text) : join [c] (pieces c t) = t := by
  induction t with
  | nil => rfl
  | cons d t ih =>
      by_cases hd : d = c
      · subst hd
        rw [pieces_sign, join_cons d [] (pieces_ne_nil d t), ih, List.nil_append]
      · rcases pieces_cons c hd t with ⟨piece, more, hpieces, hcons⟩
        rw [hpieces] at ih
        rw [hcons, ← ih]
        cases more <;> rfl

/-- Texts without the sign are the pieces of what they make together. -/
theorem pieces_join {ts : List Text} (hne : ts ≠ []) (h : ∀ t ∈ ts, c ∉ t) :
    pieces c (join [c] ts) = ts := by
  induction ts with
  | nil => exact absurd rfl hne
  | cons t ts ih =>
      have ht := pieces_of_not_mem c (h t List.mem_cons_self)
      by_cases hts : ts = []
      · subst hts
        exact ht
      · rw [join_cons c t hts, pieces_append, ht,
          ih hts fun s hs => h s (List.mem_cons_of_mem _ hs)]
        rfl

end Join

end Text

end Beacon
