import Beacon.Http.Url
import Beacon.Proofs.Http.Escape
import Beacon.Proofs.Text.Pieces

/-!
# Paths

What becomes of the steps of a path when its moves are taken and when it is written.

A move takes back one step that was there before it, or none, and never adds one. So the
steps in the end are some of those at the beginning, from the front, and behind them steps
that came later and are no moves (`Url.exists_withoutDots`). Writing a path changes each of
its steps by itself: no slash comes or goes, and no step becomes a move.

Both together say where the last step of a path comes from. If a path still begins with
the steps it began with and there is one step behind them, that step was put there: it is
the written form of a piece of what stood behind (`Url.exists_piece_of_normalPath`).

## Main definitions

* `Url.IsDots`: A step is a move.
* `Url.quoted`: A text as it is written in a path.

## Theorems

* `Url.exists_withoutDots`: What moves leave of the steps of a path.
* `Url.normalPath_of_still`, `Url.normalPath_still`: Taking moves changes nothing if there
  are none, and leaves none.
* `Url.pieces_quoted`: A path is written step by step.
* `Url.exists_piece_of_normalPath`: Where the last step comes from.
-/

namespace Beacon

namespace Text

/-- A character other than the one that stands for halves is read from a text only if it
    is there. -/
theorem mem_of_mem_chars {c : Char} {t : Text} (hc : c ≠ CodePoint.replacement)
    (h : c ∈ chars t) : .char c ∈ t := by
  rcases List.mem_map.mp h with ⟨p, hp, heq⟩
  cases p with
  | char d =>
      obtain rfl : d = c := heq
      exact hp
  | half _ => exact absurd heq.symm hc

/-- A part of a text without halves has none. -/
theorem isBroken_of_subset {s t : Text} (ht : t.isBroken = false) (h : s ⊆ t) :
    s.isBroken = false := by
  rw [isBroken, List.any_eq_false] at ht ⊢
  exact fun p hp => ht p (h hp)

/-- A text without halves is known by its characters. -/
theorem ofChars_chars {t : Text} (h : t.isBroken = false) : ofChars t.chars = t := by
  rw [isBroken, List.any_eq_false] at h
  have hmap : ∀ p ∈ t, CodePoint.char p.toChar = p := by
    intro p hp
    cases p with
    | char c => rfl
    | half _ => exact absurd rfl (h _ hp)
  rw [ofChars, chars, List.map_map]
  exact (List.map_congr_left hmap).trans (List.map_id t)

/-- A text is known by its characters if none of them stands for a half. -/
theorem eq_of_chars_eq {t : Text} {cs : List Char} (h : chars t = cs)
    (hcs : CodePoint.replacement ∉ cs) : t = ofChars cs := by
  subst h
  refine (ofChars_chars ?_).symm
  rw [isBroken, List.any_eq_false]
  intro p hp
  cases p with
  | char c => exact Bool.false_ne_true
  | half _ => exact absurd (List.mem_map_of_mem hp) hcs

theorem chars_append (s t : Text) : chars (s ++ t) = chars s ++ chars t := List.map_append

end Text

namespace Url

/-- The sign between the steps of a path. -/
def slash : CodePoint := .char '/'

/-- A step of a path that is a move: to the place itself, or to the one above. -/
def IsDots (step : Text) : Prop := step = [.char '.'] ∨ step = [.char '.', .char '.']

instance : DecidablePred IsDots := fun _ => inferInstanceAs (Decidable (_ ∨ _))

theorem not_isDots_nil : ¬IsDots [] := by
  rintro (h | h) <;> exact absurd h (List.cons_ne_nil _ _).symm

theorem not_isDots_of_mem_pieces_nil {s : Text} (h : s ∈ Text.pieces slash []) : ¬IsDots s := by
  rw [List.mem_singleton.mp h]
  exact not_isDots_nil

/-- A text as it is written in a path. -/
def quoted (t : Text) : Text := Text.ofChars (Percent.encode pathSafe t.chars)

/-! ### Moves -/

section Moves

variable {done steps : List Text} {step : Text}

theorem withoutDots_cons (h : ¬IsDots step) (rest : List Text) :
    withoutDots done (step :: rest) = withoutDots (step :: done) rest :=
  withoutDots.eq_4 done step rest (fun hone => h (Or.inl hone)) fun htwo => h (Or.inr htwo)

/-- Steps that are no moves are taken one after the other. -/
theorem withoutDots_append (done : List Text) (h : ∀ s ∈ steps, ¬IsDots s) (rest : List Text) :
    withoutDots done (steps ++ rest) = withoutDots (steps.reverse ++ done) rest := by
  induction steps generalizing done with
  | nil => rfl
  | cons step steps ih =>
      rw [List.cons_append, withoutDots_cons (h step List.mem_cons_self),
        ih (step :: done) fun s hs => h s (List.mem_cons_of_mem _ hs), List.reverse_cons,
        List.append_assoc]
      rfl

/-- Whatever moves there are, they take back some of the steps before, and what is added
    are steps that are no moves. -/
theorem exists_withoutDots (done steps : List Text) : ∃ n added,
    withoutDots done steps = (done.drop n).reverse ++ added ∧
      ∀ s ∈ added, s ∈ steps ∧ ¬IsDots s := by
  induction done, steps using withoutDots.induct with
  | case1 done => exact ⟨0, [], (List.append_nil _).symm, fun s hs => absurd hs List.not_mem_nil⟩
  | case2 done rest ih =>
      rcases ih with ⟨n, added, heq, hadded⟩
      exact ⟨n, added, heq, fun s hs => (hadded s hs).imp_left (List.mem_cons_of_mem _)⟩
  | case3 done rest ih =>
      -- A move to the place above takes back one step more, except at the root.
      rcases ih with ⟨n, added, heq, hadded⟩
      refine ⟨if done = [[]] then n else 1 + n, added, ?_,
        fun s hs => (hadded s hs).imp_left (List.mem_cons_of_mem _)⟩
      rw [withoutDots, heq]
      split
      · rfl
      · rw [List.drop_drop]
  | case4 done step rest hone htwo ih =>
      rcases ih with ⟨n, added, heq, hadded⟩
      have hstep : ¬IsDots step := fun h => h.elim hone htwo
      have hmem : ∀ s ∈ step :: added, s ∈ step :: rest ∧ ¬IsDots s := by
        intro s hs
        rcases List.mem_cons.mp hs with rfl | hs
        · exact ⟨List.mem_cons_self, hstep⟩
        · exact (hadded s hs).imp_left (List.mem_cons_of_mem _)
      rw [withoutDots_cons hstep, heq]
      cases n with
      | zero =>
          -- The step is still there in the end.
          refine ⟨0, step :: added, ?_, hmem⟩
          rw [List.drop_zero, List.drop_zero, List.reverse_cons, List.append_assoc]
          rfl
      | succ n =>
          exact ⟨n, added, rfl, fun s hs => hmem s (List.mem_cons_of_mem _ hs)⟩

/-- A path without moves is left as it is. -/
theorem normalPath_of_still {t : Text} (h : ∀ s ∈ Text.pieces slash t, ¬IsDots s) :
    normalPath t = t := by
  have hsteps := withoutDots_append [] h []
  rw [List.append_nil, List.append_nil, withoutDots, List.reverse_reverse] at hsteps
  rw [normalPath]
  exact (congrArg _ hsteps).trans (Text.join_pieces slash t)

/-- A path has no moves left when they have been taken. -/
theorem normalPath_still (t : Text) : ∀ s ∈ Text.pieces slash (normalPath t), ¬IsDots s := by
  rcases exists_withoutDots [] (Text.pieces slash t) with ⟨n, added, heq, hadded⟩
  rw [List.drop_nil, List.reverse_nil, List.nil_append] at heq
  have hpath : normalPath t = Text.join [slash] added := congrArg _ heq
  rw [hpath]
  by_cases hnil : added = []
  · subst hnil
    exact fun s hs => not_isDots_of_mem_pieces_nil hs
  · rw [Text.pieces_join slash hnil fun s hs => Text.not_mem_of_mem_pieces slash (hadded s hs).1]
    exact fun s hs => (hadded s hs).2

end Moves

/-! ### Writing -/

section Quoted

variable {t : Text}

theorem pathSafe_slash : pathSafe '/' = true := by decide

theorem pathSafe_question : (Percent.isUnreserved '?' || pathSafe '?') = false := by decide

theorem chars_quoted (t : Text) : (quoted t).chars = Percent.encode pathSafe t.chars :=
  Text.chars_ofChars _

/-- What is written already is left as it is. -/
theorem quoted_quoted (t : Text) : quoted (quoted t) = quoted t := by
  rw [quoted, chars_quoted, Percent.encode_encode, quoted]

/-- A path is written step by step. -/
theorem quoted_append (s t : Text) : quoted (s ++ slash :: t) = quoted s ++ slash :: quoted t := by
  have hslash : Percent.guarded pathSafe '/' = ['/'] := by
    rw [Percent.guarded, pathSafe_slash, Bool.or_true, if_pos rfl]
  have hchars : Text.chars (slash :: t) = '/' :: Text.chars t := rfl
  rw [quoted, Text.chars_append, hchars,
    Percent.encode_append pathSafe (by decide) (by decide) s.chars t.chars, hslash,
    Text.ofChars_append]
  rfl

theorem quoted_join (steps : List Text) :
    quoted (Text.join [slash] steps) = Text.join [slash] (steps.map quoted) := by
  induction steps with
  | nil => rfl
  | cons step steps ih =>
      by_cases hsteps : steps = []
      · subst hsteps
        rfl
      · rw [Text.join_cons slash step hsteps, quoted_append, ih, List.map_cons, Text.join_cons]
        exact mt List.map_eq_nil_iff.mp hsteps

/-- Of the signs that stand for something in a location, none comes to be by writing. -/
theorem mem_of_mem_quoted {c : Char} (hdigit : Percent.isDigit c = false) (hpercent : c ≠ '%')
    (hc : c ≠ CodePoint.replacement) (h : .char c ∈ quoted t) :
    .char c ∈ t ∧ (Percent.isUnreserved c || pathSafe c) = true := by
  have hmem : c ∈ Percent.encode pathSafe t.chars := by
    rw [← chars_quoted]
    exact List.mem_map_of_mem h
  rcases Percent.mem_encode pathSafe hmem with rfl | hd | ⟨hd, hsafe⟩
  · exact absurd rfl hpercent
  · exact absurd (hd.symm.trans hdigit) Bool.true_eq_false.mp
  · exact ⟨Text.mem_of_mem_chars hc hd, hsafe⟩

theorem slash_mem_of_quoted (h : slash ∈ quoted t) : slash ∈ t :=
  (mem_of_mem_quoted (by decide) (by decide) (by decide) h).1

/-- No query begins in a path that is written. -/
theorem question_not_mem_quoted (t : Text) : .char '?' ∉ quoted t := by
  intro h
  have hsafe := (mem_of_mem_quoted (by decide) (by decide) (by decide) h).2
  rw [pathSafe_question] at hsafe
  exact Bool.false_ne_true hsafe

/-- The steps of a path that is written are its steps as they are written. -/
theorem pieces_quoted (t : Text) :
    Text.pieces slash (quoted t) = (Text.pieces slash t).map quoted := by
  have hjoin : quoted t = Text.join [slash] ((Text.pieces slash t).map quoted) := by
    rw [← quoted_join, Text.join_pieces]
  rw [hjoin, Text.pieces_join slash (mt List.map_eq_nil_iff.mp (Text.pieces_ne_nil slash t))]
  intro s hs
  rcases List.mem_map.mp hs with ⟨piece, hpiece, rfl⟩
  exact mt slash_mem_of_quoted (Text.not_mem_of_mem_pieces slash hpiece)

theorem quoted_isDots (h : IsDots t) : quoted t = t := by
  rcases h with rfl | rfl <;> decide

/-- No move comes to be by writing. -/
theorem isDots_of_quoted (h : IsDots (quoted t)) : IsDots t := by
  have hdots (cs : List Char) (ht : quoted t = Text.ofChars cs) (hpercent : '%' ∉ cs)
      (hcs : CodePoint.replacement ∉ cs) : t = Text.ofChars cs := by
    refine Text.eq_of_chars_eq (Percent.eq_of_encode_eq pathSafe ?_ hpercent) hcs
    rw [← chars_quoted, ht, Text.chars_ofChars]
  rcases h with h | h
  · exact Or.inl (hdots ['.'] h (by decide) (by decide))
  · exact Or.inr (hdots ['.', '.'] h (by decide) (by decide))

/-- What stands alone behind the steps that a path began with, when moves have been taken,
    is one of the steps that were put behind them. -/
theorem exists_piece_of_normalPath {front back segment : Text}
    (hfront : ∀ s ∈ Text.pieces slash front, ¬IsDots s) (hsegment : slash ∉ segment)
    (h : quoted (normalPath (front ++ slash :: quoted back)) = front ++ slash :: segment) :
    ∃ s ∈ Text.pieces slash back, segment = quoted s ∧ ¬IsDots segment := by
  obtain ⟨n, added, heq, hadded⟩ :=
    exists_withoutDots (Text.pieces slash front).reverse (Text.pieces slash (quoted back))
  have hsteps := withoutDots_append [] hfront (Text.pieces slash (quoted back))
  rw [← Text.pieces_append, List.append_nil, heq] at hsteps
  -- The steps that are left of those before, and those that were added.
  let kept := ((Text.pieces slash front).reverse.drop n).reverse
  have hnormal : normalPath (front ++ slash :: quoted back) = Text.join [slash] (kept ++ added) :=
    congrArg _ hsteps
  rw [hnormal, quoted_join] at h
  have hne : (kept ++ added).map quoted ≠ [] := by
    intro hnil
    rw [hnil] at h
    exact List.append_ne_nil_of_right_ne_nil front (List.cons_ne_nil slash segment) h.symm
  have hfree : ∀ s ∈ (kept ++ added).map quoted, slash ∉ s := by
    intro s hs
    rcases List.mem_map.mp hs with ⟨step, hstep, rfl⟩
    refine mt slash_mem_of_quoted ?_
    rcases List.mem_append.mp hstep with hstep | hstep
    · exact Text.not_mem_of_mem_pieces slash
        (List.mem_reverse.mp (List.mem_of_mem_drop (List.mem_reverse.mp hstep)))
    · exact Text.not_mem_of_mem_pieces slash (hadded step hstep).1
  have hmap : (kept ++ added).map quoted = Text.pieces slash front ++ [segment] := by
    rw [← Text.pieces_join slash hne hfree, h, Text.pieces_append,
      Text.pieces_of_not_mem slash hsegment]
  -- There is one step more than before, so the last one was added.
  rcases List.eq_nil_or_concat' added with rfl | ⟨init, last, rfl⟩
  · have hlength := congrArg List.length hmap
    simp only [kept, List.append_nil, List.length_map, List.length_reverse, List.length_drop,
      List.length_append, List.length_singleton] at hlength
    omega
  · rw [← List.append_assoc, List.map_append] at hmap
    rcases List.append_inj' hmap rfl with ⟨-, hlast⟩
    rcases hadded last (List.mem_append_right _ (List.mem_singleton_self last)) with ⟨hmem, hdots⟩
    rw [pieces_quoted] at hmem
    rcases List.mem_map.mp hmem with ⟨s, hs, rfl⟩
    obtain rfl := List.singleton_inj.mp hlast
    rw [quoted_quoted]
    exact ⟨s, hs, rfl, hdots⟩

end Quoted

end Url

end Beacon
