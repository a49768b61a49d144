import Beacon.Text.Lines
import Beacon.Text.Utf8
import Mathlib.Data.List.Basic

/-!
# Lines of a Text that Came in Pieces

The lines that a stream is cut into are the lines of its whole text, however the stream
comes in pieces.

The lines of a text are told without a state. Every character that ends lines ends one,
and a carriage return with a line feed behind it is one end (`Lines.cut`). What stands
behind the last end is a line too if there is anything (`Lines.split`). A stream that is
cut off has no such line. It also has no line whose carriage return came last, because a
line feed might have followed, so the lines of a stream that is cut off are those of its
text without that carriage return.

## Main definitions

* `Lines.cut`: The lines that end in a text, and what stands behind them.
* `Lines.split`: The lines of a text.
* `Lines.settled`: A text without a carriage return that came last.

## Theorems

* `Lines.feed_append`, `Utf8.decodeFrom_append`: A stream may come in pieces.
* `Lines.feed_start`: The lines that end in the text of a stream.
* `Lines.feed_flush`: The lines of a stream that came to its end.
-/

namespace Beacon

namespace Utf8

theorem scan_append (halves : Bool) (pending : Option Pending) (done : List (Option CodePoint))
    (bs cs : Bytes) :
    scan halves pending done (bs ++ cs)
      = scan halves (scan halves pending done bs).2 (scan halves pending done bs).1 cs := by
  induction bs generalizing pending done with
  | nil => rfl
  | cons b bs ih =>
      rw [List.cons_append, scan, scan]
      exact ih _ _

/-- What was read before stays in front. -/
theorem scan_done (halves : Bool) (pending : Option Pending) (done : List (Option CodePoint))
    (bs : Bytes) :
    scan halves pending done bs
      = ((scan halves pending [] bs).1 ++ done, (scan halves pending [] bs).2) := by
  induction bs generalizing pending done with
  | nil => rfl
  | cons b bs ih =>
      simp only [scan]
      rw [ih _ (_ ++ done), ih _ (_ ++ [])]
      simp only [List.append_nil, List.append_assoc]

/-- Bytes may come in pieces: a character that is pending is completed by the next one. -/
theorem decodeFrom_append (pending : Option Pending) (bs cs : Bytes) :
    decodeFrom pending (bs ++ cs)
      = ((decodeFrom pending bs).1 ++ (decodeFrom (decodeFrom pending bs).2 cs).1,
        (decodeFrom (decodeFrom pending bs).2 cs).2) := by
  simp only [decodeFrom]
  rw [scan_append, scan_done false (scan false pending [] bs).2 (scan false pending [] bs).1 cs]
  simp only [List.reverse_append, List.map_append]

end Utf8

namespace Lines

/-- Characters in front of lines and of what stands behind them. -/
def ahead (cs : List Char) : List (List Char) × List Char → List (List Char) × List Char
  | ([], rest) => ([], cs ++ rest)
  | (line :: lines, rest) => ((cs ++ line) :: lines, rest)

/-- The lines that end in a text, and what stands behind the last end. A carriage return
    with a line feed behind it is one end. -/
def cut : List Char → List (List Char) × List Char
  | [] => ([], [])
  | '\r' :: '\n' :: cs => ([] :: (cut cs).1, (cut cs).2)
  | c :: cs => if endsLine c then ([] :: (cut cs).1, (cut cs).2) else ahead [c] (cut cs)

/-- The lines of a text. -/
def split (cs : List Char) : List (List Char) :=
  (cut cs).1 ++ if (cut cs).2.isEmpty then [] else [(cut cs).2]

/-- A text without a carriage return that came last. -/
def settled (cs : List Char) : List Char := if cs.getLast? = some '\r' then cs.dropLast else cs

/-! ### Steps -/

section Step

variable (done : List String) (line : List Char)

theorem step_return : step done ⟨line, false⟩ '\r' = (done, ⟨line, true⟩) := rfl

theorem step_feed : step done ⟨line, true⟩ '\n' = (close line :: done, .start) := rfl

/-- A character behind a carriage return shows that the line had ended there. -/
theorem step_held {c : Char} (hc : c ≠ '\n') :
    step done ⟨line, true⟩ c = step (close line :: done) .start c := by
  unfold step
  simp only [Bool.true_and, decide_eq_true_eq, if_neg hc, State.start, Bool.false_and,
    Bool.false_eq_true, if_false, if_true]

theorem step_ends {c : Char} (hreturn : c ≠ '\r') (hc : endsLine c = true) :
    step done ⟨line, false⟩ c = (close line :: done, .start) := by
  simp only [step, Bool.false_and, Bool.false_eq_true, if_false, if_neg hreturn, hc, if_true]

theorem step_other {c : Char} (hc : endsLine c = false) :
    step done ⟨line, false⟩ c = (done, ⟨c :: line, false⟩) := by
  have hreturn : c ≠ '\r' := by
    rintro rfl
    exact absurd hc (by decide)
  simp only [step, Bool.false_and, Bool.false_eq_true, if_false, if_neg hreturn, hc]

end Step

/-! ### Pieces -/

/-- What characters make of a state. -/
def run (done : List String) (s : State) (cs : List Char) : List String × State :=
  cs.foldl (fun x c => step x.1 x.2 c) (done, s)

theorem feed_eq_run (s : State) (cs : List Char) :
    feed s cs = ((run [] s cs).1.reverse, (run [] s cs).2) := rfl

theorem run_append (done : List String) (s : State) (cs ds : List Char) :
    run done s (cs ++ ds) = run (run done s cs).1 (run done s cs).2 ds := List.foldl_append

/-- A step only adds lines to those before. -/
theorem step_done (done : List String) (s : State) (c : Char) :
    step done s c = ((step [] s c).1 ++ done, (step [] s c).2) := by
  have hopen (done : List String) (line : List Char) : step done ⟨line, false⟩ c
      = ((step [] ⟨line, false⟩ c).1 ++ done, (step [] ⟨line, false⟩ c).2) := by
    by_cases hreturn : c = '\r'
    · subst hreturn
      rw [step_return, step_return]
      rfl
    cases hc : endsLine c with
    | true =>
        rw [step_ends done line hreturn hc, step_ends [] line hreturn hc]
        rfl
    | false =>
        rw [step_other done line hc, step_other [] line hc]
        rfl
  obtain ⟨line, held⟩ := s
  cases held with
  | false => exact hopen done line
  | true =>
      -- A line that was held back is done with, and then the step is one at the start.
      by_cases hc : c = '\n'
      · subst hc
        rw [step_feed, step_feed]
        rfl
      · rw [step_held done line hc, step_held [] line hc, State.start, hopen (_ :: done),
          hopen [_], List.append_assoc]
        rfl

/-- The lines before stay behind the new ones. -/
theorem run_done (done : List String) (s : State) (cs : List Char) :
    run done s cs = ((run [] s cs).1 ++ done, (run [] s cs).2) := by
  induction cs generalizing done s with
  | nil => rfl
  | cons c cs ih =>
      have hrun : ∀ done, run done s (c :: cs) = run (step done s c).1 (step done s c).2 cs :=
        fun _ => rfl
      rw [hrun, hrun, ih, ih (step [] s c).1, step_done done, List.append_assoc]

/-- Characters may come in pieces: a line that is open is completed by the next one. -/
theorem feed_append (s : State) (cs ds : List Char) :
    feed s (cs ++ ds)
      = ((feed s cs).1 ++ (feed (feed s cs).2 ds).1, (feed (feed s cs).2 ds).2) := by
  rw [feed_eq_run, feed_eq_run, feed_eq_run, run_append, run_done]
  simp only [List.reverse_append]

/-! ### Lines of a text -/

theorem ahead_nil (x : List (List Char) × List Char) : ahead [] x = x := by
  obtain ⟨lines, rest⟩ := x
  cases lines <;> rfl

theorem ahead_append (cs ds : List Char) (x : List (List Char) × List Char) :
    ahead cs (ahead ds x) = ahead (cs ++ ds) x := by
  obtain ⟨lines, rest⟩ := x
  cases lines <;> simp only [ahead, List.append_assoc]

/-- What a text that is cut makes of lines that are done, with a carriage return behind it
    or not. -/
def outcome (done : List String) (x : List (List Char) × List Char) (held : Bool) :
    List String × State :=
  ((x.1.map String.ofList).reverse ++ done, ⟨x.2.reverse, held⟩)

theorem outcome_cons (done : List String) (line : List Char) (lines : List (List Char))
    (rest : List Char) (held : Bool) :
    outcome done (line :: lines, rest) held
      = outcome (String.ofList line :: done) (lines, rest) held := by
  simp only [outcome, List.map_cons, List.reverse_cons, List.append_assoc, List.singleton_append]

/-- No pair starts with a character, also when a carriage return is put at the end. -/
theorem not_pair_append {c : Char} {cs : List Char} (h : ∀ ds, c = '\r' → cs = '\n' :: ds → False)
    (ds : List Char) (hc : c = '\r') (hcs : cs ++ ['\r'] = '\n' :: ds) : False := by
  cases cs with
  | nil => exact absurd (List.cons.inj hcs).1 (by decide)
  | cons d cs => exact h cs hc (congrArg (· :: cs) (List.cons.inj hcs).1)

/-- A line that is open is ended by a carriage return at the end. -/
theorem cut_return (u : List Char) : cut (u ++ ['\r']) = ((cut u).1 ++ [(cut u).2], []) := by
  induction u using cut.induct with
  | case1 => rfl
  | case2 cs ih =>
      change ([] :: (cut (cs ++ ['\r'])).1, (cut (cs ++ ['\r'])).2) = _
      rw [ih]
      rfl
  | case3 c cs hpair hc ih =>
      rw [List.cons_append, cut.eq_3 _ _ (not_pair_append hpair), cut.eq_3 _ _ hpair, if_pos hc,
        if_pos hc, ih]
      rfl
  | case4 c cs hpair hc ih =>
      rw [List.cons_append, cut.eq_3 _ _ (not_pair_append hpair), cut.eq_3 _ _ hpair, if_neg hc,
        if_neg hc, ih]
      obtain ⟨lines, rest⟩ := cut cs
      cases lines <;> rfl

/-- What comes last in a text comes last in a longer one. -/
theorem getLast?_tail {c : Char} {cs : List Char} (h : (c :: cs).getLast? ≠ some '\r') :
    cs.getLast? ≠ some '\r' := by
  intro hlast
  rw [List.getLast?_cons, hlast] at h
  exact h rfl

theorem run_cons (done : List String) (s : State) (c : Char) (cs : List Char) :
    run done s (c :: cs) = run (step done s c).1 (step done s c).2 cs := rfl

/-- The machine cuts a text as it should be cut. A carriage return that comes last counts as
    none of the text, and holds its line back. -/
theorem run_cut (u : List Char) (held : Bool) (hlast : held = false → u.getLast? ≠ some '\r')
    (done : List String) (line : List Char) :
    run done ⟨line, false⟩ (u ++ if held then ['\r'] else [])
      = outcome done (ahead line.reverse (cut u)) held := by
  induction u using cut.induct generalizing done line with
  | case1 =>
      cases held <;> simp only [cut, ahead, outcome, List.append_nil, List.reverse_reverse] <;> rfl
  | case2 cs ih =>
      -- The machine holds the line back at the return, and the line feed ends it.
      have hcs := ih (fun hheld => getLast?_tail (getLast?_tail (hlast hheld)))
        (close line :: done) []
      rw [List.reverse_nil, ahead_nil] at hcs
      rw [List.cons_append, List.cons_append, run_cons, step_return, run_cons, step_feed]
      refine hcs.trans ?_
      rw [cut, ahead, List.append_nil, outcome_cons]
      rfl
  | case3 c cs hpair hc ih =>
      have hcs := ih (fun hheld => getLast?_tail (hlast hheld)) (close line :: done) []
      rw [List.reverse_nil, ahead_nil] at hcs
      have hcut : outcome (close line :: done) (cut cs) held
          = outcome done (ahead line.reverse (cut (c :: cs))) held := by
        rw [cut.eq_3 _ _ hpair, if_pos hc, ahead, List.append_nil, outcome_cons]
        rfl
      rw [← hcut, ← hcs, List.cons_append, run_cons]
      by_cases hreturn : c = '\r'
      · -- The next character shows that the line had ended, and it is there.
        subst hreturn
        rw [step_return]
        cases cs with
        | nil =>
            cases held with
            | false => exact absurd rfl (hlast rfl)
            | true => rfl
        | cons d cs =>
            have hd : d ≠ '\n' := fun hd => hpair cs rfl (by rw [hd])
            rw [List.cons_append, run_cons, run_cons, step_held done line hd]
            rfl
      · rw [step_ends done line hreturn hc]
        rfl
  | case4 c cs hpair hc ih =>
      have hcs := ih (fun hheld => getLast?_tail (hlast hheld)) done (c :: line)
      rw [List.cons_append, run_cons, step_other done line (Bool.eq_false_iff.mpr hc), hcs,
        cut.eq_3 _ _ hpair, if_neg hc, ahead_append, List.reverse_cons]

/-- A text is what is left of it, and a carriage return if that came last. -/
theorem settled_append (cs : List Char) :
    settled cs ++ (if decide (cs.getLast? = some '\r') then ['\r'] else []) = cs := by
  unfold settled
  by_cases hlast : cs.getLast? = some '\r'
  · rw [if_pos hlast, if_pos (decide_eq_true hlast)]
    exact List.dropLast_append_getLast? '\r' hlast
  · rw [if_neg hlast, if_neg (by rwa [decide_eq_true_eq]), List.append_nil]

/-- The lines that end in a text are those that are read. One whose carriage return came
    last is not among them. -/
theorem feed_start (cs : List Char) :
    feed .start cs = ((cut (settled cs)).1.map String.ofList,
      ⟨(cut (settled cs)).2.reverse, cs.getLast? = some '\r'⟩) := by
  have hlast : decide (cs.getLast? = some '\r') = false → (settled cs).getLast? ≠ some '\r' := by
    intro hnone
    rw [decide_eq_false_iff_not] at hnone
    rwa [settled, if_neg hnone]
  have hrun := run_cut (settled cs) _ hlast [] []
  rw [settled_append, List.reverse_nil, ahead_nil] at hrun
  rw [feed_eq_run, State.start, hrun, outcome]
  simp only [List.append_nil, List.reverse_reverse]

/-- The lines of a stream that came to its end are those of its text. -/
theorem feed_flush (cs : List Char) :
    (feed .start cs).1 ++ flush (feed .start cs).2 = (split cs).map String.ofList := by
  rw [feed_start, flush, split]
  by_cases hlast : cs.getLast? = some '\r'
  · -- The line that was held back is completed by the end, and it is the last one.
    have hcs := settled_append cs
    rw [if_pos (decide_eq_true hlast)] at hcs
    have hcut := cut_return (settled cs)
    rw [hcs] at hcut
    rw [hcut]
    simp only [hlast, decide_true, Bool.true_or, if_true, List.isEmpty_nil, List.append_nil,
      List.map_append, List.map_singleton, close, List.reverse_reverse]
  · have hcs : settled cs = cs := if_neg hlast
    rw [hcs]
    simp only [hlast, decide_false, Bool.false_or, List.isEmpty_reverse, List.map_append, close,
      List.reverse_reverse]
    cases (cut cs).2 <;> rfl

end Lines

end Beacon
