import Beacon.Proofs.Http.Path
import Beacon.Proofs.Outcome

/-!
# Locations from Their Parts

What a location has of the parts it is put together from, and what that makes of a path
that is put under a base.

All locations come out of one function. Whatever goes in, the path that comes out has been
written, and its moves have been taken unless the location is a path by itself, without a
scheme and an authority (`Url.Settled`). A location that is settled stays as it is when it
is put together again with something behind it: its own path needs no writing and has no
moves. So a base keeps its path, and the path of a base ends in a slash, because one was
put there if it was missing (`Url.Settled.asBase`).

If a base has a query, then what is put under it is query too.

## Main definitions

* `Url.isBare`: A location is a path by itself.
* `Url.Assembled`: What a location has of its path and its query.
* `Url.Settled`: A path that has been written and has no moves left.
* `Url.IsBase`: A location to put others under.

## Theorems

* `Url.Assembled.settled`, `Url.settled_of_read`: Every location is settled.
* `Url.read_rooted`: A text that begins with one slash is a path by itself.
* `Url.withTarget_append`, `Url.query_of_withTarget`: What is put behind a location.
* `Url.Settled.asBase`: The base made of a location is one.
-/

namespace Beacon

open Outcome

namespace Url

/-- A location is a path by itself: it has no scheme and no authority. -/
def isBare (u : Url) : Bool :=
  u.scheme.isEmpty && (u.user.isEmpty && u.host.isEmpty && u.port.isNone)

/-- A path as a location has it. Moves are left alone in a path by itself. -/
def resolved (u : Url) (path : Text) : Text := if u.isBare then path else normalPath path

variable {u v : Url} {t path : Text}

/-! ### Putting together -/

/-- What can be written has no halves. -/
theorem escaped_eq_ok {safe : Char → Bool} {cs : List Char} (h : escaped safe t = .ok cs) :
    cs = Percent.encode safe t.chars ∧ t.isBroken = false := by
  rcases map_eq_ok_iff.mp (mapError_eq_ok_iff.mp h) with ⟨ds, hds, rfl⟩
  unfold Charset.checkEach at hds
  split at hds
  · rename_i hfind
    refine ⟨by rw [← Except.ok.inj hds], ?_⟩
    rw [Text.isBroken, List.any_eq_false]
    exact List.find?_eq_none.mp hfind
  · cases hds

theorem escapedIfAny_eq_ok {safe : Char → Bool} {part : Option Text} {cs : Option (List Char)}
    (h : escapedIfAny safe part = .ok cs) :
    cs = part.map fun t => Percent.encode safe t.chars := by
  cases part with
  | none => exact (Except.ok.inj h).symm
  | some t =>
      rcases map_eq_ok_iff.mp h with ⟨ds, hds, rfl⟩
      rw [(escaped_eq_ok hds).1]
      rfl

/-- What a location that is put together has of its parts. -/
structure Assembled (u : Url) (path : Text) (query : Option Text) : Prop where
  written : Text.ofChars u.path = quoted (u.resolved path)
  whole : (u.resolved path).isBroken = false
  query : u.query = query.map fun t => Percent.encode querySafe t.chars

theorem assembled_of_assemble {scheme user : List Char} {host : Text} {port : Option Int}
    {query fragment : Option Text}
    (h : assemble scheme user host port path query fragment = .ok u) :
    (u.scheme = scheme ∧ u.user = user ∧ u.host = host ∧ u.port = port) ∧
      u.Assembled path query := by
  unfold assemble at h
  simp only [Bool.not_not] at h
  rcases guard_eq_ok_iff.mp h with ⟨-, h⟩
  rcases guard_eq_ok_iff.mp h with ⟨-, h⟩
  rcases guard_eq_ok_iff.mp h with ⟨-, h⟩
  simp only [bind_eq_ok_iff] at h
  rcases h with ⟨p, hp, q, hq, f, -, hu⟩
  obtain rfl := Except.ok.inj hu
  rcases escaped_eq_ok hp with ⟨rfl, hwhole⟩
  exact ⟨⟨rfl, rfl, rfl, rfl⟩, rfl, hwhole, escapedIfAny_eq_ok hq⟩

/-- Where there is no host before, there is none after it is looked at again. -/
theorem readHost_nil : readHost (hostText []) = .ok [] := by
  decide

theorem withParts_eq_ok {cs : List Char} {query : Option (List Char)}
    (h : u.withParts cs query = .ok v) :
    (u.isBare = true → v.isBare = true) ∧
      v.Assembled (Text.ofChars cs) (query.map Text.ofChars) := by
  unfold withParts at h
  simp only [bind_eq_ok_iff] at h
  rcases h with ⟨-, -, -, -, -, -, -, -, -, -, host, hhost, h⟩
  rcases assembled_of_assemble h with ⟨⟨hscheme, huser, rfl, hport⟩, hv⟩
  refine ⟨fun hbare => ?_, hv⟩
  simp only [isBare, Bool.and_eq_true, List.isEmpty_iff] at hbare ⊢
  rcases hbare with ⟨hs, ⟨hu, hh⟩, hp⟩
  rw [hh, readHost_nil] at hhost
  exact ⟨hscheme.trans hs, ⟨huser.trans hu, (Except.ok.inj hhost).symm⟩, by rw [hport, hp]⟩

/-- A path has been written, and its moves have been taken unless it is one by itself. -/
structure Settled (u : Url) : Prop where
  written : quoted (Text.ofChars u.path) = Text.ofChars u.path
  still : u.isBare = false → ∀ s ∈ Text.pieces slash (Text.ofChars u.path), ¬IsDots s

theorem Assembled.settled {query : Option Text} (h : u.Assembled path query) : u.Settled where
  written := by rw [h.written, quoted_quoted]
  still := by
    intro hbare s hs
    rw [h.written, resolved, if_neg (Bool.eq_false_iff.mp hbare), pieces_quoted] at hs
    rcases List.mem_map.mp hs with ⟨step, hstep, rfl⟩
    exact mt isDots_of_quoted (normalPath_still path step hstep)

/-- A path without moves is left as it is. -/
theorem resolved_of_still (h : u.isBare = false → ∀ s ∈ Text.pieces slash path, ¬IsDots s) :
    u.resolved path = path := by
  cases hbare : u.isBare with
  | true => rw [resolved, if_pos hbare]
  | false =>
      rw [resolved, if_neg (Bool.eq_false_iff.mp hbare)]
      exact normalPath_of_still (h hbare)

/-- What a request is sent for at a settled location without a query is a path like its
    own. -/
theorem Settled.target (hu : u.Settled) (hquery : u.query = none) :
    quoted (Text.ofChars u.target) = Text.ofChars u.target ∧
      (u.isBare = false → ∀ s ∈ Text.pieces slash (Text.ofChars u.target), ¬IsDots s) := by
  unfold Url.target
  rw [hquery, marked, List.append_nil]
  split
  · refine ⟨by decide, fun _ s hs => ?_⟩
    rcases List.mem_cons.mp hs with rfl | hs
    · exact not_isDots_nil
    · exact not_isDots_of_mem_pieces_nil hs
  · exact ⟨hu.written, hu.still⟩

/-- What has been written has no question mark in it. -/
theorem question_not_mem {cs : List Char} (h : quoted (Text.ofChars cs) = Text.ofChars cs) :
    '?' ∉ cs := by
  intro hmem
  refine question_not_mem_quoted (Text.ofChars cs) ?_
  rw [h]
  exact List.mem_map_of_mem hmem

/-! ### Reading -/

/-- A text that begins with one slash is read as a path by itself. -/
theorem read_rooted (ht : t.head? ≠ some slash) (h : read (slash :: t) = .ok u) :
    u.isBare = true ∧
      let (rest, _) := Text.cutAt (.char '#') (slash :: t)
      let (path, query) := Text.cutAt (.char '?') rest
      u.Assembled path query := by
  have hauthority : splitAuthority (slash :: t) = ([], slash :: t) := by
    unfold splitAuthority
    split
    · rename_i heq
      rw [(List.cons.inj heq).2] at ht
      exact absurd rfl ht
    · rfl
  have hscheme : splitScheme (slash :: t) = ([], slash :: t) := rfl
  unfold read at h
  rcases guard_eq_ok_iff.mp h with ⟨-, h⟩
  split at h
  · cases h
  rw [hscheme] at h
  simp only [hauthority] at h
  simp only [bind_eq_ok_iff] at h
  rcases h with ⟨user, huser, host, hhost, port, hport, h⟩
  obtain rfl : [] = user := Except.ok.inj huser
  obtain rfl : none = port := Except.ok.inj hport
  obtain rfl : [] = host := Except.ok.inj (readHost_nil.symm.trans hhost)
  rcases assembled_of_assemble h with ⟨⟨hs, hu, hh, hp⟩, hpath⟩
  refine ⟨?_, hpath⟩
  rw [isBare, hs, hu, hh, hp]
  rfl

theorem settled_of_read (h : read t = .ok u) : u.Settled := by
  unfold read at h
  rcases guard_eq_ok_iff.mp h with ⟨-, h⟩
  split at h
  · cases h
  simp only [bind_eq_ok_iff] at h
  rcases h with ⟨user, -, host, -, port, -, h⟩
  exact (assembled_of_assemble h).2.settled

/-! ### Putting under a base -/

/-- A path is put behind what has no query. -/
theorem withTarget_append {front back : List Char} (hfront : '?' ∉ front)
    (h : u.withTarget (front ++ back) = .ok v) :
    (u.isBare = true → v.isBare = true) ∧
      v.Assembled (Text.ofChars (front ++ (Text.cutAt '?' back).1))
        ((Text.cutAt '?' back).2.map Text.ofChars) := by
  unfold withTarget at h
  rw [Text.cutAt_append '?' hfront] at h
  exact withParts_eq_ok h

/-- Behind a question mark everything is query. -/
theorem query_of_withTarget {target : List Char} (htarget : '?' ∈ target)
    (h : u.withTarget target = .ok v) : v.query ≠ none := by
  unfold withTarget at h
  intro hquery
  have hcut := (withParts_eq_ok h).2.query
  rw [hquery] at hcut
  exact absurd ((Text.cutAt_eq_none_iff '?' target).mp
    (Option.map_eq_none_iff.mp (Option.map_eq_none_iff.mp hcut.symm))) (not_not.mpr htarget)

theorem question_mem_target {q : List Char} (h : u.query = some q) : '?' ∈ u.target := by
  rw [Url.target, h]
  exact List.mem_append_right _ List.mem_cons_self

/-- A location to put others under: its path ends in a slash unless it has a query. -/
structure IsBase (u : Url) : Prop where
  settled : u.Settled
  ends : u.query = none → ∃ place, u.target = place ++ ['/']

theorem settled_of_withTarget {target : List Char} (h : u.withTarget target = .ok v) :
    v.Settled := by
  unfold withTarget at h
  exact (withParts_eq_ok h).2.settled

theorem Settled.asBase {base : Url} (hu : u.Settled) (h : u.asBase = .ok base) : base.IsBase := by
  unfold Url.asBase at h
  split at h
  · rename_i hlast
    obtain rfl := Except.ok.inj h
    exact ⟨hu, fun _ => List.getLast?_eq_some_iff.mp hlast⟩
  refine ⟨settled_of_withTarget h, fun hnone => ⟨u.target, ?_⟩⟩
  cases hquery : u.query with
  | some q =>
      exact absurd hnone
        (query_of_withTarget (List.mem_append_left _ (question_mem_target hquery)) h)
  | none =>
      rcases hu.target hquery with ⟨hwritten, hstill⟩
      rcases withTarget_append (question_not_mem hwritten) h with ⟨hbare, hbase⟩
      have hpath : base.resolved (Text.ofChars u.target ++ [slash])
          = Text.ofChars u.target ++ [slash] := by
        refine resolved_of_still fun hb s hs => ?_
        have hu : u.isBare = false := by
          rw [Bool.eq_false_iff] at hb ⊢
          exact mt hbare hb
        rw [Text.pieces_append, List.mem_append] at hs
        rcases hs with hs | hs
        · exact hstill hu s hs
        · exact not_isDots_of_mem_pieces_nil hs
      have hchars : Text.ofChars base.path = Text.ofChars (u.target ++ ['/']) := by
        rw [hbase.written, Text.ofChars_append]
        change quoted (base.resolved (Text.ofChars u.target ++ [slash])) = _
        rw [hpath, quoted_append, hwritten]
        exact (Text.ofChars_append u.target ['/']).symm
      have hbase : base.path = u.target ++ ['/'] := by
        rw [← Text.chars_ofChars base.path, hchars, Text.chars_ofChars]
      rw [Url.target, hnone, hbase, marked, List.append_nil, if_neg]
      rw [List.isEmpty_iff]
      exact List.append_ne_nil_of_right_ne_nil _ (List.cons_ne_nil _ _)

end Url

end Beacon
