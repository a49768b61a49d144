import Beacon.Proofs.Datum.Place

/-!
# Blanks at the Ends of Lines

A JSON text is read the same, whatever blanks stand at the ends of its lines.

A text may come in lines of which each has lost blanks that it began or ended with, or
has gained some. That does no harm to JSON: a line ends where a blank may stand, because
a string has no line feed in it. Two texts are `Respaced` if they differ in nothing but
the blanks around their line feeds and the blanks they end with. A reader comes to the
same value over both, and is always left with texts that are again respaced.

A value spends as much fuel as its text is long, so two respaced texts do not spend the
same. The induction therefore is on the fuel of one reader, while the other has any
amount that is enough for its own text.

## Main definitions

* `Datum.LineEnd`: Blanks with a line feed among them.
* `Datum.Respaced`: Texts with other blanks around their line feeds and at their end.
* `Datum.Keeps`: A reader comes to the same over respaced texts.

## Theorems

* `Datum.keeps_stringFrom`: No blanks are lost in a string.
* `Datum.follows_scalar`: Words and numbers end where a blank does.
* `Datum.follows_parse`: Values, items and fields are read the same.
* `Datum.parse_respaced`: A whole text is read the same.
* `Datum.parse_join`: Lines of a text may lose blanks that they start and end with.
-/

namespace Beacon

namespace Datum

/-- Nothing but blanks. -/
def Blank (t : Text) : Prop := ∀ p ∈ t, p.isA isJsonBlank = true

/-- Blanks with a line feed among them. -/
structure LineEnd (t : Text) : Prop where
  /-- They are blanks. -/
  blank : Blank t
  /-- A line ends there. -/
  breaks : CodePoint.char '\n' ∈ t

/-- Two texts differ in nothing but the blanks around their line feeds and the blanks
    they end with. -/
inductive Respaced : Text → Text → Prop
  | keep (p : CodePoint) {t t' : Text} (h : Respaced t t') : Respaced (p :: t) (p :: t')
  | gap {b b' t t' : Text} (hb : LineEnd b) (hb' : LineEnd b') (h : Respaced t t') :
      Respaced (b ++ t) (b' ++ t')
  | stop {b b' : Text} (hb : Blank b) (hb' : Blank b') : Respaced b b'

/-- A text starts with the end of a line, or it ends in the blanks it starts with. -/
def Trails (t : Text) : Prop :=
  ∃ b s, t = b ++ s ∧ Blank b ∧ (CodePoint.char '\n' ∈ b ∨ s = [])

/-- Two texts start with the same code point, which is no blank, and are respaced behind
    it, or there is nothing to them. -/
def Aligned (t t' : Text) : Prop :=
  (t = [] ∧ t' = []) ∨
    ∃ p s s', t = p :: s ∧ t' = p :: s' ∧ p.isA isJsonBlank = false ∧ Respaced s s'

/-- A reader of texts comes to the same over respaced texts, and is left with respaced
    texts. -/
def Keeps {α : Type} (read : Text → Option (α × Text)) : Prop :=
  ∀ ⦃t t' : Text⦄, Respaced t t' → ∀ ⦃a : α⦄ ⦃rest : Text⦄, read t = some (a, rest) →
    ∃ rest', read t' = some (a, rest') ∧ Respaced rest rest'

/-- A value that was read once is read again, and what is left is respaced. -/
def Follows (x x' : Except JsonFault (Datum × Text)) : Prop :=
  ∀ ⦃d : Datum⦄ ⦃rest : Text⦄, x = .ok (d, rest) →
    ∃ rest', x' = .ok (d, rest') ∧ Respaced rest rest'

/-! ### Respaced texts -/

theorem blank_append {t u : Text} (ht : Blank t) (hu : Blank u) : Blank (t ++ u) :=
  List.forall_mem_append.mpr ⟨ht, hu⟩

theorem Respaced.symm {t t' : Text} (h : Respaced t t') : Respaced t' t := by
  induction h with
  | keep p _ ih => exact .keep p ih
  | gap hb hb' _ ih => exact .gap hb' hb ih
  | stop hb hb' => exact .stop hb' hb

theorem Respaced.append_left (u : Text) {t t' : Text} (h : Respaced t t') :
    Respaced (u ++ t) (u ++ t') := by
  induction u with
  | nil => exact h
  | cons p u ih => exact .keep p ih

/-- Respaced texts start with the same code point, or both with blanks. -/
theorem Respaced.cases_head {t t' : Text} (h : Respaced t t') :
    (∃ p s s', t = p :: s ∧ t' = p :: s' ∧ Respaced s s') ∨ (Trails t ∧ Trails t') := by
  cases h with
  | keep p h => exact .inl ⟨p, _, _, rfl, rfl, h⟩
  | gap hb hb' h =>
      exact .inr ⟨⟨_, _, rfl, hb.blank, .inl hb.breaks⟩, ⟨_, _, rfl, hb'.blank, .inl hb'.breaks⟩⟩
  | stop hb hb' =>
      exact .inr ⟨⟨_, [], (List.append_nil _).symm, hb, .inr rfl⟩,
        ⟨_, [], (List.append_nil _).symm, hb', .inr rfl⟩⟩

/-- What trails off starts with a blank, if with anything. -/
theorem Trails.head {p : CodePoint} {s : Text} (h : Trails (p :: s)) :
    p.isA isJsonBlank = true := by
  obtain ⟨b, s', hsplit, hb, hend⟩ := h
  cases b with
  | nil =>
      obtain hmem | rfl := hend
      · exact absurd hmem List.not_mem_nil
      · exact absurd hsplit (List.cons_ne_nil p s)
  | cons q b =>
      rw [List.cons_append, List.cons.injEq] at hsplit
      rw [hsplit.1]
      exact hb q List.mem_cons_self

/-- A code point that is no blank stands in respaced texts alike. -/
theorem Respaced.of_cons {p : CodePoint} {s t' : Text} (h : Respaced (p :: s) t')
    (hp : p.isA isJsonBlank = false) : ∃ s', t' = p :: s' ∧ Respaced s s' := by
  obtain ⟨q, r, r', hsplit, rfl, hrest⟩ | ⟨htrails, -⟩ := h.cases_head
  · obtain ⟨rfl, rfl⟩ := List.cons.inj hsplit
    exact ⟨r', rfl, hrest⟩
  · exact absurd (htrails.head.symm.trans hp) Bool.true_eq_false.mp

theorem Respaced.of_append (u : Text) {s t' : Text} (h : Respaced (u ++ s) t')
    (hu : ∀ p ∈ u, p.isA isJsonBlank = false) : ∃ s', t' = u ++ s' ∧ Respaced s s' := by
  induction u generalizing t' with
  | nil => exact ⟨t', rfl, h⟩
  | cons p u ih =>
      rw [List.forall_mem_cons] at hu
      obtain ⟨r', rfl, hrest⟩ := h.of_cons hu.1
      obtain ⟨s', rfl, hs⟩ := ih hrest hu.2
      exact ⟨s', rfl, hs⟩

theorem skipBlanks_append {b : Text} (hb : Blank b) (t : Text) :
    skipBlanks (b ++ t) = skipBlanks t := List.dropWhile_append_of_pos hb

theorem skipBlanks_eq_nil {b : Text} (hb : Blank b) : skipBlanks b = [] :=
  List.dropWhile_eq_nil_iff.mpr hb

/-- Respaced texts without the blanks they start with start alike. -/
theorem Respaced.skipBlanks {t t' : Text} (h : Respaced t t') :
    Aligned (skipBlanks t) (skipBlanks t') := by
  induction h with
  | keep p h ih =>
      by_cases hp : p.isA isJsonBlank = true
      · rwa [Datum.skipBlanks, List.dropWhile_cons_of_pos hp, Datum.skipBlanks,
          List.dropWhile_cons_of_pos hp]
      · rw [Datum.skipBlanks, List.dropWhile_cons_of_neg hp, Datum.skipBlanks,
          List.dropWhile_cons_of_neg hp]
        exact .inr ⟨p, _, _, rfl, rfl, Bool.eq_false_iff.mpr hp, h⟩
  | gap hb hb' _ ih => rwa [skipBlanks_append hb.blank, skipBlanks_append hb'.blank]
  | stop hb hb' => exact .inl ⟨skipBlanks_eq_nil hb, skipBlanks_eq_nil hb'⟩

/-- What stands first in a text stands first in one that is aligned with it. -/
theorem Aligned.of_cons {p : CodePoint} {s t' : Text} (h : Aligned (p :: s) t') :
    ∃ s', t' = p :: s' ∧ Respaced s s' := by
  obtain ⟨hnil, -⟩ | ⟨q, r, r', hsplit, rfl, -, hr⟩ := h
  · exact absurd hnil (List.cons_ne_nil p s)
  · obtain ⟨rfl, rfl⟩ := List.cons.inj hsplit
    exact ⟨r', rfl, hr⟩

/-- What does not stand first in a text does not in one that is aligned with it. -/
theorem Aligned.ne_cons {t t' : Text} (h : Aligned t t') {p : CodePoint}
    (ht : ∀ s, t = p :: s → False) (s' : Text) : t' ≠ p :: s' := by
  rintro rfl
  obtain ⟨-, hnil⟩ | ⟨q, s, r', hsplit, hsplit', -, -⟩ := h
  · exact absurd hnil (List.cons_ne_nil p s')
  · exact ht s (by rw [hsplit, (List.cons.inj hsplit').1])

/-- What cannot be read cannot be read with other blanks. -/
theorem Keeps.eq_none {α : Type} {read : Text → Option (α × Text)} (hread : Keeps read)
    {t t' : Text} (h : Respaced t t') (hnone : read t = none) : read t' = none := by
  cases hread' : read t' with
  | none => rfl
  | some result =>
      obtain ⟨rest, hsome, -⟩ := hread h.symm (a := result.1) hread'
      exact absurd (hnone.symm.trans hsome) (Option.some_ne_none _).symm

/-! ### Strings -/

/-- A string does not end with its line. -/
theorem stringFrom_of_trails {done t : Text} (h : Trails t) : stringFrom 0 done t = none := by
  obtain ⟨b, s, rfl, hb, hend⟩ := h
  induction b generalizing done with
  | nil =>
      obtain hmem | rfl := hend
      · exact absurd hmem List.not_mem_nil
      · rfl
  | cons p b ih =>
      rw [Blank, List.forall_mem_cons] at hb
      cases p with
      | half half => exact absurd hb.1 Bool.false_ne_true
      | char c =>
          have hc : isJsonBlank c = true := hb.1
          simp only [isJsonBlank, Bool.or_eq_true, decide_eq_true_eq] at hc
          -- Of the blanks only a space may stand in a string, and the line goes on behind it.
          rcases hc with ((rfl | rfl) | rfl) | rfl
          · refine ih hb.2 (hend.imp_left fun hmem => ?_)
            exact (List.mem_cons.mp hmem).resolve_left (by decide)
          all_goals rfl

theorem digit?_notBlank {p : CodePoint} {n : Nat} (h : digit? p = some n) :
    p.isA isJsonBlank = false := by
  cases p with
  | half half => rfl
  | char c =>
      refine Bool.eq_false_iff.mpr fun hblank => ?_
      have hc : isJsonBlank c = true := hblank
      simp only [isJsonBlank, Bool.or_eq_true, decide_eq_true_eq] at hc
      -- None of the blanks is a digit.
      rcases hc with ((rfl | rfl) | rfl) | rfl <;> exact absurd h (Option.some_ne_none n).symm

theorem keeps_codeUnit? : Keeps codeUnit? := by
  intro t t' h unit rest hread
  unfold codeUnit? at hread
  split at hread
  · rename_i a b c d more
    simp only [Option.bind_eq_bind, Option.bind_eq_some_iff, Option.pure_def, Option.some.injEq,
      Prod.mk.injEq] at hread
    obtain ⟨m, ha, n, hb, k, hc, l, hd, hunit, rfl⟩ := hread
    have hdigits : ∀ p ∈ [a, b, c, d], p.isA isJsonBlank = false := by
      simp only [List.forall_mem_cons, List.not_mem_nil, false_implies, implies_true, and_true]
      exact ⟨digit?_notBlank ha, digit?_notBlank hb, digit?_notBlank hc, digit?_notBlank hd⟩
    obtain ⟨more', rfl, hmore⟩ := Respaced.of_append [a, b, c, d] h hdigits
    refine ⟨more', ?_, hmore⟩
    simp only [List.cons_append, List.nil_append, codeUnit?, ha, hb, hc, hd, Option.bind_eq_bind,
      Option.bind_some, Option.pure_def, hunit]
  · exact absurd hread (Option.some_ne_none _).symm

/-- Where no second escape follows, a unit stands by itself. -/
theorem pairUnits_of_ne (unit : Nat) {t : Text}
    (h : ∀ more, t ≠ .char '\\' :: .char 'u' :: more) : pairUnits unit t = (.ofNat unit, 0) := by
  unfold pairUnits
  split
  · split
    · exact absurd rfl (h _)
    · rfl
  · rfl

/-- The half that follows a half is the same in respaced texts. -/
theorem pairUnits_respaced (unit : Nat) {t t' : Text} (h : Respaced t t') :
    pairUnits unit t' = pairUnits unit t ∧
      Respaced (t.drop (pairUnits unit t).2) (t'.drop (pairUnits unit t).2) := by
  have hescape : ∀ p ∈ [CodePoint.char '\\', .char 'u'], p.isA isJsonBlank = false := by decide
  by_cases hfirst : ∃ more, t = .char '\\' :: .char 'u' :: more
  · obtain ⟨more, rfl⟩ := hfirst
    obtain ⟨more', rfl, hmore⟩ := Respaced.of_append [.char '\\', .char 'u'] h hescape
    simp only [List.cons_append, List.nil_append] at h ⊢
    cases hunit : codeUnit? more with
    | none =>
        simp only [pairUnits, hunit, keeps_codeUnit?.eq_none hmore hunit, ite_self]
        exact ⟨trivial, h⟩
    | some result =>
        obtain ⟨low, rest⟩ := result
        obtain ⟨rest', hunit', hrest⟩ := keeps_codeUnit? hmore hunit
        obtain ⟨a, b, c, d, rfl, -⟩ := codeUnit?_eq_some hunit
        obtain ⟨a', b', c', d', rfl, -⟩ := codeUnit?_eq_some hunit'
        simp only [pairUnits, hunit, hunit', true_and]
        split
        · split
          · exact hrest
          · exact h
        · exact h
  · have hnone : ∀ more, t ≠ .char '\\' :: .char 'u' :: more := not_exists.mp hfirst
    have hnone' : ∀ more, t' ≠ .char '\\' :: .char 'u' :: more := by
      rintro more rfl
      obtain ⟨more', rfl, -⟩ := Respaced.of_append [.char '\\', .char 'u'] h.symm hescape
      exact hnone more' rfl
    rw [pairUnits_of_ne unit hnone, pairUnits_of_ne unit hnone']
    exact ⟨rfl, h⟩

theorem escaped?_notBlank {e c : Char} (h : escaped? e = some c) : isJsonBlank e = false := by
  refine Bool.eq_false_iff.mpr fun hblank => ?_
  simp only [isJsonBlank, Bool.or_eq_true, decide_eq_true_eq] at hblank
  rcases hblank with ((rfl | rfl) | rfl) | rfl <;> exact absurd h (Option.some_ne_none c).symm

/-- An escape is read the same in respaced texts. -/
theorem escape_respaced {done more more' s rest : Text} (h : Respaced more more')
    (hread : stringFrom 0 done (.char '\\' :: more) = some (s, rest)) :
    ∃ done' t t', Respaced t t' ∧ t.length ≤ more.length ∧
      stringFrom 0 done' t = some (s, rest) ∧
      stringFrom 0 done (.char '\\' :: more') = stringFrom 0 done' t' := by
  have hne : ('\\' : Char) ≠ '"' := by decide
  unfold stringFrom at hread
  simp only [if_neg hne, if_true] at hread
  split at hread
  · rename_i digits
    split at hread
    · exact absurd hread (Option.some_ne_none _).symm
    · rename_i unit after hunit
      obtain ⟨digits', rfl, hdigits⟩ := h.of_cons (by decide)
      obtain ⟨after', hunit', hafter⟩ := keeps_codeUnit? hdigits hunit
      obtain ⟨hpair, hdrop⟩ := pairUnits_respaced unit hafter
      obtain ⟨_, _, _, _, rfl, -⟩ := codeUnit?_eq_some hunit
      obtain ⟨_, _, _, _, rfl, -⟩ := codeUnit?_eq_some hunit'
      rw [stringFrom_skip, ← List.drop_drop] at hread
      refine ⟨_, _, _, hdrop, ?_, hread, ?_⟩
      · rw [List.length_drop, List.length_cons, List.length_cons, List.length_cons,
          List.length_cons, List.length_cons]
        omega
      · conv_lhs => unfold stringFrom
        simp only [if_neg hne, if_true, hunit', hpair]
        rw [stringFrom_skip, ← List.drop_drop]
        rfl
  · rename_i e tail hu
    split at hread
    · rename_i stands hstands
      obtain ⟨tail', rfl, htail⟩ := h.of_cons (escaped?_notBlank hstands)
      rw [stringFrom_skip] at hread
      refine ⟨_, tail, tail', htail, Nat.le_succ _, hread, ?_⟩
      conv_lhs => unfold stringFrom
      simp only [if_neg hne, if_true, hstands]
      rw [stringFrom_skip]
      rfl
    · exact absurd hread (Option.some_ne_none _).symm
  · exact absurd hread (Option.some_ne_none _).symm

/-- A string is read the same in respaced texts: no line ends in it. -/
theorem keeps_stringFrom (done : Text) : Keeps (stringFrom 0 done) := by
  intro t t' h s rest hread
  -- By the length of the text, because an escape takes more than one code point.
  induction hlen : t.length using Nat.strongRecOn generalizing t t' done with
  | ind n ih =>
  obtain ⟨p, more, more', rfl, rfl, hmore⟩ | ⟨htrails, -⟩ := h.cases_head
  · have hshort : more.length < n := by
      rw [← hlen, List.length_cons]
      exact Nat.lt_succ_self _
    cases p with
    | half half =>
        rw [stringFrom] at hread ⊢
        exact ih _ hshort _ hmore hread rfl
    | char c =>
        by_cases hback : c = '\\'
        · subst hback
          obtain ⟨done', u, u', hu, hle, hread', heq⟩ := escape_respaced hmore hread
          rw [heq]
          exact ih _ (Nat.lt_of_le_of_lt hle hshort) _ hu hread' rfl
        · unfold stringFrom at hread ⊢
          simp only [if_neg hback] at hread ⊢
          by_cases hquote : c = '"'
          · rw [if_pos hquote, Option.some.injEq, Prod.mk.injEq] at hread
            obtain ⟨rfl, rfl⟩ := hread
            exact ⟨more', if_pos hquote, hmore⟩
          · rw [if_neg hquote, ite_eq_iff] at hread
            rw [if_neg hquote]
            obtain ⟨-, hread⟩ | ⟨hlow, hread⟩ := hread
            · exact absurd hread (Option.some_ne_none _).symm
            · rw [if_neg hlow]
              exact ih _ hshort _ hmore hread rfl
  · rw [stringFrom_of_trails htrails] at hread
    exact absurd hread (Option.some_ne_none _).symm

/-! ### Numbers and words -/

theorem follows_error (fault : JsonFault) (x : Except JsonFault (Datum × Text)) :
    Follows (.error fault) x := by
  intro d rest h
  exact absurd h (by simp only [reduceCtorEq, not_false_eq_true])

theorem follows_ok (d : Datum) {rest rest' : Text} (h : Respaced rest rest') :
    Follows (.ok (d, rest)) (.ok (d, rest')) := by
  intro e u heq
  rw [Except.ok.injEq, Prod.mk.injEq] at heq
  obtain ⟨rfl, rfl⟩ := heq
  exact ⟨rest', rfl, h⟩

theorem notBlank_of_isDigit {c : Char} (h : isJsonBlank c = true) : c.isDigit = false := by
  simp only [isJsonBlank, Bool.or_eq_true, decide_eq_true_eq] at h
  rcases h with ((rfl | rfl) | rfl) | rfl <;> rfl

theorem spanFrom_of_trails {kind : Char → Bool} {done : List Char} {t : Text}
    (hkind : ∀ c, isJsonBlank c = true → kind c = false) (h : Trails t) :
    Text.spanFrom kind done t = (done.reverse, t) := by
  cases t with
  | nil => rfl
  | cons p s =>
      cases p with
      | half half => rfl
      | char c =>
          have hc : kind c = false := hkind c h.head
          rw [Text.spanFrom, hc, if_neg Bool.false_ne_true]

theorem spanFrom_respaced {kind : Char → Bool} (hkind : ∀ c, isJsonBlank c = true → kind c = false)
    {t t' : Text} (h : Respaced t t') (done : List Char) :
    (Text.spanFrom kind done t').1 = (Text.spanFrom kind done t).1 ∧
      Respaced (Text.spanFrom kind done t).2 (Text.spanFrom kind done t').2 := by
  induction hlen : t.length using Nat.strongRecOn generalizing t t' done with
  | ind n ih =>
  obtain ⟨p, s, s', rfl, rfl, hs⟩ | ⟨ht, ht'⟩ := h.cases_head
  · cases p with
    | half half => exact ⟨rfl, h⟩
    | char c =>
        rw [Text.spanFrom, Text.spanFrom]
        by_cases hc : kind c = true
        · rw [if_pos hc, if_pos hc]
          exact ih s.length (by rw [← hlen]; exact Nat.lt_succ_self _) hs _ rfl
        · rw [if_neg hc, if_neg hc]
          exact ⟨rfl, h⟩
  · rw [spanFrom_of_trails hkind ht, spanFrom_of_trails hkind ht']
    exact ⟨rfl, h⟩

/-- Digits end where a blank stands. -/
theorem span_respaced {t t' rest : Text} {digits : List Char} (h : Respaced t t')
    (hspan : Text.span Char.isDigit t = (digits, rest)) :
    ∃ rest', Text.span Char.isDigit t' = (digits, rest') ∧ Respaced rest rest' := by
  obtain ⟨hdigits, hrest⟩ := spanFrom_respaced (fun _ => notBlank_of_isDigit) h []
  rw [show Text.spanFrom Char.isDigit [] t = (digits, rest) from hspan] at hdigits hrest
  exact ⟨(Text.span Char.isDigit t').2, Prod.ext hdigits rfl, hrest⟩

theorem keeps_fraction? : Keeps fraction? := by
  intro t t' h digits rest hread
  unfold fraction? at hread
  split at hread
  · rename_i more
    obtain ⟨more', rfl, hmore⟩ := h.of_cons (by decide)
    obtain ⟨rest', hspan, hrest⟩ := span_respaced hmore rfl
    simp only [ite_eq_iff, reduceCtorEq, and_false, false_or, Option.some.injEq,
      Prod.mk.injEq] at hread
    obtain ⟨hsome, rfl, rfl⟩ := hread
    refine ⟨rest', ?_, hrest⟩
    simp only [fraction?, hspan]
    exact if_neg hsome
  · exact absurd hread (Option.some_ne_none _).symm

/-- A sign is not far from its digits. -/
theorem takeSign_respaced {t t' : Text} (h : Respaced t t') :
    (takeSign t').1 = (takeSign t).1 ∧ Respaced (takeSign t).2 (takeSign t').2 := by
  have hnone : ∀ {u : Text}, (∀ s, u ≠ .char '-' :: s) → (∀ s, u ≠ .char '+' :: s) →
      takeSign u = (false, u) := by
    intro u hminus hplus
    unfold takeSign
    split
    · exact absurd rfl (hminus _)
    · exact absurd rfl (hplus _)
    · rfl
  have hmark : ∀ (c : Char), isJsonBlank c = false → (∀ s, t ≠ .char c :: s) →
      ∀ s, t' ≠ .char c :: s := by
    rintro c hc ht s rfl
    obtain ⟨s', rfl, -⟩ := h.symm.of_cons hc
    exact ht s' rfl
  by_cases hminus : ∃ s, t = .char '-' :: s
  · obtain ⟨s, rfl⟩ := hminus
    obtain ⟨s', rfl, hs⟩ := h.of_cons (by decide)
    exact ⟨rfl, hs⟩
  by_cases hplus : ∃ s, t = .char '+' :: s
  · obtain ⟨s, rfl⟩ := hplus
    obtain ⟨s', rfl, hs⟩ := h.of_cons (by decide)
    exact ⟨rfl, hs⟩
  · rw [not_exists] at hminus hplus
    rw [hnone hminus hplus, hnone (hmark '-' rfl hminus) (hmark '+' rfl hplus)]
    exact ⟨rfl, h⟩

theorem keeps_power? : Keeps power? := by
  intro t t' h power rest hread
  unfold power? at hread
  split at hread
  · rename_i e more
    simp only [ite_eq_iff, reduceCtorEq, and_false, or_false, false_or, Option.some.injEq,
      Prod.mk.injEq] at hread
    obtain ⟨he, hsome, hpower, rfl⟩ := hread
    have hletter : isJsonBlank e = false := by
      rw [Bool.or_eq_true, decide_eq_true_eq, decide_eq_true_eq] at he
      rcases he with rfl | rfl <;> rfl
    obtain ⟨more', rfl, hmore⟩ := h.of_cons hletter
    obtain ⟨hsign, hafter⟩ := takeSign_respaced hmore
    obtain ⟨rest', hspan, hrest⟩ := span_respaced hafter rfl
    refine ⟨rest', ?_, hrest⟩
    simp only [power?, if_pos he, hsign, hspan]
    refine (if_neg hsome).trans ?_
    rw [Option.some.injEq, Prod.mk.injEq, ite_eq_iff]
    exact ⟨hpower, rfl⟩
  · exact absurd hread (Option.some_ne_none _).symm

/-- The digits of a number before its point, and what follows them. -/
theorem whole_respaced {t t' : Text} {whole : List Char} {rest : Text}
    (hwhole : (match t with
      | .char '0' :: rest => (['0'], rest)
      | _ => Text.span Char.isDigit t) = (whole, rest)) (h : Respaced t t') :
    ∃ rest', (match t' with
      | .char '0' :: rest => (['0'], rest)
      | _ => Text.span Char.isDigit t') = (whole, rest') ∧ Respaced rest rest' := by
  split at hwhole
  · obtain ⟨rfl, rfl⟩ := Prod.mk.inj hwhole
    obtain ⟨rest', rfl, hrest⟩ := h.of_cons (by decide)
    exact ⟨rest', rfl, hrest⟩
  · rename_i hzero
    obtain ⟨rest', hspan, hrest⟩ := span_respaced h hwhole
    refine ⟨rest', ?_, hrest⟩
    split
    · obtain ⟨s, rfl, -⟩ := h.symm.of_cons (by decide)
      exact absurd rfl (hzero s)
    · exact hspan

/-- A number is read the same in respaced texts. -/
theorem follows_number (negative : Bool) {t t' : Text} (h : Respaced t t') :
    Follows (number negative t) (number negative t') := by
  intro d rest hread
  unfold number at hread ⊢
  split at hread
  rename_i whole afterWhole hwhole
  split
  rename_i whole' afterWhole' hwhole'
  obtain ⟨_, hsame, hafter⟩ := whole_respaced hwhole h
  obtain ⟨rfl, rfl⟩ := Prod.mk.inj (hwhole'.symm.trans hsame)
  obtain ⟨fraction, afterFraction, afterFraction', hfraction, hfraction', hrest⟩ :
      ∃ digits r r', (fraction? afterWhole).getD ([], afterWhole) = (digits, r) ∧
        (fraction? afterWhole').getD ([], afterWhole') = (digits, r') ∧ Respaced r r' := by
    cases hread : fraction? afterWhole with
    | none =>
        rw [keeps_fraction?.eq_none hafter hread]
        exact ⟨[], _, _, rfl, rfl, hafter⟩
    | some result =>
        obtain ⟨rest', hread', hrest⟩ := keeps_fraction? hafter (a := result.1) hread
        rw [hread']
        exact ⟨result.1, _, _, rfl, rfl, hrest⟩
  simp only [hfraction, hfraction'] at hread ⊢
  rw [ite_eq_iff] at hread
  obtain ⟨-, hread⟩ | ⟨hsome, hread⟩ := hread
  · exact absurd hread (by simp only [reduceCtorEq, not_false_eq_true])
  rw [if_neg hsome]
  cases hpower : power? afterFraction with
  | some result =>
      obtain ⟨power, rest⟩ := result
      obtain ⟨rest', hpower', hrest'⟩ := keeps_power? hrest hpower
      simp only [hpower, hpower', Except.ok.injEq, Prod.mk.injEq] at hread ⊢
      obtain ⟨rfl, rfl⟩ := hread
      exact ⟨rest', ⟨rfl, rfl⟩, hrest'⟩
  | none =>
      simp only [hpower, keeps_power?.eq_none hrest hpower] at hread ⊢
      by_cases hfrac : fraction.isEmpty = true
      · rw [if_pos hfrac, ite_eq_iff] at hread
        obtain ⟨-, hread⟩ | ⟨hlong, hread⟩ := hread
        · exact absurd hread (by simp only [reduceCtorEq, not_false_eq_true])
        · rw [Except.ok.injEq, Prod.mk.injEq] at hread
          rw [if_pos hfrac, if_neg hlong]
          obtain ⟨rfl, rfl⟩ := hread
          exact ⟨afterWhole', rfl, hafter⟩
      · rw [if_neg hfrac, Except.ok.injEq, Prod.mk.injEq] at hread
        rw [if_neg hfrac]
        obtain ⟨rfl, rfl⟩ := hread
        exact ⟨afterFraction', rfl, hrest⟩

theorem after?_eq_some_iff {word t rest : Text} : after? word t = some rest ↔ t = word ++ rest := by
  rw [after?, ite_eq_iff]
  constructor
  · rintro (⟨hword, h⟩ | ⟨-, h⟩)
    · obtain ⟨s, rfl⟩ := List.isPrefixOf_iff_prefix.mp hword
      rw [List.drop_left, Option.some.injEq] at h
      rw [h]
    · exact absurd h (Option.some_ne_none _).symm
  · rintro rfl
    exact .inl ⟨List.isPrefixOf_iff_prefix.mpr (List.prefix_append _ _), by rw [List.drop_left]⟩

/-- A word is read the same in respaced texts, or what else they are. -/
theorem follows_word {t t' : Text} (h : Respaced t t') (word : String) (d : Datum)
    (hword : (word.toList.all fun c => !isJsonBlank c) = true)
    {other other' : Except JsonFault (Datum × Text)} (hother : Follows other other') :
    Follows
      (match after? word t with
        | some rest => .ok (d, rest)
        | none => other)
      (match after? word t' with
        | some rest => .ok (d, rest)
        | none => other') := by
  have hnotBlank : ∀ p ∈ Text.ofString word, p.isA isJsonBlank = false := by
    intro p hp
    obtain ⟨c, hc, rfl⟩ := List.mem_map.mp hp
    exact Bool.not_eq_true' _ ▸ List.all_eq_true.mp hword c hc
  cases hread : after? word t with
  | some rest =>
      obtain rfl := after?_eq_some_iff.mp hread
      obtain ⟨rest', rfl, hrest⟩ := h.of_append _ hnotBlank
      rw [after?_eq_some_iff.mpr rfl]
      exact follows_ok _ hrest
  | none =>
      cases hread' : after? word t' with
      | none => exact hother
      | some rest' =>
          obtain rfl := after?_eq_some_iff.mp hread'
          obtain ⟨rest, rfl, -⟩ := h.symm.of_append _ hnotBlank
          rw [after?_eq_some_iff.mpr rfl] at hread
          exact absurd hread (Option.some_ne_none _)

/-- Words and numbers are read the same in respaced texts. -/
theorem follows_scalar {t t' : Text} (h : Respaced t t') : Follows (scalar t) (scalar t') := by
  unfold scalar
  refine follows_word h "null" .null rfl ?_
  refine follows_word h "true" (.bool true) rfl ?_
  refine follows_word h "false" (.bool false) rfl ?_
  refine follows_word h "NaN" (.real .nan) rfl ?_
  refine follows_word h "Infinity" (.real (.infinite false)) rfl ?_
  refine follows_word h "-Infinity" (.real (.infinite true)) rfl ?_
  split
  · obtain ⟨rest', rfl, hrest⟩ := h.of_cons (by decide)
    exact follows_number true hrest
  · rename_i hminus
    split
    · obtain ⟨rest, rfl, -⟩ := h.symm.of_cons (by decide)
      exact absurd rfl (hminus rest)
    · exact follows_number false h

/-! ### Values -/

/-- What a value leaves of a text is not longer than the text. -/
theorem length_of_accounts {start room : Nat} {t : Text} {x : Except JsonFault (Datum × Text)}
    (h : Accounts start room t x) {d : Datum} {rest : Text} (hx : x = .ok (d, rest)) :
    rest.length ≤ t.length := by
  subst hx
  obtain ⟨used, rfl, -⟩ := h
  rw [List.length_append]
  exact Nat.le_add_left ..

theorem length_skipBlanks (t : Text) : (skipBlanks t).length ≤ t.length :=
  (List.dropWhile_sublist _).length_le

/-- What stands behind blanks stands behind blanks in a text that is aligned. -/
theorem Aligned.behind {p : CodePoint} {t t' s : Text}
    (h : Aligned (skipBlanks t) (skipBlanks t')) (hs : skipBlanks t = p :: s) :
    ∃ s', skipBlanks t' = p :: s' ∧ Respaced s s' ∧ (skipBlanks s').length < t'.length := by
  rw [hs] at h
  obtain ⟨s', hs', hmore⟩ := h.of_cons
  refine ⟨s', hs', hmore, ?_⟩
  have hlength := length_skipBlanks t'
  have hbehind := length_skipBlanks s'
  rw [hs', List.length_cons] at hlength
  omega

theorem length_stringFrom {t s rest : Text} (h : stringFrom 0 [] t = some (s, rest)) :
    rest.length ≤ t.length := by
  obtain ⟨used, rfl, -⟩ := after_of_stringFrom t [] s rest h
  rw [List.length_append]
  exact Nat.le_add_left ..

/-- What is read is the same, so what is read behind it and behind blanks may be. -/
theorem Follows.andThen {x x' : Except JsonFault (Datum × Text)}
    {next next' : Datum → Text → Except JsonFault (Datum × Text)} :
    Follows x x' → (∀ d rest rest', x' = .ok (d, rest') →
      Aligned (skipBlanks rest) (skipBlanks rest') → Follows (next d rest) (next' d rest')) →
    Follows
      (match x with
        | .error fault => .error fault
        | .ok (d, rest) => next d rest)
      (match x' with
        | .error fault => .error fault
        | .ok (d, rest) => next' d rest) := by
  intro hx hnext
  cases x with
  | error fault => exact follows_error fault _
  | ok result =>
      obtain ⟨d, rest⟩ := result
      obtain ⟨rest', rfl, hrest⟩ := hx rfl
      exact hnext d rest rest' rfl hrest.skipBlanks

section Step

variable {fuel : Nat}
  (hvalue : ∀ fuel' room t t', 2 * t'.length ≤ fuel' → Aligned t t' →
    Follows (parseValue fuel room t) (parseValue fuel' room t'))
  (hitems : ∀ fuel' room done t t', 2 * t'.length + 1 ≤ fuel' → Aligned t t' →
    Follows (parseItems fuel room done t) (parseItems fuel' room done t'))
  (hfields : ∀ fuel' room done t t', 2 * t'.length + 1 ≤ fuel' → Aligned t t' →
    Follows (parseFields fuel room done t) (parseFields fuel' room done t'))

include hitems in
/-- What stands behind an opening bracket of a list. -/
theorem follows_list {fuel' room : Nat} {t t' : Text} :
    2 * t'.length + 1 ≤ fuel' → Aligned t t' → Follows
      (match t with
        | .char ']' :: rest => .ok (.list [], rest)
        | rest => parseItems fuel room [] rest)
      (match t' with
        | .char ']' :: rest => .ok (.list [], rest)
        | rest => parseItems fuel' room [] rest) := by
  intro hfuel h
  split
  · obtain ⟨rest', rfl, hrest⟩ := h.of_cons
    exact follows_ok _ hrest
  · rename_i hclose
    split
    · exact absurd rfl (h.ne_cons hclose _)
    · exact hitems fuel' room [] t t' hfuel h

include hfields in
/-- What stands behind an opening bracket of a record. -/
theorem follows_record {fuel' room : Nat} {t t' : Text} :
    2 * t'.length + 1 ≤ fuel' → Aligned t t' → Follows
      (match t with
        | .char '\x7d' :: rest => .ok (.record [], rest)
        | rest => parseFields fuel room [] rest)
      (match t' with
        | .char '\x7d' :: rest => .ok (.record [], rest)
        | rest => parseFields fuel' room [] rest) := by
  intro hfuel h
  split
  · obtain ⟨rest', rfl, hrest⟩ := h.of_cons
    exact follows_ok _ hrest
  · rename_i hclose
    split
    · exact absurd rfl (h.ne_cons hclose _)
    · exact hfields fuel' room [] t t' hfuel h

include hitems hfields in
theorem follows_value_succ (fuel' room : Nat) (t t' : Text) (hfuel : 2 * t'.length ≤ fuel')
    (h : Aligned t t') : Follows (parseValue (fuel + 1) room t) (parseValue fuel' room t') := by
  obtain ⟨rfl, rfl⟩ | ⟨p, s, s', rfl, rfl, hp, hs⟩ := h
  · -- There is no value in nothing.
    exact follows_error .malformed _
  rw [List.length_cons] at hfuel
  obtain ⟨fuel', rfl⟩ : ∃ k, fuel' = k + 1 := ⟨fuel' - 1, by omega⟩
  have hroom : 2 * (skipBlanks s').length + 1 ≤ fuel' := by
    have hlength := length_skipBlanks s'
    omega
  rw [parseValue.eq_def, parseValue.eq_def]
  simp only
  split
  · rename_i rest heq
    obtain ⟨rfl, rfl⟩ := List.cons.inj heq
    cases hstring : stringFrom 0 [] s with
    | none => exact follows_error .malformed _
    | some result =>
        obtain ⟨rest', hstring', hrest⟩ := keeps_stringFrom [] hs (a := result.1) hstring
        simp only [hstring']
        exact follows_ok _ hrest
  · rename_i rest heq
    obtain ⟨rfl, rfl⟩ := List.cons.inj heq
    cases room with
    | zero => exact follows_error _ _
    | succ room => exact follows_list hitems hroom hs.skipBlanks
  · rename_i rest heq
    obtain ⟨rfl, rfl⟩ := List.cons.inj heq
    cases room with
    | zero => exact follows_error _ _
    | succ room => exact follows_record hfields hroom hs.skipBlanks
  · rename_i hquote hlist hrecord
    split
    · rename_i heq
      exact absurd (congrArg (· :: s) (List.cons.inj heq).1) (hquote s)
    · rename_i heq
      exact absurd (congrArg (· :: s) (List.cons.inj heq).1) (hlist s)
    · rename_i heq
      exact absurd (congrArg (· :: s) (List.cons.inj heq).1) (hrecord s)
    · exact follows_scalar (.keep p hs)

include hvalue hitems in
theorem follows_items_succ (fuel' room : Nat) (done : List Datum) (t t' : Text)
    (hfuel : 2 * t'.length + 1 ≤ fuel') (h : Aligned t t') :
    Follows (parseItems (fuel + 1) room done t) (parseItems fuel' room done t') := by
  obtain ⟨fuel', rfl⟩ : ∃ k, fuel' = k + 1 := ⟨fuel' - 1, by omega⟩
  have hfuel : 2 * t'.length ≤ fuel' := Nat.le_of_succ_le_succ hfuel
  rw [parseItems, parseItems]
  refine (hvalue fuel' room t t' hfuel h).andThen fun d rest rest' hread hrest => ?_
  have hlength := length_of_accounts ((accounts_parse fuel').1 room t') hread
  split
  · rename_i next hnext
    obtain ⟨next', hnext', hmore, hshort⟩ := hrest.behind hnext
    rw [hnext']
    exact hitems fuel' room _ _ _ (by omega) hmore.skipBlanks
  · rename_i next hnext
    obtain ⟨next', hnext', hmore, -⟩ := hrest.behind hnext
    rw [hnext']
    exact follows_ok _ hmore
  · exact follows_error .malformed _

include hvalue hfields in
theorem follows_fields_succ (fuel' room : Nat) (done : List (Text × Datum)) (t t' : Text)
    (hfuel : 2 * t'.length + 1 ≤ fuel') (h : Aligned t t') :
    Follows (parseFields (fuel + 1) room done t) (parseFields fuel' room done t') := by
  obtain ⟨fuel', rfl⟩ : ∃ k, fuel' = k + 1 := ⟨fuel' - 1, by omega⟩
  rw [parseFields.eq_def, parseFields.eq_def]
  simp only
  split
  · rename_i inside
    obtain ⟨inside', rfl, hinside⟩ := h.of_cons
    rw [List.length_cons] at hfuel
    cases hname : stringFrom 0 [] inside with
    | none => exact follows_error .malformed _
    | some result =>
        obtain ⟨name, afterName⟩ := result
        obtain ⟨afterName', hname', hafter⟩ := keeps_stringFrom [] hinside hname
        have hnameLength := length_stringFrom hname'
        simp only [hname']
        split
        · rename_i value hvalueText
          obtain ⟨value', hvalueText', hvalueSpaced, hvalueShort⟩ :=
            hafter.skipBlanks.behind hvalueText
          rw [hvalueText']
          refine (hvalue fuel' room _ _ (by omega) hvalueSpaced.skipBlanks).andThen
            fun d rest rest' hread hrest => ?_
          have hlength := length_of_accounts ((accounts_parse fuel').1 room _) hread
          split
          · rename_i next hnext
            obtain ⟨next', hnext', hmore, hshort⟩ := hrest.behind hnext
            rw [hnext']
            exact hfields fuel' room _ _ _ (by omega) hmore.skipBlanks
          · rename_i next hnext
            obtain ⟨next', hnext', hmore, -⟩ := hrest.behind hnext
            rw [hnext']
            exact follows_ok _ hmore
          · exact follows_error .malformed _
        · exact follows_error .malformed _
  · exact follows_error .malformed _

end Step

/-- Values, items and fields are read the same in respaced texts, if there is enough fuel. -/
theorem follows_parse (fuel : Nat) :
    (∀ fuel' room t t', 2 * t'.length ≤ fuel' → Aligned t t' →
      Follows (parseValue fuel room t) (parseValue fuel' room t')) ∧
    (∀ fuel' room done t t', 2 * t'.length + 1 ≤ fuel' → Aligned t t' →
      Follows (parseItems fuel room done t) (parseItems fuel' room done t')) ∧
    ∀ fuel' room done t t', 2 * t'.length + 1 ≤ fuel' → Aligned t t' →
      Follows (parseFields fuel room done t) (parseFields fuel' room done t') := by
  induction fuel with
  | zero =>
      refine ⟨fun _ _ _ _ _ _ => ?_, fun _ _ _ _ _ _ _ => ?_, fun _ _ _ _ _ _ _ => ?_⟩
      · rw [parseValue]; exact follows_error .malformed _
      · rw [parseItems]; exact follows_error .malformed _
      · rw [parseFields]; exact follows_error .malformed _
  | succ fuel ih =>
      obtain ⟨hvalue, hitems, hfields⟩ := ih
      exact ⟨follows_value_succ hitems hfields, follows_items_succ hvalue hitems,
        follows_fields_succ hvalue hfields⟩

/-- A whole text is read the same if it starts the same and is respaced behind its start. -/
theorem parse_eq_ok {t t' : Text} {d : Datum} (h : Aligned (skipBlanks t) (skipBlanks t'))
    (hparse : parse t = .ok d) : parse t' = .ok d := by
  unfold parse at hparse ⊢
  cases hread : parseValue (2 * t.length + 2) maxDepth (skipBlanks t) with
  | error fault =>
      rw [hread] at hparse
      exact absurd hparse (by simp only [reduceCtorEq, not_false_eq_true])
  | ok result =>
      obtain ⟨e, rest⟩ := result
      have hfuel : 2 * (skipBlanks t').length ≤ 2 * t'.length + 2 := by
        have hlength := length_skipBlanks t'
        omega
      obtain ⟨rest', hread', hrest⟩ := (follows_parse _).1 _ maxDepth _ _ hfuel h hread
      simp only [hread, ite_eq_iff, reduceCtorEq, and_false, or_false, Except.ok.injEq] at hparse
      obtain ⟨hnil, rfl⟩ := hparse
      have hend := hrest.skipBlanks
      rw [List.isEmpty_iff.mp hnil] at hend
      have hend' : skipBlanks rest' = [] := by
        obtain ⟨-, hnil'⟩ | ⟨p, s, s', hcons, -⟩ := hend
        · exact hnil'
        · exact absurd hcons.symm (List.cons_ne_nil p s)
      simp only [hread', hend', List.isEmpty_nil, if_true]

/-- A text is read to a value exactly if a respaced one is read to it. -/
theorem parse_respaced {t t' : Text} (h : Respaced t t') (d : Datum) :
    parse t = .ok d ↔ parse t' = .ok d :=
  ⟨parse_eq_ok h.skipBlanks, parse_eq_ok h.symm.skipBlanks⟩

/-! ### Lines of a text -/

/-- A line that has gained blanks in front and at its end, or not. -/
def Padded (row row' : Text) : Prop :=
  ∃ before behind, row = before ++ (row' ++ behind) ∧ Blank before ∧ Blank behind

theorem join_cons_cons (row next : Text) (rows : List Text) :
    Text.join "\n" (row :: next :: rows) = row ++ ("\n" ++ Text.join "\n" (next :: rows)) := rfl

/-- What a first line starts with stands in front of the whole text. -/
theorem join_append (u row : Text) (rows : List Text) :
    Text.join "\n" ((u ++ row) :: rows) = u ++ Text.join "\n" (row :: rows) := by
  cases rows with
  | nil => rfl
  | cons next rows => exact List.append_assoc u row _

/-- Lines that have gained blanks are respaced. The line before them may have gained blanks
    at its end, and these stand in front of the line feed. -/
theorem respaced_join (row' : Text) {rows rows' : List Text}
    (hrows : List.Forall₂ Padded rows rows') (behind : Text) (hbehind : Blank behind) :
    Respaced (Text.join "\n" ((row' ++ behind) :: rows)) (Text.join "\n" (row' :: rows')) := by
  induction hrows generalizing row' behind with
  | nil =>
      have hstop : Respaced behind [] := .stop hbehind (List.forall_mem_nil _)
      have hrow := hstop.append_left row'
      rwa [List.append_nil] at hrow
  | @cons next next' rows rows' hnext hrows ih =>
      obtain ⟨before, behind', rfl, hbefore, hbehind'⟩ := hnext
      have hend : LineEnd (behind ++ .char '\n' :: before) :=
        ⟨blank_append hbehind (List.forall_mem_cons.mpr ⟨rfl, hbefore⟩),
          List.mem_append_right _ List.mem_cons_self⟩
      have hend' : LineEnd [.char '\n'] :=
        ⟨List.forall_mem_singleton.mpr rfl, List.mem_singleton_self _⟩
      have hjoin := (Respaced.gap hend hend' (ih next' behind' hbehind')).append_left row'
      have hleft : Text.join "\n" ((row' ++ behind) :: (before ++ (next' ++ behind')) :: rows)
          = row' ++ ((behind ++ .char '\n' :: before)
            ++ Text.join "\n" ((next' ++ behind') :: rows)) := by
        rw [join_cons_cons, join_append, List.append_assoc, List.append_assoc]
        rfl
      rw [hleft]
      exact hjoin

/-- Lines of a text may lose blanks that they start and end with. -/
theorem parse_join {rows rows' : List Text} (hrows : List.Forall₂ Padded rows rows') {d : Datum}
    (hparse : parse (Text.join "\n" rows) = .ok d) : parse (Text.join "\n" rows') = .ok d := by
  cases hrows with
  | nil => exact hparse
  | @cons row row' rows rows' hrow hrows =>
      obtain ⟨before, behind, rfl, hbefore, hbehind⟩ := hrow
      refine parse_eq_ok ?_ hparse
      rw [join_append, skipBlanks_append hbefore]
      exact (respaced_join row' hrows behind hbehind).skipBlanks

end Datum

end Beacon
