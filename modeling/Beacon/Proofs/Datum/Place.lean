import Beacon.Proofs.Datum.RoundTrip
import Mathlib.Data.List.Infix
import Mathlib.Data.List.TakeWhile

/-!
# Where a Reader Has Got To

What a text looks like in front of the point at which its reader gives up.

Besides text that is no JSON there are two things at which the reader of JSON gives
up, a number of too many digits and brackets that are nested too deep. Both are
faults of the reader's own, and to tell which texts have them one would like not to
ask the reader. This is possible for the place at which they are found. A place of a
text is told without reading values: it is outside of strings or in one, and so many
brackets have been opened and not closed before it. Whoever goes over a text
character by character knows this much (`Place.after`).

The reader is always where this count says it is. Whatever it has read of a value
leads back to the brackets that were open before, so when it comes to a bracket that
it has no room for, there really are as many brackets open as it allows, and when it
gives up on a number, there really are as many digits, outside of any string.

## Main definitions

* `Place`: A place of a text.
* `Place.after`: The place behind a text.
* `Datum.Nested`: So many brackets at most are open at a time.
* `Datum.HasDigits`: So many digits stand outside of strings.
* `Datum.Leads`: A text leads from so many open brackets to so many.
* `Datum.Accounts`: A text accounts for what its reader says.

## Theorems

* `Datum.leads_string`: A string that is read leads nowhere.
* `Datum.accounts_parse`: A text accounts for what is said of its value.
* `Datum.hasDigits_of_tooManyDigits`: Where a number of too many digits stands.
* `Datum.not_tooDeep`: No fault is found with brackets that are not too many.
-/

namespace Beacon

/-- A place of a JSON text, with the number of brackets that are open there. -/
inductive Place
  /-- Outside of strings. -/
  | outside (opened : Nat)
  /-- In a string. -/
  | inside (opened : Nat)
  /-- In a string, behind a backslash. -/
  | escaped (opened : Nat)
  deriving DecidableEq

namespace Place

/-- The number of brackets that are open at a place. -/
def opened : Place → Nat
  | .outside k => k
  | .inside k => k
  | .escaped k => k

/-- The place behind a code point. -/
def next : Place → CodePoint → Place
  | .outside k, p =>
    if p = .char '"' then .inside k
    else if p = .char '[' ∨ p = .char '\x7b' then .outside (k + 1)
    else if p = .char ']' ∨ p = .char '\x7d' then .outside (k - 1)
    else .outside k
  | .inside k, p =>
    if p = .char '"' then .outside k else if p = .char '\\' then .escaped k else .inside k
  | .escaped k, _ => .inside k

/-- The place behind a text. -/
def after (place : Place) (t : Text) : Place := t.foldl next place

theorem after_append (place : Place) (t u : Text) :
    place.after (t ++ u) = (place.after t).after u := List.foldl_append

theorem after_cons (place : Place) (p : CodePoint) (t : Text) :
    place.after (p :: t) = (place.next p).after t := rfl

end Place

namespace Text

/-- Characters of a kind are taken off the head of a text. -/
theorem spanFrom_spec (kind : Char → Bool) (done : List Char) (t : Text) :
    ∃ cs rest, spanFrom kind done t = (done.reverse ++ cs, rest) ∧ t = ofChars cs ++ rest ∧
      ∀ c ∈ cs, kind c = true := by
  have hnone : ∀ (done : List Char) (rest : Text), ∃ cs more,
      (done.reverse, rest) = (done.reverse ++ cs, more) ∧ rest = ofChars cs ++ more ∧
        ∀ c ∈ cs, kind c = true := by
    intro done rest
    exact ⟨[], rest, by rw [List.append_nil], rfl, List.forall_mem_nil _⟩
  induction t generalizing done with
  | nil => exact hnone done []
  | cons p rest ih =>
      cases p with
      | half h => exact hnone done (.half h :: rest)
      | char c =>
          rw [spanFrom]
          by_cases hc : kind c = true
          · obtain ⟨cs, more, hspan, hsplit, hkind⟩ := ih (c :: done)
            rw [if_pos hc, hspan, List.reverse_cons, List.append_assoc]
            refine ⟨c :: cs, more, rfl, ?_, List.forall_mem_cons.mpr ⟨hc, hkind⟩⟩
            rw [hsplit, ofChars_cons, List.cons_append]
          · rw [if_neg hc]
            exact hnone done (.char c :: rest)

theorem span_spec (kind : Char → Bool) (t : Text) :
    t = ofChars (span kind t).1 ++ (span kind t).2 ∧ ∀ c ∈ (span kind t).1, kind c = true := by
  obtain ⟨cs, rest, hspan, hsplit, hkind⟩ := spanFrom_spec kind [] t
  rw [span, hspan]
  exact ⟨hsplit, hkind⟩

end Text

namespace Datum

/-- At no place of a text more brackets are open than this. -/
def Nested (room : Nat) (t : Text) : Prop :=
  ∀ before, before <+: t → ((Place.outside 0).after before).opened ≤ room

instance (room : Nat) (t : Text) : Decidable (Nested room t) :=
  decidable_of_iff (∀ before ∈ t.inits, ((Place.outside 0).after before).opened ≤ room)
    (by simp only [List.mem_inits, Nested])

/-- So many digits stand in a text one after the other, outside of strings. -/
def HasDigits (count : Nat) (t : Text) : Prop :=
  ∃ before digits rest k, t = before ++ (Text.ofChars digits ++ rest) ∧
    (Place.outside 0).after before = .outside k ∧ (∀ c ∈ digits, c.isDigit = true) ∧
    digits.length = count

/-- A text leads from so many open brackets to so many, however many more there are
    around it. -/
def Leads (start : Nat) (used : Text) (stop : Nat) : Prop :=
  ∀ k, (Place.outside (k + start)).after used = .outside (k + stop)

/-- The bracket that opens a list or a record. -/
def bracket : Nesting → CodePoint
  | .array => .char '['
  | .object => .char '\x7b'

/-- A text accounts for what its reader says, who starts with `start` brackets open
    and has room for `room` more. What was read leads back to no open brackets. A number
    of too many digits stands outside of strings, and where there was a bracket too many,
    all others before it that there is room for are open. -/
def Accounts (start room : Nat) (t : Text) : Except JsonFault (Datum × Text) → Prop
  | .ok (_, rest) => ∃ used, t = used ++ rest ∧ Leads start used 0
  | .error .malformed => True
  | .error (.tooManyDigits count) => ∃ before digits rest stop,
      t = before ++ (Text.ofChars digits ++ rest) ∧ Leads start before stop ∧
        (∀ c ∈ digits, c.isDigit = true) ∧ digits.length = count ∧ Decimal.maxDigits < count
  | .error (.tooDeep nesting) => ∃ before rest,
      t = before ++ bracket nesting :: rest ∧ Leads start before (start + room)

/-! ### Leading on -/

theorem leads_nil (start : Nat) : Leads start [] start := fun _ => rfl

theorem Leads.append {start middle stop : Nat} {t u : Text} (ht : Leads start t middle)
    (hu : Leads middle u stop) : Leads start (t ++ u) stop := by
  intro k
  rw [Place.after_append, ht k, hu k]

/-- What leads somewhere does so inside of more brackets. -/
theorem Leads.lift {start stop : Nat} {t : Text} (h : Leads start t stop) :
    Leads (start + 1) t (stop + 1) := by
  intro k
  have hmore := h (k + 1)
  rwa [Nat.add_assoc, Nat.add_comm 1, Nat.add_assoc, Nat.add_comm 1] at hmore

/-- The brackets and the quote. -/
def marks : List Char := ['"', '[', ']', '\x7b', '\x7d']

/-- A code point that neither is a bracket nor a quote. -/
def isPlain (p : CodePoint) : Bool := !p.isA marks.contains

/-- A code point outside of strings that is plain makes no difference. -/
theorem next_of_plain (k : Nat) (p : CodePoint) (h : isPlain p = true) :
    (Place.outside k).next p = .outside k := by
  have hne : ∀ c ∈ marks, p ≠ .char c := by
    rintro c hc rfl
    rw [isPlain, CodePoint.isA, List.contains_iff_mem.mpr hc] at h
    exact Bool.false_ne_true h
  simp only [marks, List.forall_mem_cons] at hne
  obtain ⟨hquote, hopen, hclose, hbrace, hend, -⟩ := hne
  rw [Place.next, if_neg hquote, if_neg (not_or.mpr ⟨hopen, hbrace⟩),
    if_neg (not_or.mpr ⟨hclose, hend⟩)]

theorem leads_plain (start : Nat) (t : Text) (h : ∀ p ∈ t, isPlain p = true) :
    Leads start t start := by
  intro k
  induction t with
  | nil => rfl
  | cons p rest ih =>
      rw [List.forall_mem_cons] at h
      rw [Place.after_cons, next_of_plain _ p h.1]
      exact ih h.2

/-- A text that is plain opens no brackets. -/
theorem nested_of_plain (room : Nat) (t : Text) (h : ∀ p ∈ t, isPlain p = true) :
    Nested room t := by
  intro before hbefore
  have hplace := leads_plain 0 before (fun p hp => h p (hbefore.subset hp)) 0
  rw [hplace]
  exact Nat.zero_le room

/-- A character of a kind that has no marks is plain. -/
theorem isPlain_char {kind : Char → Bool} {c : Char} (h : kind c = true)
    (hmarks : marks.any kind = false) : isPlain (.char c) = true := by
  rw [isPlain, CodePoint.isA, Bool.not_eq_true', ← Bool.not_eq_true, List.contains_iff_mem]
  intro hmem
  exact List.any_eq_false.mp hmarks c hmem h

theorem plain_ofChars {kind : Char → Bool} {cs : List Char} (h : ∀ c ∈ cs, kind c = true)
    (hmarks : marks.any kind = false) : ∀ p ∈ Text.ofChars cs, isPlain p = true := by
  intro p hp
  obtain ⟨c, hc, rfl⟩ := List.mem_map.mp hp
  exact isPlain_char (h c hc) hmarks

/-- What stands in front of the rest of a text is plain. -/
def PlainUpTo (t rest : Text) : Prop := ∃ used, t = used ++ rest ∧ ∀ p ∈ used, isPlain p = true

theorem PlainUpTo.refl (t : Text) : PlainUpTo t t := ⟨[], rfl, List.forall_mem_nil _⟩

theorem PlainUpTo.trans {t u rest : Text} (ht : PlainUpTo t u) (hu : PlainUpTo u rest) :
    PlainUpTo t rest := by
  obtain ⟨used, rfl, hused⟩ := ht
  obtain ⟨more, rfl, hmore⟩ := hu
  exact ⟨used ++ more, (List.append_assoc ..).symm, List.forall_mem_append.mpr ⟨hused, hmore⟩⟩

theorem PlainUpTo.cons {p : CodePoint} {t : Text} (h : isPlain p = true) :
    PlainUpTo (p :: t) t := ⟨[p], rfl, List.forall_mem_singleton.mpr h⟩

theorem PlainUpTo.leads {t rest : Text} (h : PlainUpTo t rest) (start : Nat) :
    ∃ used, t = used ++ rest ∧ Leads start used start := by
  obtain ⟨used, hsplit, hused⟩ := h
  exact ⟨used, hsplit, leads_plain start used hused⟩

/-- Blanks are plain. -/
theorem plainUpTo_skipBlanks (t : Text) : PlainUpTo t (skipBlanks t) := by
  refine ⟨t.takeWhile (CodePoint.isA isJsonBlank), List.takeWhile_append_dropWhile.symm, ?_⟩
  intro p hp
  have hblank := List.mem_takeWhile_imp hp
  cases p with
  | half _ => rfl
  | char c =>
      have hc : isJsonBlank c = true := hblank
      exact isPlain_char hc rfl

/-- Characters of a kind that has no marks are plain. -/
theorem plainUpTo_span {kind : Char → Bool} (hmarks : marks.any kind = false) (t : Text) :
    PlainUpTo t (Text.span kind t).2 := by
  obtain ⟨hsplit, hkind⟩ := Text.span_spec kind t
  exact ⟨_, hsplit, plain_ofChars hkind hmarks⟩

/-! ### Strings -/

/-- Code points that an escape has accounted for are left out. -/
theorem stringFrom_skip (skip : Nat) (done t : Text) :
    stringFrom skip done t = stringFrom 0 done (t.drop skip) := by
  induction t generalizing skip with
  | nil =>
      rw [List.drop_nil, stringFrom, stringFrom]
  | cons p rest ih =>
      cases skip with
      | zero => rfl
      | succ skip =>
          rw [List.drop_succ_cons, ← ih skip]
          rfl

theorem digit?_ne {p : CodePoint} {n : Nat} (h : digit? p = some n) :
    p ≠ .char '"' ∧ p ≠ .char '\\' := by
  have hquote : digit? (.char '"') = none := rfl
  have hback : digit? (.char '\\') = none := rfl
  constructor
  · rintro rfl
    rw [hquote] at h
    exact absurd h (by simp only [reduceCtorEq, not_false_eq_true])
  · rintro rfl
    rw [hback] at h
    exact absurd h (by simp only [reduceCtorEq, not_false_eq_true])

theorem next_of_digit (k : Nat) {p : CodePoint} {n : Nat} (h : digit? p = some n) :
    (Place.inside k).next p = .inside k := by
  obtain ⟨hquote, hback⟩ := digit?_ne h
  rw [Place.next, if_neg hquote, if_neg hback]

/-- Four hexadecimal digits in a string make no difference. -/
theorem codeUnit?_eq_some {t rest : Text} {unit : Nat} (h : codeUnit? t = some (unit, rest)) :
    ∃ a b c d, t = a :: b :: c :: d :: rest ∧
      ∀ k, (Place.inside k).after [a, b, c, d] = .inside k := by
  unfold codeUnit? at h
  split at h
  · rename_i a b c d more
    simp only [Option.bind_eq_bind, Option.bind_eq_some_iff, Option.pure_def, Option.some.injEq,
      Prod.mk.injEq] at h
    obtain ⟨_, ha, _, hb, _, hc, _, hd, -, rfl⟩ := h
    refine ⟨a, b, c, d, rfl, fun k => ?_⟩
    simp only [Place.after_cons, next_of_digit k ha, next_of_digit k hb, next_of_digit k hc,
      next_of_digit k hd]
    rfl
  · exact absurd h (by simp only [reduceCtorEq, not_false_eq_true])

/-- What is used of a text behind the escape of a unit is another escape or nothing. -/
theorem pairUnits_used (unit : Nat) (rest : Text) :
    ∃ used, rest = used ++ rest.drop (pairUnits unit rest).2 ∧
      ∀ k, (Place.inside k).after used = .inside k := by
  have hnothing : ∃ used, rest = used ++ rest.drop 0 ∧
      ∀ k, (Place.inside k).after used = .inside k := ⟨[], rfl, fun _ => rfl⟩
  unfold pairUnits
  split
  · split
    · rename_i more
      split
      · rename_i low _ hlow
        split
        · obtain ⟨a, b, c, d, rfl, hdigits⟩ := codeUnit?_eq_some hlow
          refine ⟨[.char '\\', .char 'u', a, b, c, d], rfl, fun k => ?_⟩
          exact hdigits k
        · exact hnothing
      · exact hnothing
    · exact hnothing
  · exact hnothing

/-- An escape that is read leads back into the string. -/
theorem exists_of_escape (done more s rest : Text)
    (h : stringFrom 0 done (.char '\\' :: more) = some (s, rest)) :
    ∃ used more' done', more = used ++ more' ∧
      (∀ k, (Place.escaped k).after used = .inside k) ∧
      stringFrom 0 done' more' = some (s, rest) := by
  have hne : ('\\' : Char) ≠ '"' := by decide
  unfold stringFrom at h
  simp only [if_neg hne, if_true] at h
  split at h
  · -- A code unit, and the escape of its other half if one follows.
    rename_i digits
    split at h
    · exact absurd h (by simp only [reduceCtorEq, not_false_eq_true])
    · rename_i unit after hunit
      obtain ⟨a, b, c, d, rfl, hdigits⟩ := codeUnit?_eq_some hunit
      obtain ⟨used, hafter, hused⟩ := pairUnits_used unit after
      rw [stringFrom_skip, ← List.drop_drop] at h
      refine ⟨.char 'u' :: ([a, b, c, d] ++ used), after.drop (pairUnits unit after).2,
        (pairUnits unit after).1 :: done,
        congrArg (.char 'u' :: a :: b :: c :: d :: ·) hafter, fun k => ?_, h⟩
      rw [Place.after_cons, Place.next, Place.after_append, hdigits k, hused k]
  · -- Any other escape is one letter.
    rename_i e rest' _
    split at h
    · rename_i stands _
      rw [stringFrom_skip] at h
      exact ⟨[.char e], rest', .char stands :: done, rfl, fun _ => rfl, h⟩
    · exact absurd h (by simp only [reduceCtorEq, not_false_eq_true])
  · exact absurd h (by simp only [reduceCtorEq, not_false_eq_true])

/-- A string that is read ends at its closing quote. -/
theorem after_of_stringFrom (t : Text) (done s rest : Text)
    (h : stringFrom 0 done t = some (s, rest)) :
    ∃ used, t = used ++ rest ∧ ∀ k, (Place.inside k).after used = .outside k := by
  -- By the length of the text, because an escape takes more than one code point.
  induction hlen : t.length using Nat.strongRecOn generalizing t done with
  | ind n ih =>
  -- Whatever is read first, the rest of the text is shorter.
  have hmore : ∀ (first : Text) (t' done' : Text), t = first ++ t' → first ≠ [] →
      (∀ k, (Place.inside k).after first = .inside k) →
      stringFrom 0 done' t' = some (s, rest) →
      ∃ used, t = used ++ rest ∧ ∀ k, (Place.inside k).after used = .outside k := by
    intro first t' done' hsplit hne hfirst hread
    have hpos := List.length_pos_iff.mpr hne
    have hshort : t'.length < n := by
      rw [← hlen, hsplit, List.length_append]
      omega
    obtain ⟨used, rfl, hused⟩ := ih t'.length hshort t' done' hread rfl
    refine ⟨first ++ used, by rw [hsplit, List.append_assoc], fun k => ?_⟩
    rw [Place.after_append, hfirst k, hused k]
  cases t with
  | nil => exact absurd h (by simp only [stringFrom, reduceCtorEq, not_false_eq_true])
  | cons p more =>
      cases p with
      | half half =>
          rw [stringFrom] at h
          exact hmore [.half half] more _ rfl (List.cons_ne_nil _ _) (fun _ => rfl) h
      | char c =>
          by_cases hback : c = '\\'
          · subst hback
            obtain ⟨used, more', done', rfl, hused, hread⟩ := exists_of_escape done more s rest h
            exact hmore (.char '\\' :: used) more' done' rfl (List.cons_ne_nil _ _) hused hread
          unfold stringFrom at h
          simp only [if_neg hback] at h
          by_cases hquote : c = '"'
          · -- The closing quote is the only way out of the string.
            rw [if_pos hquote, Option.some.injEq, Prod.mk.injEq] at h
            obtain ⟨-, rfl⟩ := h
            exact ⟨[.char c], rfl, fun k => by rw [hquote]; rfl⟩
          rw [if_neg hquote, ite_eq_iff] at h
          obtain ⟨-, h⟩ | ⟨-, h⟩ := h
          · exact absurd h (by simp only [reduceCtorEq, not_false_eq_true])
          · refine hmore [.char c] more _ rfl (List.cons_ne_nil _ _) (fun k => ?_) h
            rw [Place.after_cons, Place.next, if_neg (by rwa [CodePoint.char.injEq]),
              if_neg (by rwa [CodePoint.char.injEq])]
            rfl

/-- A string leads nowhere, quotes included. -/
theorem leads_string (start : Nat) (t s rest : Text) (h : stringFrom 0 [] t = some (s, rest)) :
    ∃ used, .char '"' :: t = used ++ rest ∧ Leads start used start := by
  obtain ⟨used, rfl, hused⟩ := after_of_stringFrom t [] s rest h
  exact ⟨.char '"' :: used, rfl, fun k => hused (k + start)⟩

/-! ### Numbers and words -/

theorem any_isDigit_marks : marks.any Char.isDigit = false := rfl

theorem plainUpTo_fraction? {t rest : Text} {digits : List Char}
    (h : fraction? t = some (digits, rest)) : PlainUpTo t rest := by
  unfold fraction? at h
  split at h
  · rename_i more
    simp only at h
    rw [ite_eq_iff] at h
    obtain ⟨-, h⟩ | ⟨-, h⟩ := h
    · exact absurd h (by simp only [reduceCtorEq, not_false_eq_true])
    · rw [Option.some.injEq, Prod.mk.injEq] at h
      rw [← h.2]
      exact (PlainUpTo.cons (by decide)).trans (plainUpTo_span any_isDigit_marks more)
  · exact absurd h (by simp only [reduceCtorEq, not_false_eq_true])

theorem plainUpTo_takeSign (t : Text) : PlainUpTo t (takeSign t).2 := by
  unfold takeSign
  split
  · exact .cons (by decide)
  · exact .cons (by decide)
  · exact .refl t

theorem plainUpTo_power? {t rest : Text} {power : Int} (h : power? t = some (power, rest)) :
    PlainUpTo t rest := by
  unfold power? at h
  split at h
  · rename_i e more
    simp only [ite_eq_iff, reduceCtorEq, and_false, or_false, Option.some.injEq, Prod.mk.injEq,
      false_or] at h
    obtain ⟨he, -, -, rfl⟩ := h
    have hletter : ∀ c, (c = 'e' || c = 'E') = true → isPlain (.char c) = true := by
      intro c hc
      rw [Bool.or_eq_true, decide_eq_true_eq, decide_eq_true_eq] at hc
      rcases hc with rfl | rfl <;> decide
    exact (PlainUpTo.cons (hletter e he)).trans
      ((plainUpTo_takeSign more).trans (plainUpTo_span any_isDigit_marks _))
  · exact absurd h (by simp only [reduceCtorEq, not_false_eq_true])

/-- The digits of a number before its point stand where it starts. -/
theorem whole_spec (t : Text) (whole : List Char × Text)
    (h : (match t with
      | .char '0' :: rest => (['0'], rest)
      | _ => Text.span Char.isDigit t) = whole) :
    t = Text.ofChars whole.1 ++ whole.2 ∧ ∀ c ∈ whole.1, c.isDigit = true := by
  subst h
  split
  · exact ⟨rfl, List.forall_mem_singleton.mpr rfl⟩
  · exact Text.span_spec Char.isDigit t

/-- What was read of a number leads nowhere, and the digits of one that has too many
    stand where it starts. -/
theorem accounts_number (room : Nat) (negative : Bool) (t : Text) :
    Accounts 0 room t (number negative t) := by
  unfold number
  split
  rename_i digits rest hwhole
  obtain ⟨rfl, hdigits⟩ := whole_spec t (digits, rest) hwhole
  have hplain : PlainUpTo (Text.ofChars digits ++ rest) rest :=
    ⟨_, rfl, plain_ofChars hdigits any_isDigit_marks⟩
  have hfraction : PlainUpTo rest ((fraction? rest).getD ([], rest)).2 := by
    cases h : fraction? rest with
    | none => exact .refl rest
    | some fraction => exact plainUpTo_fraction? h
  simp only
  split
  · trivial
  · split
    · rename_i hpower
      exact (hplain.trans (hfraction.trans (plainUpTo_power? hpower))).leads 0
    · split
      · -- Digits are counted only where neither a fraction nor an exponent follows.
        rename_i hempty
        split
        · exact ⟨[], digits, rest, 0, rfl, leads_nil 0, hdigits, rfl, by assumption⟩
        · exact hplain.leads 0
      · exact (hplain.trans hfraction).leads 0

/-- A word without marks that a text starts with is plain. -/
theorem plainUpTo_after? {word t rest : Text} (hword : ∀ p ∈ word, isPlain p = true)
    (h : after? word t = some rest) : PlainUpTo t rest := by
  rw [after?, ite_eq_iff] at h
  obtain ⟨hstarts, h⟩ | ⟨-, h⟩ := h
  · rw [Option.some.injEq] at h
    obtain ⟨more, rfl⟩ := List.isPrefixOf_iff_prefix.mp hstarts
    rw [← h, List.drop_left]
    exact ⟨word, rfl, hword⟩
  · exact absurd h (by simp only [reduceCtorEq, not_false_eq_true])

/-- What leads on may stand in front of a text that accounts for what is said. -/
theorem Accounts.after {start middle room more : Nat} {used t : Text}
    {x : Except JsonFault (Datum × Text)} (h : Accounts middle more t x)
    (hused : Leads start used middle) (hroom : middle + more = start + room) :
    Accounts start room (used ++ t) x := by
  cases x with
  | ok result =>
      obtain ⟨rest, rfl, hrest⟩ := h
      exact ⟨used ++ rest, (List.append_assoc ..).symm, hused.append hrest⟩
  | error fault =>
      cases fault with
      | malformed => trivial
      | tooManyDigits count =>
          obtain ⟨before, digits, rest, stop, rfl, hbefore, hdigits⟩ := h
          exact ⟨used ++ before, digits, rest, stop, (List.append_assoc ..).symm,
            hused.append hbefore, hdigits⟩
      | tooDeep nesting =>
          obtain ⟨before, rest, rfl, hbefore⟩ := h
          rw [hroom] at hbefore
          exact ⟨used ++ before, rest, (List.append_assoc ..).symm, hused.append hbefore⟩

/-- What is plain may stand in front of a text that accounts for what is said. -/
theorem Accounts.afterPlain {start room : Nat} {t u : Text}
    {x : Except JsonFault (Datum × Text)} (h : Accounts start room u x) (hplain : PlainUpTo t u) :
    Accounts start room t x := by
  obtain ⟨used, rfl, hused⟩ := hplain.leads start
  exact h.after hused rfl

/-- A word is read, or what else the text is. -/
theorem accounts_word {room : Nat} {t : Text} {other : Except JsonFault (Datum × Text)}
    (word : String) (d : Datum) (hword : (word.toList.all fun c => isPlain (.char c)) = true)
    (hother : Accounts 0 room t other) :
    Accounts 0 room t (match after? word t with
      | some rest => .ok (d, rest)
      | none => other) := by
  split
  · rename_i rest h
    have hplain : ∀ p ∈ Text.ofString word, isPlain p = true :=
      plain_ofChars (List.all_eq_true.mp hword) rfl
    exact (plainUpTo_after? hplain h).leads 0
  · exact hother

/-- What was read of a word or a number leads nowhere. -/
theorem accounts_scalar (room : Nat) (t : Text) : Accounts 0 room t (scalar t) := by
  unfold scalar
  refine accounts_word "null" .null rfl ?_
  refine accounts_word "true" (.bool true) rfl ?_
  refine accounts_word "false" (.bool false) rfl ?_
  refine accounts_word "NaN" (.real .nan) rfl ?_
  refine accounts_word "Infinity" (.real (.infinite false)) rfl ?_
  refine accounts_word "-Infinity" (.real (.infinite true)) rfl ?_
  split
  · rename_i rest
    exact (accounts_number room true rest).afterPlain (.cons (by decide))
  · exact accounts_number room false t

/-- A mark that is plain, and the blanks behind it, may stand in front. -/
theorem Accounts.afterMark {start room : Nat} {p : CodePoint} {t : Text}
    {x : Except JsonFault (Datum × Text)} (h : Accounts start room (skipBlanks t) x)
    (hp : isPlain p = true) : Accounts start room (p :: t) x :=
  h.afterPlain ((PlainUpTo.cons hp).trans (plainUpTo_skipBlanks t))

/-! ### Values -/

/-- A bracket that opens leads into it. -/
theorem leads_open (nesting : Nesting) : Leads 0 [bracket nesting] 1 := by
  intro k
  cases nesting <;> rfl

/-- A bracket that closes leads out of it. -/
theorem leads_close (p : CodePoint) (h : p = .char ']' ∨ p = .char '\x7d') : Leads 1 [p] 0 := by
  intro k
  rcases h with rfl | rfl <;> rfl

/-- What a text accounts for it accounts for inside of one more bracket. -/
theorem Accounts.lift {room : Nat} {t : Text} {fault : JsonFault}
    (h : Accounts 0 room t (.error fault)) : Accounts 1 room t (.error fault) := by
  cases fault with
  | malformed => trivial
  | tooManyDigits count =>
      obtain ⟨before, digits, rest, stop, hsplit, hbefore, hdigits⟩ := h
      exact ⟨before, digits, rest, stop + 1, hsplit, hbefore.lift, hdigits⟩
  | tooDeep nesting =>
      obtain ⟨before, rest, hsplit, hbefore⟩ := h
      have hlift := hbefore.lift
      rw [Nat.add_right_comm] at hlift
      exact ⟨before, rest, hsplit, hlift⟩

/-- A value inside of brackets, and what is read behind it and behind blanks. -/
theorem Accounts.andThen {room : Nat} {t : Text} {x : Except JsonFault (Datum × Text)}
    {next : Datum → Text → Except JsonFault (Datum × Text)} :
    Accounts 0 room t x → (∀ d rest, Accounts 1 room (skipBlanks rest) (next d rest)) →
    Accounts 1 room t (match x with
      | .error fault => .error fault
      | .ok (d, rest) => next d rest) := by
  intro h hnext
  cases x with
  | error fault => exact h.lift
  | ok result =>
      obtain ⟨d, rest⟩ := result
      obtain ⟨used, rfl, hused⟩ := h
      have hrest := (hnext d rest).afterPlain (plainUpTo_skipBlanks rest)
      exact hrest.after hused.lift rfl

/-- Where there is no room for a bracket, all that there is room for are open. -/
theorem accounts_tooDeep (nesting : Nesting) (rest : Text) :
    Accounts 0 0 (bracket nesting :: rest) (.error (.tooDeep nesting)) :=
  ⟨[], rest, rfl, leads_nil 0⟩

/-- A bracket takes from the room what it adds to the brackets that are open. -/
theorem Accounts.inBracket {room : Nat} {rest : Text} {x : Except JsonFault (Datum × Text)}
    (nesting : Nesting) (h : Accounts 1 room (skipBlanks rest) x) :
    Accounts 0 (room + 1) (bracket nesting :: rest) x := by
  have hrest := h.afterPlain (plainUpTo_skipBlanks rest)
  exact hrest.after (leads_open nesting) (by omega)

section Step

variable {fuel : Nat}
  (hvalue : ∀ room t, Accounts 0 room t (parseValue fuel room t))
  (hitems : ∀ room done t, Accounts 1 room t (parseItems fuel room done t))
  (hfields : ∀ room done t, Accounts 1 room t (parseFields fuel room done t))

include hitems hfields in
theorem accounts_value_succ (room : Nat) (t : Text) :
    Accounts 0 room t (parseValue (fuel + 1) room t) := by
  rw [parseValue.eq_def]
  simp only
  split
  · rename_i rest
    cases h : stringFrom 0 [] rest with
    | none => trivial
    | some result => exact leads_string 0 rest result.1 result.2 h
  · rename_i rest
    cases room with
    | zero => exact accounts_tooDeep .array rest
    | succ room =>
        refine Accounts.inBracket .array ?_
        simp only
        split
        · rename_i rest hrest
          exact ⟨[.char ']'], hrest, leads_close _ (.inl rfl)⟩
        · exact hitems room [] (skipBlanks rest)
  · rename_i rest
    cases room with
    | zero => exact accounts_tooDeep .object rest
    | succ room =>
        refine Accounts.inBracket .object ?_
        simp only
        split
        · rename_i rest hrest
          exact ⟨[.char '\x7d'], hrest, leads_close _ (.inr rfl)⟩
        · exact hfields room [] (skipBlanks rest)
  · exact accounts_scalar room t

include hvalue hitems in
theorem accounts_items_succ (room : Nat) (done : List Datum) (t : Text) :
    Accounts 1 room t (parseItems (fuel + 1) room done t) := by
  rw [parseItems]
  refine Accounts.andThen (hvalue room t) fun d rest => ?_
  split
  · rename_i next hnext
    rw [hnext]
    exact (hitems room (d :: done) (skipBlanks next)).afterMark (by decide)
  · rename_i next hnext
    exact ⟨[.char ']'], hnext, leads_close _ (.inl rfl)⟩
  · trivial

include hvalue hfields in
theorem accounts_fields_succ (room : Nat) (done : List (Text × Datum)) (t : Text) :
    Accounts 1 room t (parseFields (fuel + 1) room done t) := by
  rw [parseFields.eq_def]
  simp only
  split
  · rename_i rest
    cases hname : stringFrom 0 [] rest with
    | none => trivial
    | some result =>
        obtain ⟨name, afterName⟩ := result
        obtain ⟨used, hsplit, hused⟩ := leads_string 1 rest name afterName hname
        rw [hsplit]
        refine Accounts.after ?_ hused rfl
        refine Accounts.afterPlain ?_ (plainUpTo_skipBlanks afterName)
        simp only
        split
        · rename_i inner hinner
          rw [hinner]
          refine Accounts.afterMark ?_ (by decide)
          refine Accounts.andThen (hvalue room (skipBlanks inner)) fun d rest => ?_
          split
          · rename_i next hnext
            rw [hnext]
            exact (hfields room (put name d done) (skipBlanks next)).afterMark (by decide)
          · rename_i next hnext
            exact ⟨[.char '\x7d'], hnext, leads_close _ (.inr rfl)⟩
          · trivial
        · trivial
  · trivial

end Step

/-- A text accounts for what is said of its value, of its items and of its fields. -/
theorem accounts_parse (fuel : Nat) :
    (∀ room t, Accounts 0 room t (parseValue fuel room t)) ∧
      (∀ room done t, Accounts 1 room t (parseItems fuel room done t)) ∧
      ∀ room done t, Accounts 1 room t (parseFields fuel room done t) := by
  induction fuel with
  | zero =>
      refine ⟨fun room t => ?_, fun room done t => ?_, fun room done t => ?_⟩
      · rw [parseValue]; trivial
      · rw [parseItems]; trivial
      · rw [parseFields]; trivial
  | succ fuel ih =>
      obtain ⟨hvalue, hitems, hfields⟩ := ih
      exact ⟨accounts_value_succ hitems hfields, accounts_items_succ hvalue hitems,
        accounts_fields_succ hvalue hfields⟩

/-- What a whole text accounts for. -/
theorem accounts_of_parse_eq_error (t : Text) (fault : JsonFault) (h : parse t = .error fault) :
    Accounts 0 maxDepth t (.error fault) := by
  unfold parse at h
  cases hvalue : parseValue (2 * t.length + 2) maxDepth (skipBlanks t) with
  | error found =>
      rw [hvalue, Except.error.injEq] at h
      have hfound := (accounts_parse (2 * t.length + 2)).1 maxDepth (skipBlanks t)
      rw [hvalue, h] at hfound
      exact hfound.afterPlain (plainUpTo_skipBlanks t)
  | ok result =>
      -- Behind a value only something else than blanks can be wrong.
      simp only [hvalue, ite_eq_iff, reduceCtorEq, and_false, false_or, Except.error.injEq] at h
      rw [← h.2]
      trivial

/-- The digits of a number that has too many stand outside of strings. -/
theorem hasDigits_of_tooManyDigits (t : Text) (count : Nat)
    (h : parse t = .error (.tooManyDigits count)) :
    HasDigits count t ∧ Decimal.maxDigits < count := by
  obtain ⟨before, digits, rest, k, hsplit, hbefore, hdigits, hcount, hmany⟩ :=
    accounts_of_parse_eq_error t _ h
  have hplace : (Place.outside 0).after before = .outside k := by
    simpa only [Nat.zero_add] using hbefore 0
  exact ⟨⟨before, digits, rest, k, hsplit, hplace, hdigits, hcount⟩, hmany⟩

/-- No bracket is too many for brackets that are not nested too deep. -/
theorem not_tooDeep (t : Text) (hnested : Nested maxDepth t) (nesting : Nesting) :
    parse t ≠ .error (.tooDeep nesting) := by
  intro h
  obtain ⟨before, rest, rfl, hbefore⟩ := accounts_of_parse_eq_error t _ h
  -- With the bracket that there is no room for, one more is open than may be.
  have hopened := hnested (before ++ [bracket nesting]) ⟨rest, by rw [List.append_assoc]; rfl⟩
  have hplace : (Place.outside 0).after before = .outside maxDepth := by
    simpa only [Nat.zero_add] using hbefore 0
  have hopen : (Place.outside maxDepth).after [bracket nesting] = .outside (maxDepth + 1) :=
    leads_open nesting maxDepth
  rw [Place.after_append, hplace, hopen, Place.opened] at hopened
  omega

/-! ### A number that is the whole text -/

theorem spanFrom_ofChars (kind : Char → Bool) (done cs : List Char)
    (h : ∀ c ∈ cs, kind c = true) :
    Text.spanFrom kind done (Text.ofChars cs) = (done.reverse ++ cs, []) := by
  induction cs generalizing done with
  | nil => rw [List.append_nil]; rfl
  | cons c cs ih =>
      rw [List.forall_mem_cons] at h
      rw [Text.ofChars_cons, Text.spanFrom, if_pos h.1, ih (c :: done) h.2, List.reverse_cons,
        List.append_assoc]
      rfl

/-- A text does not start with a word that starts otherwise. -/
theorem after?_eq_none (word : String) (m c : Char) (hword : word.toList.head? = some m)
    (h : c ≠ m) (t : Text) : after? word (.char c :: t) = none := by
  obtain ⟨rest, hrest⟩ := List.head?_eq_some_iff.mp hword
  have hne : (CodePoint.char m == CodePoint.char c) = false := by
    rw [beq_eq_false_iff_ne, ne_eq, CodePoint.char.injEq]
    exact h.symm
  rw [after?, Text.ofString, hrest, Text.ofChars_cons, List.isPrefixOf_cons_cons, hne,
    Bool.false_and, if_neg Bool.false_ne_true]

section Overlong

variable {c : Char} {cs : List Char} (hdigits : ∀ d ∈ c :: cs, d.isDigit = true)
include hdigits

theorem ne_of_not_isDigit (m : Char) (hm : m.isDigit = false) : c ≠ m := by
  rintro rfl
  rw [hdigits c (List.mem_cons_self ..)] at hm
  exact Bool.noConfusion hm

theorem number_overlong (hzero : c ≠ '0') (hlong : Decimal.maxDigits < (c :: cs).length) :
    number false (Text.ofChars (c :: cs)) = .error (.tooManyDigits (c :: cs).length) := by
  unfold number
  split
  rename_i whole rest hwhole
  have hspan : (whole, rest) = (c :: cs, []) := by
    rw [← hwhole]
    split
    · rename_i heq
      rw [Text.ofChars_cons, List.cons.injEq, CodePoint.char.injEq] at heq
      exact absurd heq.1 hzero
    · exact spanFrom_ofChars Char.isDigit [] (c :: cs) hdigits
  obtain ⟨rfl, rfl⟩ := Prod.mk.injEq .. ▸ hspan
  rw [if_neg (by simp only [List.isEmpty_cons, Bool.false_eq_true, not_false_eq_true])]
  simp only [fraction?, power?, Option.getD_none, List.isEmpty_nil, if_true, if_pos hlong]

theorem scalar_overlong (hzero : c ≠ '0') (hlong : Decimal.maxDigits < (c :: cs).length) :
    scalar (Text.ofChars (c :: cs)) = .error (.tooManyDigits (c :: cs).length) := by
  have hword : ∀ (word : String) (m : Char), word.toList.head? = some m → m.isDigit = false →
      after? word (Text.ofChars (c :: cs)) = none := by
    intro word m hhead hm
    exact after?_eq_none word m c hhead (ne_of_not_isDigit hdigits m hm) (Text.ofChars cs)
  unfold scalar
  rw [hword "null" 'n' rfl rfl, hword "true" 't' rfl rfl, hword "false" 'f' rfl rfl,
    hword "NaN" 'N' rfl rfl, hword "Infinity" 'I' rfl rfl, hword "-Infinity" '-' rfl rfl]
  simp only
  split
  · rename_i heq
    rw [Text.ofChars_cons, List.cons.injEq, CodePoint.char.injEq] at heq
    exact absurd heq.1 (ne_of_not_isDigit hdigits '-' rfl)
  · exact number_overlong hdigits hzero hlong

/-- A whole number of too many digits is found to be one. -/
theorem parse_overlong (hzero : c ≠ '0') (hlong : Decimal.maxDigits < (c :: cs).length) :
    parse (Text.ofChars (c :: cs)) = .error (.tooManyDigits (c :: cs).length) := by
  -- A digit is neither a blank nor a mark, so the value is a number and starts at once.
  have hblank : skipBlanks (Text.ofChars (c :: cs)) = Text.ofChars (c :: cs) := by
    refine skipBlanks_cons c (Text.ofChars cs) (Bool.eq_false_iff.mpr fun h => ?_)
    have hmarks : ∀ m, isJsonBlank m = true → m.isDigit = false := by
      intro m hm
      simp only [isJsonBlank, Bool.or_eq_true, decide_eq_true_eq] at hm
      rcases hm with ((rfl | rfl) | rfl) | rfl <;> rfl
    exact ne_of_not_isDigit hdigits c (hmarks c h) rfl
  have hvalue : ∀ fuel room, parseValue (fuel + 1) room (Text.ofChars (c :: cs))
      = .error (.tooManyDigits (c :: cs).length) := by
    intro fuel room
    have hmark : ∀ (m : Char) (rest : Text), m.isDigit = false →
        Text.ofChars (c :: cs) ≠ .char m :: rest := by
      intro m rest hm h
      rw [Text.ofChars_cons, List.cons.injEq, CodePoint.char.injEq] at h
      exact ne_of_not_isDigit hdigits m hm h.1
    rw [parseValue.eq_def]
    simp only
    split
    · exact absurd ‹_› (hmark '"' _ rfl)
    · exact absurd ‹_› (hmark '[' _ rfl)
    · exact absurd ‹_› (hmark '\x7b' _ rfl)
    · exact scalar_overlong hdigits hzero hlong
  rw [parse, hblank, hvalue]

end Overlong

end Datum

end Beacon
