import Beacon.Http.Percent
import Beacon.Proofs.Text.Character

/-!
# Escapes

What escaping does to a text, and what is left of a text when its escapes are resolved.

A text is a row of escapes and of characters that begin none, and both ways of going
through it follow that row, so everything here is by induction over it. Escaping leaves
the escapes as they are and brings up no new ones by accident: two digits behind a percent
sign stood there before. So escaping twice is escaping once, and a text stands for the same
before and after.

What a text stands for is not longer than the text. Each character that begins no escape
is read from its own bytes as itself. The three characters of an escape are one byte, which
makes one more character at most. So a text with an escape stands for something shorter
than itself, and a text without one stands for itself.

## Main definitions

* `Percent.Begins`: A text begins with an escape.
* `Percent.Escaped`: A text has an escape in it.

## Theorems

* `Percent.escapeInduction`: Induction over the row.
* `Percent.encode_encode`: Escaping twice is escaping once.
* `Percent.encode_append`: A sign that belongs to no escape parts a text.
* `Percent.decode_encoded`: Escaping changes nothing in what a text stands for.
* `Percent.length_decode`: What a text stands for is no longer than the text.
* `Percent.decode_eq_self_iff`: A text stands for itself if it has no escapes.
-/

namespace Beacon

namespace Percent

/-- A text begins with an escape. -/
def Begins (cs : List Char) : Prop :=
  ∃ a b rest, isDigit a = true ∧ isDigit b = true ∧ cs = '%' :: a :: b :: rest

/-- A text has an escape in it. -/
def Escaped (cs : List Char) : Prop :=
  ∃ a b, isDigit a = true ∧ isDigit b = true ∧ ['%', a, b] <:+: cs

theorem not_escaped {cs : List Char} (h : '%' ∉ cs) : ¬Escaped cs := by
  rintro ⟨a, b, -, -, hpart⟩
  exact h (hpart.subset List.mem_cons_self)

/-- A text is a row of escapes and of characters that begin none. -/
@[elab_as_elim]
theorem escapeInduction {motive : List Char → Prop} (cs : List Char) (nil : motive [])
    (escape : ∀ a b rest, isDigit a = true → isDigit b = true → motive rest →
      motive ('%' :: a :: b :: rest))
    (char : ∀ c rest, ¬Begins (c :: rest) → motive rest → motive (c :: rest)) : motive cs := by
  induction hn : cs.length using Nat.strongRecOn generalizing cs with
  | ind n ih =>
    rcases cs with _ | ⟨c, rest⟩
    · exact nil
    rw [List.length_cons] at hn
    by_cases hbegins : Begins (c :: rest)
    · rcases hbegins with ⟨a, b, more, ha, hb, heq⟩
      rcases List.cons.inj heq with ⟨rfl, rfl⟩
      simp only [List.length_cons] at hn
      exact escape a b more ha hb (ih _ (by omega) more rfl)
    · exact char c rest hbegins (ih _ (by omega) rest rfl)

section Equations

variable (safe : Char → Bool) {a b c : Char} {rest : List Char}

theorem encode_escape (ha : isDigit a = true) (hb : isDigit b = true) :
    encode safe ('%' :: a :: b :: rest) = '%' :: a :: b :: encode safe rest := by
  rw [encode, if_pos rfl]
  simp only [ha, hb, Bool.and_true, if_true]

theorem bytes_escape {high low : Nat} (ha : Hex.value? a = some high)
    (hb : Hex.value? b = some low) :
    bytes ('%' :: a :: b :: rest) = UInt8.ofNat (16 * high + low) :: bytes rest := by
  rw [bytes, if_pos rfl]
  simp only [ha, hb]

/-- Behind a percent sign that begins no escape stand no two digits. -/
theorem digits_of_not_begins (h : ¬Begins ('%' :: a :: b :: rest)) :
    (isDigit a && isDigit b) = false := by
  rw [Bool.eq_false_iff, ne_eq, Bool.and_eq_true]
  rintro ⟨ha, hb⟩
  exact h ⟨a, b, rest, ha, hb, rfl⟩

theorem encode_char (h : ¬Begins (c :: rest)) :
    encode safe (c :: rest) = guarded safe c ++ encode safe rest := by
  by_cases hc : c = '%'
  · subst hc
    rcases rest with _ | ⟨a, _ | ⟨b, more⟩⟩
    · rfl
    · rfl
    · rw [encode, if_pos rfl]
      simp only [digits_of_not_begins h, Bool.false_eq_true, if_false]
  · rw [encode.eq_def]
    simp only [if_neg hc]

theorem bytes_char (h : ¬Begins (c :: rest)) :
    bytes (c :: rest) = Utf8.encode c.toString ++ bytes rest := by
  by_cases hc : c = '%'
  · subst hc
    rcases rest with _ | ⟨a, _ | ⟨b, more⟩⟩
    · rfl
    · rfl
    · have hdigits := digits_of_not_begins h
      rw [bytes, if_pos rfl]
      unfold isDigit at hdigits
      split
      · rename_i ha hb
        rw [ha, hb] at hdigits
        exact absurd hdigits.symm Bool.false_ne_true
      · rfl
  · rw [bytes.eq_def]
    simp only [if_neg hc]

end Equations

/-! ### Escaping -/

section Encode

variable (safe : Char → Bool) {c : Char} {cs ds rest tail : List Char}

theorem isDigit_of_value {n : Nat} (h : Hex.value? c = some n) : isDigit c = true := by
  rw [isDigit, h, Option.isSome_some]

/-- An escape is two digits that stand for the halves of its byte. -/
theorem escape_digits (b : UInt8) : ∃ high low, escape b = ['%', high, low] ∧
    Hex.value? high = some (b.toNat / 16) ∧ Hex.value? low = some (b.toNat % 16) := by
  have hdigit : ∀ n < 16, Hex.value? (Hex.digit n).toUpper = some n := by decide
  rcases Hex.halves_lt b with ⟨hhigh, hlow⟩
  exact ⟨_, _, rfl, hdigit _ hhigh, hdigit _ hlow⟩

/-- Escapes stand for the bytes they were written for. -/
theorem bytes_escapes (bs : Bytes) (rest : List Char) :
    bytes (bs.flatMap escape ++ rest) = bs ++ bytes rest := by
  induction bs with
  | nil => rfl
  | cons b bs ih =>
      rcases escape_digits b with ⟨high, low, hescape, hhigh, hlow⟩
      rw [List.flatMap_cons, hescape, List.append_assoc]
      refine (bytes_escape hhigh hlow).trans ?_
      rw [Hex.ofNat_halves]
      exact congrArg (b :: ·) ih

/-- Escapes are left as they are. -/
theorem encode_escapes (bs : Bytes) (rest : List Char) :
    encode safe (bs.flatMap escape ++ rest) = bs.flatMap escape ++ encode safe rest := by
  induction bs with
  | nil => rfl
  | cons b bs ih =>
      rcases escape_digits b with ⟨high, low, hescape, hhigh, hlow⟩
      rw [List.flatMap_cons, hescape, List.append_assoc, List.append_assoc, ← ih]
      exact encode_escape safe (isDigit_of_value hhigh) (isDigit_of_value hlow)

/-- The escapes of a character begin with a percent sign. -/
theorem exists_escapes (c : Char) : ∃ tail, escapes c = '%' :: tail := by
  rcases Utf8.exists_lead c with ⟨b, bs, hbytes, -⟩
  rw [escapes, Utf8.encode_toString, hbytes]
  exact ⟨_, rfl⟩

/-- What does not come from an escape stands in the text itself. -/
theorem encode_eq_cons (h : encode safe cs = c :: tail) (hc : c ≠ '%') :
    ∃ rest, cs = c :: rest ∧ encode safe rest = tail := by
  induction cs using escapeInduction with
  | nil => exact absurd h.symm (List.cons_ne_nil _ _)
  | escape a b rest ha hb =>
      rw [encode_escape safe ha hb] at h
      exact absurd (List.cons.inj h).1.symm hc
  | char d rest hbegins =>
      rw [encode_char safe hbegins, guarded] at h
      split at h
      · rcases List.cons.inj h with ⟨rfl, htail⟩
        exact ⟨rest, rfl, htail⟩
      · rcases exists_escapes d with ⟨more, hmore⟩
        rw [hmore, List.cons_append] at h
        exact absurd (List.cons.inj h).1.symm hc

/-- A text that begins with an escape did so before what stands behind was escaped. -/
theorem begins_encode (h : Begins (c :: encode safe rest)) : Begins (c :: rest) := by
  have hne {d : Char} (hd : isDigit d = true) : d ≠ '%' := by
    rintro rfl
    exact absurd hd Bool.false_ne_true
  rcases h with ⟨a, b, more, ha, hb, heq⟩
  rcases List.cons.inj heq with ⟨rfl, hrest⟩
  rcases encode_eq_cons safe hrest (hne ha) with ⟨cs, rfl, hcs⟩
  rcases encode_eq_cons safe hcs (hne hb) with ⟨ds, rfl, -⟩
  exact ⟨a, b, ds, ha, hb, rfl⟩

/-- A sign that belongs to no escape completes none. -/
theorem begins_append (hdigit : isDigit c = false) {d : Char}
    (h : Begins (d :: (rest ++ c :: ds))) : Begins (d :: rest) := by
  have hne {d : Char} (hd : isDigit d = true) : c ≠ d := by
    rintro rfl
    exact absurd (hd.symm.trans hdigit) Bool.true_eq_false.mp
  rcases h with ⟨a, b, more, ha, hb, heq⟩
  rcases List.cons.inj heq with ⟨rfl, htail⟩
  rcases rest with _ | ⟨x, _ | ⟨y, rest⟩⟩
  · exact absurd (List.cons.inj htail).1 (hne ha)
  · exact absurd (List.cons.inj (List.cons.inj htail).2).1 (hne hb)
  · rcases List.cons.inj htail with ⟨rfl, hmore⟩
    rcases List.cons.inj hmore with ⟨rfl, -⟩
    exact ⟨x, y, rest, ha, hb, rfl⟩

/-- Escaping changes nothing in what a text stands for. -/
theorem bytes_encode (cs : List Char) : bytes (encode safe cs) = bytes cs := by
  induction cs using escapeInduction with
  | nil => rfl
  | escape a b rest ha hb ih =>
      rcases Option.isSome_iff_exists.mp ha with ⟨high, hhigh⟩
      rcases Option.isSome_iff_exists.mp hb with ⟨low, hlow⟩
      rw [encode_escape safe ha hb, bytes_escape hhigh hlow, bytes_escape hhigh hlow, ih]
  | char c rest hbegins ih =>
      rw [encode_char safe hbegins, bytes_char hbegins, ← ih, guarded]
      split
      · exact bytes_char (mt (begins_encode safe) hbegins)
      · exact bytes_escapes _ _

theorem decode_encoded (cs : List Char) : decode (encode safe cs) = decode cs := by
  rw [decode, bytes_encode, decode]

/-- Encoding twice is encoding once. -/
theorem encode_encode (cs : List Char) : encode safe (encode safe cs) = encode safe cs := by
  induction cs using escapeInduction with
  | nil => rfl
  | escape a b rest ha hb ih => rw [encode_escape safe ha hb, encode_escape safe ha hb, ih]
  | char c rest hbegins ih =>
      rw [encode_char safe hbegins, guarded]
      split
      · rename_i hsafe
        refine (encode_char safe (mt (begins_encode safe) hbegins)).trans ?_
        rw [guarded, if_pos hsafe, ih]
      · rw [escapes, encode_escapes, ih]

/-- A sign that belongs to no escape parts a text. -/
theorem encode_append (hpercent : c ≠ '%') (hdigit : isDigit c = false) (cs ds : List Char) :
    encode safe (cs ++ c :: ds) = encode safe cs ++ (guarded safe c ++ encode safe ds) := by
  induction cs using escapeInduction with
  | nil =>
      refine encode_char safe ?_
      rintro ⟨a, b, more, -, -, heq⟩
      exact hpercent (List.cons.inj heq).1
  | escape a b rest ha hb ih =>
      rw [encode_escape safe ha hb, List.cons_append, List.cons_append, List.cons_append,
        encode_escape safe ha hb, ih]
      rfl
  | char d rest hbegins ih =>
      rw [List.cons_append, encode_char safe (mt (begins_append hdigit) hbegins), ih,
        encode_char safe hbegins, List.append_assoc]

/-- What stands in a text that is escaped belongs to an escape or needs none. -/
theorem mem_encode (h : c ∈ encode safe cs) :
    c = '%' ∨ isDigit c = true ∨ c ∈ cs ∧ (isUnreserved c || safe c) = true := by
  induction cs using escapeInduction with
  | nil => exact absurd h List.not_mem_nil
  | escape a b rest ha hb ih =>
      rw [encode_escape safe ha hb, List.mem_cons, List.mem_cons, List.mem_cons] at h
      rcases h with rfl | rfl | rfl | h
      · exact Or.inl rfl
      · exact Or.inr (Or.inl ha)
      · exact Or.inr (Or.inl hb)
      · refine (ih h).imp_right (Or.imp_right (And.imp_left fun hmem => ?_))
        exact List.mem_cons_of_mem _ (List.mem_cons_of_mem _ (List.mem_cons_of_mem _ hmem))
  | char d rest hbegins ih =>
      rw [encode_char safe hbegins, List.mem_append, guarded] at h
      rcases h with h | h
      · split at h
        · rename_i hsafe
          obtain rfl := List.mem_singleton.mp h
          exact Or.inr (Or.inr ⟨List.mem_cons_self, hsafe⟩)
        · rcases List.mem_flatMap.mp h with ⟨byte, -, hbyte⟩
          rcases escape_digits byte with ⟨high, low, hescape, hhigh, hlow⟩
          rw [hescape, List.mem_cons, List.mem_cons, List.mem_singleton] at hbyte
          rcases hbyte with rfl | rfl | rfl
          · exact Or.inl rfl
          · exact Or.inr (Or.inl (isDigit_of_value hhigh))
          · exact Or.inr (Or.inl (isDigit_of_value hlow))
      · exact (ih h).imp_right (Or.imp_right (And.imp_left (List.mem_cons_of_mem _)))

/-- Escaping makes nothing disappear. -/
theorem eq_nil_of_encode_eq_nil (h : encode safe cs = []) : cs = [] := by
  cases cs using escapeInduction with
  | nil => rfl
  | escape a b rest ha hb =>
      rw [encode_escape safe ha hb] at h
      exact absurd h (List.cons_ne_nil _ _)
  | char c rest hbegins =>
      rw [encode_char safe hbegins, guarded] at h
      split at h
      · exact absurd h (List.cons_ne_nil _ _)
      · rcases exists_escapes c with ⟨tail, htail⟩
        rw [htail] at h
        exact absurd h (List.cons_ne_nil _ _)

/-- A text in which nothing is an escape after escaping is the one that was there before. -/
theorem eq_of_encode_eq (h : encode safe cs = ds) (hds : '%' ∉ ds) : cs = ds := by
  induction ds generalizing cs with
  | nil => exact eq_nil_of_encode_eq_nil safe h
  | cons d ds ih =>
      rw [List.mem_cons, not_or] at hds
      rcases encode_eq_cons safe h (Ne.symm hds.1) with ⟨rest, rfl, hrest⟩
      rw [ih hrest hds.2]

end Encode

/-! ### Resolving -/

section Decode

variable {cs : List Char}

/-- Behind a character that begins no escape stands every escape of a text. -/
theorem escaped_of_cons {c : Char} (hbegins : ¬Begins (c :: cs)) (h : Escaped (c :: cs)) :
    Escaped cs := by
  rcases h with ⟨a, b, ha, hb, hpart⟩
  rcases List.infix_cons_iff.mp hpart with ⟨rest, hrest⟩ | hpart
  · exact absurd ⟨a, b, rest, ha, hb, hrest.symm⟩ hbegins
  · exact ⟨a, b, ha, hb, hpart⟩

/-- A text makes no more characters than it has, and fewer if an escape is resolved: the
    three characters of an escape are one byte. -/
theorem tally_scan (cs : List Char) (pending : Option Utf8.Pending)
    (done : List (Option CodePoint)) (hpending : ∀ p, pending = some p → p.Inner) :
    let count := Utf8.tally (Utf8.scan false pending done (bytes cs))
    let most := done.length + (Utf8.flaw pending).length + cs.length
    count ≤ most ∧ (Escaped cs → count < most) := by
  induction cs using escapeInduction generalizing pending done with
  | nil =>
      refine ⟨Nat.le_refl _, ?_⟩
      rintro ⟨a, b, -, -, hpart⟩
      exact absurd (List.infix_nil.mp hpart) (List.cons_ne_nil _ _)
  | escape a b rest ha hb ih =>
      rcases Option.isSome_iff_exists.mp ha with ⟨high, hhigh⟩
      rcases Option.isSome_iff_exists.mp hb with ⟨low, hlow⟩
      have hstep := Utf8.tally_step false pending (.ofNat (16 * high + low))
      have hinner (p : Utf8.Pending) := Utf8.inner_step false pending (.ofNat (16 * high + low))
        (q := p)
      -- The byte of the escape may complete what is pending, end it or begin something.
      rw [bytes_escape hhigh hlow, Utf8.scan]
      generalize Utf8.step false pending (.ofNat (16 * high + low)) = x at hstep hinner ⊢
      rcases x with ⟨new, next⟩
      have hrest := (ih next (new.reverse ++ done) hinner).1
      simp only [Utf8.tally, List.length_append, List.length_reverse, List.length_cons]
        at hstep hrest ⊢
      exact ⟨by omega, fun _ => by omega⟩
  | char c rest hbegins ih =>
      have hrest := ih none (some (.char c) :: (Utf8.flaw pending ++ done))
        Utf8.inner_of_none
      -- The character ends what is pending, and nothing is pending after it.
      rw [bytes_char hbegins, Utf8.scan_append, Utf8.scan_encode c done hpending]
      simp only [List.length_append, List.length_cons, Utf8.flaw, Option.isSome_none,
        Bool.false_eq_true, if_false, List.length_nil] at hrest ⊢
      exact ⟨by omega, fun h => by have := hrest.2 (escaped_of_cons hbegins h); omega⟩

/-- What a text stands for is no longer than the text, and shorter if it has an escape. -/
theorem length_decode (cs : List Char) :
    (decode cs).length ≤ cs.length ∧ (Escaped cs → (decode cs).length < cs.length) := by
  have h := tally_scan cs none [] Utf8.inner_of_none
  rw [decode, Utf8.length_decode]
  simpa only [List.length_nil, Utf8.flaw, Option.isSome_none, Bool.false_eq_true, if_false,
    Nat.zero_add] using h

/-- A text without escapes stands for itself. -/
theorem scan_bytes (h : ¬Escaped cs) (done : List (Option CodePoint)) :
    Utf8.scan false none done (bytes cs)
      = ((cs.map fun c => some (.char c)).reverse ++ done, none) := by
  induction cs using escapeInduction generalizing done with
  | nil => rfl
  | escape a b rest ha hb => exact absurd ⟨a, b, ha, hb, ⟨[], rest, rfl⟩⟩ h
  | char c rest hbegins ih =>
      have hrest : ¬Escaped rest := by
        rintro ⟨a, b, ha, hb, hpart⟩
        exact h ⟨a, b, ha, hb, hpart.trans (List.suffix_cons c rest).isInfix⟩
      rw [bytes_char hbegins, Utf8.scan_append,
        Utf8.scan_encode c done Utf8.inner_of_none]
      simp only []
      rw [ih hrest, List.map_cons, List.reverse_cons, List.append_assoc]
      rfl

/-- A text stands for itself if it has no escapes, and for something shorter otherwise. -/
theorem decode_eq_self_iff : decode cs = cs ↔ ¬Escaped cs := by
  constructor
  · intro h hescaped
    have hlt := (length_decode cs).2 hescaped
    rw [h] at hlt
    exact Nat.lt_irrefl _ hlt
  · intro h
    rw [decode, Utf8.decode, Utf8.decodeFrom, scan_bytes h]
    simp only [List.append_nil, List.reverse_reverse, List.map_map]
    rw [show Utf8.flush none = [] from rfl, List.append_nil]
    exact List.map_id' cs

end Decode

end Percent

end Beacon
