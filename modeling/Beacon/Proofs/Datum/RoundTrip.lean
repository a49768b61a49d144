import Beacon.Datum.Reader
import Beacon.Datum.Writer
import Mathlib.Data.List.Nodup

/-!
# Reading What Was Written

The compact JSON text of a datum is read back to the datum.

Not every datum has this property: JSON has no byte strings and no tuples, and a
record that names a field twice is read to one that does not. What values are
presented as is simpler than that. It has strings for everything that is neither
a list nor a record, and the names of a record's fields differ. `Textual` is
that condition, and it also counts how many brackets are open at a time, because
a reader has room for a limited number of them only.

The reader spends fuel. A value spends one unit, and so does an item and a field,
and each of them takes at least one character; so a text's own length is enough
fuel for it. That makes the induction short: it carries the length of what is
written, and what follows the text stays untouched.

## Main definitions

* `Textual`: A datum of strings, lists and records, in so many brackets.
* `parseWithin`: The value that a whole text holds, in so many brackets.

## Theorems

* `stringFrom_escape`: An escaped string is read up to its closing quote.
* `parseItems_write`, `parseFields_write`: What stands between brackets is read
  if each of its parts is.
* `parseValue_write`: What was written is read, whatever follows it.
* `parseWithin_compact`: A whole text is read to the datum it was written for.
-/

namespace Beacon

namespace Datum

open Text

/-- A datum of strings, lists and records, in which the fields of a record have
    different names and no more than `room` brackets are open at a time. -/
inductive Textual : (room : Nat) → Datum → Prop
  | text {room : Nat} (s : String) : Textual room (.text s)
  | list {room : Nat} {items : List Datum} (hitems : ∀ d ∈ items, Textual room d) :
      Textual (room + 1) (.list items)
  | record {room : Nat} {fields : List (Text × Datum)} (hnames : (fields.map Prod.fst).Nodup)
      (hstrings : ∀ field ∈ fields, ∃ name : String, field.1 = name)
      (hfields : ∀ field ∈ fields, Textual room field.2) :
      Textual (room + 1) (.record fields)

/-- The value that a whole text holds, blanks around it allowed, in no more than
    `room` brackets that are open at a time. -/
def parseWithin (room : Nat) (t : Text) : Except JsonFault Datum :=
  match parseValue (2 * t.length + 2) room (skipBlanks t) with
  | .error fault => .error fault
  | .ok (d, rest) => if (skipBlanks rest).isEmpty then .ok d else .error .malformed

theorem parse_eq_parseWithin (t : Text) : parse t = parseWithin maxDepth t := rfl

/-! ### Strings -/

theorem digit?_digitChar (n : Nat) (h : n < 16) : digit? (.char (Nat.digitChar n)) = some n := by
  have hall : ∀ n < 16, digit? (.char (Nat.digitChar n)) = some n := by decide
  exact hall n h

/-- The digits that a control character is escaped by are the digits of its
    number. -/
theorem codeUnit?_control (n : Nat) (h : n < 32) (rest : Text) :
    codeUnit? (ofChars ['0', '0', Nat.digitChar (n / 16), Nat.digitChar (n % 16)] ++ rest)
      = some (n, rest) := by
  have hzero : digit? (.char '0') = some 0 := by decide
  have hhigh := digit?_digitChar (n / 16) (by omega)
  have hlow := digit?_digitChar (n % 16) (by omega)
  have hn : ((0 * 16 + 0) * 16 + n / 16) * 16 + n % 16 = n := by omega
  simp only [ofChars, List.map_cons, List.map_nil, List.cons_append, List.nil_append, codeUnit?,
    hzero, hhigh, hlow, Option.bind_eq_bind, Option.bind_some, hn]
  rfl

/-- One character of a string is read to itself, however it is escaped. -/
theorem stringFrom_escapeChar (c : Char) (done rest : Text) :
    stringFrom 0 done (ofChars (escapeChar c) ++ rest) = stringFrom 0 (.char c :: done) rest := by
  unfold escapeChar
  -- The seven characters that have an escape of two characters of their own.
  split
  · subst_vars; rfl
  split
  · subst_vars; rfl
  split
  · subst_vars; rfl
  split
  · subst_vars; rfl
  split
  · subst_vars; rfl
  split
  · subst_vars; rfl
  split
  · subst_vars; rfl
  split
  · rename_i h
    have hunit := codeUnit?_control c.toNat h rest
    have hpoint : CodePoint.ofNat c.toNat = .char c := CodePoint.ofNat_code (.char c)
    -- A control character is no half of a pair, so the escape after it is left alone.
    have hpair : pairUnits c.toNat rest = (.char c, 0) := by
      unfold pairUnits
      rw [if_neg (by omega), hpoint]
    simp only [ofChars, List.map_cons, List.map_nil, List.cons_append, List.nil_append] at hunit ⊢
    simp only [stringFrom, hunit, hpair]
    rfl
  · rename_i hquote hback _ _ _ _ _ hlow
    simp only [ofChars, List.map_cons, List.map_nil, List.cons_append, List.nil_append]
    conv_lhs => unfold stringFrom
    simp only [hquote, hback, hlow, if_false]

/-- An escaped string is read up to its closing quote. -/
theorem stringFrom_escape (cs : List Char) (done rest : Text) :
    stringFrom 0 done (ofChars (cs.flatMap escapeChar) ++ (.char '"' :: rest))
      = some (done.reverse ++ ofChars cs, rest) := by
  induction cs generalizing done with
  | nil => simp only [List.flatMap_nil, ofChars, List.map_nil, List.nil_append, List.append_nil,
      stringFrom, if_true]
  | cons c cs ih =>
      rw [List.flatMap_cons, ofChars_append, List.append_assoc, stringFrom_escapeChar, ih,
        List.reverse_cons, List.append_assoc, ofChars_cons, List.singleton_append]

theorem quoteChars_ofString (s : String) :
    quoteChars s = '"' :: (s.toList.flatMap escapeChar ++ ['"']) := by
  rw [quoteChars, ofString, ofChars, List.flatMap_map]
  rfl

/-- What stands behind the opening quote of a string is read to the string. -/
theorem stringFrom_quoteChars (s : String) (rest : Text) :
    ofChars (quoteChars s) ++ rest
        = .char '"' :: (ofChars (s.toList.flatMap escapeChar) ++ (.char '"' :: rest)) ∧
      stringFrom 0 [] (ofChars (s.toList.flatMap escapeChar) ++ (.char '"' :: rest))
        = some (ofString s, rest) := by
  constructor
  · rw [quoteChars_ofString, ofChars_cons, ofChars_append, List.cons_append, List.append_assoc]
    rfl
  · exact stringFrom_escape s.toList [] rest

/-! ### Lists and records -/

theorem skipBlanks_cons (c : Char) (rest : Text) (h : isJsonBlank c = false) :
    skipBlanks (.char c :: rest) = .char c :: rest := by
  rw [skipBlanks, List.dropWhile_cons_of_neg]
  rw [CodePoint.isA, h]
  exact Bool.false_ne_true

/-- The text of a datum starts with a quote or with an opening bracket. -/
theorem write_eq_cons {room : Nat} {d : Datum} (h : Textual room d) :
    ∃ c cs, write d = c :: cs ∧ (c = '"' ∨ c = '[' ∨ c = '\x7b') := by
  cases h with
  | text s => exact ⟨'"', _, by rw [write, quoteChars_ofString], .inl rfl⟩
  | list hitems => exact ⟨'[', _, by rw [write], .inr (.inl rfl)⟩
  | record hnames hstrings hfields => exact ⟨'\x7b', _, by rw [write], .inr (.inr rfl)⟩

/-- No blank stands before the text of a datum. -/
theorem skipBlanks_write {room : Nat} {d : Datum} (h : Textual room d) (rest : Text) :
    skipBlanks (ofChars (write d) ++ rest) = ofChars (write d) ++ rest := by
  obtain ⟨c, cs, hwrite, hc⟩ := write_eq_cons h
  rw [hwrite, ofChars_cons, List.cons_append]
  refine skipBlanks_cons c _ ?_
  rcases hc with rfl | rfl | rfl <;> decide

/-- A datum is read from its own text with as much fuel as the text is long,
    whatever follows. -/
def Reads (room : Nat) (d : Datum) : Prop :=
  ∀ (fuel : Nat) (rest : Text), (write d).length ≤ fuel →
    parseValue fuel room (ofChars (write d) ++ rest) = .ok (d, rest)

/-- The items of a list are read up to its closing bracket if each of them is
    read. -/
theorem parseItems_write (room : Nat) (d : Datum) (items : List Datum)
    (htextual : ∀ e ∈ d :: items, Textual room e) (hreads : ∀ e ∈ d :: items, Reads room e)
    (done : List Datum) (fuel : Nat) (rest : Text)
    (hfuel : (writeItems true (d :: items)).length ≤ fuel) :
    parseItems fuel room done (ofChars (writeItems true (d :: items)) ++ rest)
      = .ok (.list (done.reverse ++ d :: items), rest) := by
  induction items generalizing d done fuel with
  | nil =>
      simp only [writeItems, if_true, List.nil_append, List.length_append, List.length_cons,
        List.length_nil] at hfuel ⊢
      obtain ⟨fuel, rfl⟩ : ∃ k, fuel = k + 1 := ⟨fuel - 1, by omega⟩
      rw [ofChars_append, List.append_assoc, parseItems,
        hreads d List.mem_cons_self fuel _ (by omega)]
      simp only [ofChars, List.map_cons, List.map_nil, List.cons_append, List.nil_append]
      rw [skipBlanks_cons _ _ (by decide), List.reverse_cons]
      rfl
  | cons e items ih =>
      rw [List.forall_mem_cons] at htextual hreads
      -- The comma before the next item is written along with that item.
      have hmore : writeItems false (e :: items) = ',' :: writeItems true (e :: items) := rfl
      rw [writeItems, hmore] at hfuel ⊢
      simp only [if_true, List.nil_append, List.length_append, List.length_cons] at hfuel ⊢
      obtain ⟨fuel, rfl⟩ : ∃ k, fuel = k + 1 := ⟨fuel - 1, by omega⟩
      have hnext : skipBlanks (ofChars (writeItems true (e :: items)) ++ rest)
          = ofChars (writeItems true (e :: items)) ++ rest := by
        rw [writeItems, if_pos rfl, List.nil_append, ofChars_append, List.append_assoc]
        exact skipBlanks_write (htextual.2 e List.mem_cons_self) _
      have hcomma := skipBlanks_cons ',' (ofChars (writeItems true (e :: items)) ++ rest)
        (by decide)
      rw [ofChars_append, List.append_assoc, parseItems, hreads.1 fuel _ (by omega), ofChars_cons,
        List.cons_append]
      simp only [hcomma, hnext]
      rw [ih e htextual.2 hreads.2 (d :: done) fuel (by omega), List.reverse_cons,
        List.append_assoc, List.singleton_append]

/-- A field of a new name is put behind all others. -/
theorem put_of_not_mem (name : Text) (d : Datum) (done : List (Text × Datum))
    (h : name ∉ done.map Prod.fst) : put name d done = done ++ [(name, d)] := by
  induction done with
  | nil => rfl
  | cons field done ih =>
      rw [List.map_cons, List.mem_cons, not_or] at h
      rw [put, if_neg (Ne.symm h.1), ih h.2, List.cons_append]

/-- One field is read if its value is: its name, the colon and the value. A comma
    after it has more fields follow, and a brace ends the record. -/
theorem parseFields_writeField (room : Nat) (s : String) (d : Datum) (htextual : Textual room d)
    (hreads : Reads room d) (done : List (Text × Datum)) (fuel : Nat) (rest : Text)
    (hfuel : (write d).length ≤ fuel) :
    (∀ more, skipBlanks rest = .char ',' :: more →
      parseFields (fuel + 1) room done (ofChars (writeField (s, d)) ++ rest)
        = parseFields fuel room (put s d done) (skipBlanks more)) ∧
    (∀ more, skipBlanks rest = .char '\x7d' :: more →
      parseFields (fuel + 1) room done (ofChars (writeField (s, d)) ++ rest)
        = .ok (.record (put s d done), more)) := by
  obtain ⟨hquote, hname⟩ := stringFrom_quoteChars s (.char ':' :: (ofChars (write d) ++ rest))
  have hcolon := skipBlanks_cons ':' (ofChars (write d) ++ rest) (by decide)
  rw [writeField, ofChars_append, ofChars_cons, List.append_assoc, List.cons_append, hquote,
    parseFields]
  simp only [hname, hcolon, skipBlanks_write htextual, hreads fuel rest hfuel]
  constructor
  · intro more hcomma
    simp only [hcomma]
  · intro more hbrace
    simp only [hbrace]

/-- The fields of a record start with the quote before the first name. -/
theorem writeFields_eq_cons (field : Text × Datum) (fields : List (Text × Datum))
    (hstring : ∃ name : String, field.1 = name) :
    ∃ cs, writeFields true (field :: fields) = '"' :: cs := by
  obtain ⟨name, d⟩ := field
  obtain ⟨s, rfl⟩ := hstring
  exact ⟨_, by rw [writeFields, writeField, quoteChars_ofString]; rfl⟩

/-- A field whose name none of those before it has is put behind them. -/
theorem put_field (field : Text × Datum) (done fields : List (Text × Datum))
    (hstring : ∃ name : String, field.1 = name)
    (hnames : ((done ++ field :: fields).map Prod.fst).Nodup) :
    ∃ (s : String) (d : Datum), field = (↑s, d) ∧ put s d done = done ++ [field] := by
  obtain ⟨s, hs⟩ := hstring
  have hnew : (s : Text) ∉ done.map Prod.fst := by
    rw [List.map_append, List.nodup_append] at hnames
    intro hmem
    exact hnames.2.2 s hmem field.1 List.mem_cons_self hs.symm
  refine ⟨s, field.2, Prod.ext hs rfl, ?_⟩
  rw [put_of_not_mem s field.2 done hnew, ← hs]

/-- The fields of a record are read up to its closing brace if the value of each
    of them is read. -/
theorem parseFields_write (room : Nat) (field : Text × Datum) (fields : List (Text × Datum))
    (hstrings : ∀ f ∈ field :: fields, ∃ name : String, f.1 = name)
    (htextual : ∀ f ∈ field :: fields, Textual room f.2)
    (hreads : ∀ f ∈ field :: fields, Reads room f.2) (done : List (Text × Datum))
    (hnames : ((done ++ field :: fields).map Prod.fst).Nodup) (fuel : Nat) (rest : Text)
    (hfuel : (writeFields true (field :: fields)).length ≤ fuel) :
    parseFields fuel room done (ofChars (writeFields true (field :: fields)) ++ rest)
      = .ok (.record (done ++ field :: fields), rest) := by
  induction fields generalizing field done fuel with
  | nil =>
      obtain ⟨s, d, rfl, hput⟩ :=
        put_field field done [] (hstrings field List.mem_cons_self) hnames
      simp only [writeFields, writeField, if_true, List.nil_append, List.length_append,
        List.length_cons, List.length_nil] at hfuel
      obtain ⟨fuel, rfl⟩ : ∃ k, fuel = k + 1 := ⟨fuel - 1, by omega⟩
      have hbrace : skipBlanks (ofChars (writeFields false []) ++ rest) = .char '\x7d' :: rest :=
        skipBlanks_cons '\x7d' rest (by decide)
      have hlast := (parseFields_writeField room s d (htextual _ List.mem_cons_self)
        (hreads _ List.mem_cons_self) done fuel _ (by omega)).2 rest hbrace
      rw [writeFields, if_pos rfl, List.nil_append, ofChars_append, List.append_assoc, hlast, hput]
  | cons next fields ih =>
      obtain ⟨s, d, rfl, hput⟩ :=
        put_field field done _ (hstrings field List.mem_cons_self) hnames
      rw [List.forall_mem_cons] at hstrings htextual hreads
      -- The comma before the next field is written along with that field.
      have hmore : writeFields false (next :: fields) = ',' :: writeFields true (next :: fields) :=
        rfl
      have hcomma := skipBlanks_cons ',' (ofChars (writeFields true (next :: fields)) ++ rest)
        (by decide)
      have hnext : skipBlanks (ofChars (writeFields true (next :: fields)) ++ rest)
          = ofChars (writeFields true (next :: fields)) ++ rest := by
        obtain ⟨cs, hcs⟩ := writeFields_eq_cons next fields (hstrings.2 next List.mem_cons_self)
        rw [hcs, ofChars_cons, List.cons_append, skipBlanks_cons _ _ (by decide)]
      rw [writeFields, hmore, if_pos rfl, List.nil_append] at hfuel ⊢
      rw [writeField, List.length_append, List.length_append, List.length_cons, List.length_cons]
        at hfuel
      obtain ⟨fuel, rfl⟩ : ∃ k, fuel = k + 1 := ⟨fuel - 1, by omega⟩
      have hone := (parseFields_writeField room s d htextual.1 hreads.1 done fuel _
        (by omega)).1 _ hcomma
      rw [ofChars_append, List.append_assoc, ofChars_cons, List.cons_append, hone, hnext, hput,
        ih next hstrings.2 htextual.2 hreads.2 (done ++ [(ofString s, d)])
        (by rw [List.append_assoc]; exact hnames) fuel (by omega), List.append_assoc,
        List.singleton_append]

/-! ### Whole texts -/

/-- What was written is read, whatever follows it. -/
theorem parseValue_write {room : Nat} {d : Datum} (h : Textual room d) : Reads room d := by
  induction h with
  | text s =>
      intro fuel rest hfuel
      rw [write] at hfuel ⊢
      obtain ⟨hquote, hname⟩ := stringFrom_quoteChars s rest
      rw [quoteChars_ofString, List.length_cons] at hfuel
      obtain ⟨fuel, rfl⟩ : ∃ k, fuel = k + 1 := ⟨fuel - 1, by omega⟩
      rw [hquote, parseValue]
      simp only [hname]
  | @list room items hitems ih =>
      intro fuel rest hfuel
      rw [write, List.length_cons] at hfuel
      obtain ⟨fuel, rfl⟩ : ∃ k, fuel = k + 1 := ⟨fuel - 1, by omega⟩
      rw [write, ofChars_cons, List.cons_append, parseValue]
      cases items with
      | nil =>
          rw [writeItems, ofChars_cons, List.cons_append, skipBlanks_cons _ _ (by decide)]
          rfl
      | cons e items =>
          have hparse := parseItems_write room e items hitems ih [] fuel rest (by omega)
          obtain ⟨c, cs, hwrite, hc⟩ := write_eq_cons (hitems e List.mem_cons_self)
          -- What stands behind the bracket is no closing one, so items are read.
          rw [writeItems, if_pos rfl, List.nil_append, hwrite, List.cons_append, ofChars_cons,
            List.cons_append] at hparse ⊢
          rw [skipBlanks_cons _ _ (by rcases hc with rfl | rfl | rfl <;> decide)]
          rcases hc with rfl | rfl | rfl <;> exact hparse
  | @record room fields hnames hstrings hfields ih =>
      intro fuel rest hfuel
      rw [write, List.length_cons] at hfuel
      obtain ⟨fuel, rfl⟩ : ∃ k, fuel = k + 1 := ⟨fuel - 1, by omega⟩
      rw [write, ofChars_cons, List.cons_append, parseValue]
      cases fields with
      | nil =>
          rw [writeFields, ofChars_cons, List.cons_append, skipBlanks_cons _ _ (by decide)]
          rfl
      | cons field fields =>
          have hparse := parseFields_write room field fields hstrings hfields ih [] hnames fuel rest
            (by omega)
          obtain ⟨cs, hcs⟩ := writeFields_eq_cons field fields (hstrings field List.mem_cons_self)
          rw [hcs, ofChars_cons, List.cons_append] at hparse ⊢
          rw [skipBlanks_cons _ _ (by decide)]
          exact hparse

/-- A whole text is read to the datum it was written for, by a reader that has
    room for its brackets. -/
theorem parseWithin_compact {room : Nat} {d : Datum} (h : Textual room d) :
    parseWithin room d.compact = .ok d := by
  have htext : ofString d.compact = ofChars (write d) := by
    rw [compact, ofString, String.toList_ofList]
  have hlen : (write d).length ≤ 2 * (ofChars (write d)).length + 2 := by
    rw [ofChars, List.length_map]
    omega
  have hparse := parseValue_write h _ [] hlen
  have hstart := skipBlanks_write h []
  rw [List.append_nil] at hparse hstart
  rw [parseWithin, htext, hstart, hparse]
  rfl

end Datum

end Beacon
