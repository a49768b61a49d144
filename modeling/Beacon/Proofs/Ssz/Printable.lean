import Beacon.Proofs.Ssz.NodeForm

/-!
# Printable Text

The JSON text of a value is one line of printable ASCII, whatever the value is.

What stands in such a text is of three kinds. The brackets, commas and quotes are
printable. The names of fields are part of the type, where they can be looked at
once and for all. Everything else is a numeral or hexadecimal digits, because these
are the only strings that the node form makes of numbers, bytes and bits. In
particular bytes that spell a text, and may spell anything, do not appear as the
text that they spell.

## Main definitions

* `Ascii.Printable`: Characters that are all printable ones of ASCII.
* `Schema.labelled`: Whether the fields of a container have printable names.

## Theorems

* `Datum.printable_quoteChars`: Printable text is still printable between quotes.
* `Datum.printable_writeItems`, `Datum.printable_writeFields`: What stands between
  brackets is printable if its parts are.
* `Schema.printable_present`: The node form of a value is written in printable text.
* `Schema.printable_json`: The JSON text of a signed block is printable.
-/

namespace Beacon

namespace Ascii

/-- Characters that are all printable ones of ASCII, among which the blank is. -/
def Printable (cs : List Char) : Prop := ∀ c ∈ cs, 32 ≤ c.toNat ∧ c.toNat < 127

-- Characters are finitely many, but it is the ones in the list that are to be looked at.
instance (cs : List Char) : Decidable (Printable cs) := List.decidableBAll _ cs

theorem printable_cons {c : Char} {cs : List Char} :
    Printable (c :: cs) ↔ (32 ≤ c.toNat ∧ c.toNat < 127) ∧ Printable cs := List.forall_mem_cons

theorem printable_append {cs ds : List Char} :
    Printable (cs ++ ds) ↔ Printable cs ∧ Printable ds := List.forall_mem_append

/-- A line break is not printable. -/
theorem newline_not_mem {cs : List Char} (h : Printable cs) : '\n' ∉ cs := fun hmem =>
  absurd (h '\n' hmem) (by decide)

end Ascii

open Ascii

namespace Hex

theorem printable_digit (n : Nat) (h : n < 16) :
    32 ≤ (digit n).toNat ∧ (digit n).toNat < 127 := by
  have hall : ∀ n < 16, 32 ≤ (digit n).toNat ∧ (digit n).toNat < 127 := by decide
  exact hall n h

/-- The digits of bytes are printable. -/
theorem printable_chars (bs : Bytes) : Printable (chars bs) := by
  intro c hc
  obtain ⟨b, -, hb⟩ := List.mem_flatMap.mp hc
  obtain ⟨hhigh, hlow⟩ := halves_lt b
  rw [ofByte, List.mem_cons, List.mem_singleton] at hb
  rcases hb with rfl | rfl
  · exact printable_digit _ hhigh
  · exact printable_digit _ hlow

theorem printable_marked (bs : Bytes) : Printable (marked bs).toList := by
  rw [marked, String.toList_ofList, printable_cons, printable_cons]
  exact ⟨by decide, by decide, printable_chars bs⟩

end Hex

namespace Decimal

theorem printable_text (n : Nat) : Printable (text n).toList := by
  intro c hc
  rw [toList_text] at hc
  have hdigit : c.isDigit = true := Nat.isDigit_of_mem_toDigits (by decide) (by decide) hc
  have hbounds := Char.isDigit_iff_toNat.mp hdigit
  have hzero : '0'.toNat = 48 := rfl
  have hnine : '9'.toNat = 57 := rfl
  omega

end Decimal

namespace Datum

/-- A printable character is escaped by printable characters. -/
theorem printable_escapeChar (c : Char) (h : 32 ≤ c.toNat ∧ c.toNat < 127) :
    Printable (escapeChar c) := by
  unfold escapeChar
  split_ifs
  -- Every escape by a letter is printable, and only control characters are escaped otherwise.
  all_goals first | decide | skip
  · omega
  · exact List.forall_mem_singleton.mpr h

/-- Printable text is still printable between quotes. -/
theorem printable_quoteChars (s : String) (h : Printable s.toList) : Printable (quoteChars s) := by
  rw [quoteChars_ofString, printable_cons, printable_append]
  refine ⟨by decide, fun c hc => ?_, by decide⟩
  obtain ⟨d, hd, hc⟩ := List.mem_flatMap.mp hc
  exact printable_escapeChar d (h d hd) c hc

/-- The items of a list are printable with what stands between them. -/
theorem printable_writeItems (first : Bool) (items : List Datum)
    (h : ∀ d ∈ items, Printable (write d)) : Printable (writeItems first items) := by
  induction items generalizing first with
  | nil =>
      rw [writeItems]
      decide
  | cons d items ih =>
      rw [List.forall_mem_cons] at h
      rw [writeItems, printable_append, printable_append]
      refine ⟨?_, h.1, ih false h.2⟩
      cases first <;> decide

/-- The fields of a record are printable with what stands between them. -/
theorem printable_writeFields (first : Bool) (fields : List (Text × Datum))
    (h : ∀ field ∈ fields, Printable (quoteChars field.1) ∧ Printable (write field.2)) :
    Printable (writeFields first fields) := by
  induction fields generalizing first with
  | nil =>
      rw [writeFields]
      decide
  | cons field fields ih =>
      rw [List.forall_mem_cons] at h
      have hfield : Printable (writeField field) := by
        rw [writeField, printable_append, printable_cons]
        exact ⟨h.1.1, by decide, h.1.2⟩
      rw [writeFields, printable_append, printable_append]
      refine ⟨?_, hfield, ih false h.2⟩
      cases first <;> decide

end Datum

namespace Schema

/-- Whether a type, its parts aside, names its fields in printable characters. -/
def labelled : Schema → Bool
  | .container _ fields => (fieldNames fields).all fun name => Printable name.toList
  | _ => true

theorem signedBlock_labelled (fork : Fork) : fork.signedBlock.every labelled = true := by
  cases fork <;> decide

/-- A row is printable if its elements are. -/
theorem printable_row (element : Schema) (vs : List Value)
    (h : ∀ v ∈ vs, Printable (Datum.write (element.present v))) :
    Printable (Datum.write (.list (vs.map element.present))) := by
  rw [Datum.write, printable_cons]
  exact ⟨by decide, Datum.printable_writeItems true _ (List.forall_mem_map.mpr h)⟩

mutual

/-- The node form of a value is written in printable text. -/
theorem printable_present : ∀ (s : Schema) (v : Value), s.every labelled = true → s.Admits v →
    Printable (Datum.write (s.present v))
  | .uint _ _, .uint n, _, _ => by
      rw [present, Datum.write]
      exact Datum.printable_quoteChars _ (Decimal.printable_text n)
  | .bytes _ _, .bytes bs, _, _ => by
      rw [present, Datum.write]
      exact Datum.printable_quoteChars _ (Hex.printable_marked bs)
  | .byteList _ _, .bytes bs, _, _ => by
      rw [present, Datum.write]
      exact Datum.printable_quoteChars _ (Hex.printable_marked bs)
  | .bitvector _ length, .bits bits, _, _ => by
      rw [present, Datum.write]
      exact Datum.printable_quoteChars _ (Hex.printable_marked _)
  | .bitlist _ _, .bits bits, _, _ => by
      rw [present, Datum.write]
      exact Datum.printable_quoteChars _ (Hex.printable_marked _)
  | .vector _ element _, .row vs, h, hadmits => by
      simp only [every, Bool.and_eq_true] at h
      rw [present]
      exact printable_row element vs fun v hv => printable_present element v h.2 (hadmits.2 v hv)
  | .list _ element _, .row vs, h, hadmits => by
      simp only [every, Bool.and_eq_true] at h
      rw [present]
      exact printable_row element vs fun v hv => printable_present element v h.2 (hadmits.2 v hv)
  | .container _ fields, .row vs, h, hadmits => by
      simp only [every, labelled, Bool.and_eq_true, List.all_eq_true, decide_eq_true_eq] at h
      rw [present, Datum.write, printable_cons]
      refine ⟨by decide, Datum.printable_writeFields true _ fun field hfield => ⟨?_, ?_⟩⟩
      · obtain ⟨name, hname, heq⟩ := mem_presentAll fields vs hadmits field hfield
        rw [heq]
        exact Datum.printable_quoteChars name (h.1 name hname)
      · exact printable_presentAll fields vs h.2 hadmits field hfield

theorem printable_presentAll : ∀ (fields : Fields) (vs : List Value),
    everyField labelled fields = true → AdmitsAll fields vs →
    ∀ field ∈ presentAll fields vs, Printable (Datum.write field.2)
  | .nil, [], _, _ => fun _ hfield => absurd hfield List.not_mem_nil
  | .cons _ type rest, v :: vs, h, hadmits => by
      simp only [everyField, Bool.and_eq_true] at h
      rw [presentAll, List.forall_mem_cons]
      exact ⟨printable_present type v h.1 hadmits.1, printable_presentAll rest vs h.2 hadmits.2⟩
  | .nil, _ :: _, _, hadmits => hadmits.elim
  | .cons _ _ _, [], _, hadmits => hadmits.elim

end

/-- The JSON text of a signed block is printable. -/
theorem printable_json (fork : Fork) (v : Value) (h : fork.signedBlock.Admits v) :
    Printable (fork.signedBlock.json v).toList := by
  rw [json, Datum.compact, String.toList_ofList]
  exact printable_present fork.signedBlock v (signedBlock_labelled fork) h

end Schema

end Beacon
