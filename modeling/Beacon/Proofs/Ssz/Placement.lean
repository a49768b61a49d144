import Beacon.Proofs.Ssz.Bounds
import Beacon.Proofs.Ssz.Reading
import Beacon.Proofs.Ssz.NodeForm

/-!
# Where Data Holds a Value

What stands in the data of a value at the place of each of its parts.

A value that was read and the data it was read from are both entered step by step,
by the name of a field or by the place of an entry, and one way leads to a part of
the value and to the data of that part. `Fits` says what the node API has there:
text for bytes and bits, a list of as many entries for a sequence, and a record for
a container.

Reading takes more than that, and this is what the module is about. Every collection
may also be given as the argument of its constructor, and this is a record. It may
have a field `data` with the contents or nothing in it at all, and then the
collection is empty. Bits may be given one by one. `Wraps` says that a value stands
in its data in one of these forms.

There are no other forms, and one step shows it. Data that is read as a value fits
the value or wraps it (`fits_or_wraps`), and if it fits, then a step into the value
is a step into the data as well, and what it leads to is read as the part
(`read_into`). So a way into a value either has a way through the data beside it
from end to end, or the two part at a wrapper.

## Main definitions

* `Inward`: One step into a value or into data.
* `Typed.along?`, `Datum.along?`: What lies at the end of a way.
* `Datum.IsJson`: Data that a JSON text can hold.
* `Datum.Fits`, `Datum.FitsAt`: Data has the shape that the node API gives a value.
* `Datum.Wraps`, `Datum.WrapsAt`: Data holds a value in another form.

## Theorems

* `Datum.fits_or_wraps`: Data that is read fits its value or wraps it.
* `Datum.read_into`: A step into a value is one into data that fits it.
* `Datum.fits_along`: A way into a value comes to data that fits or by a wrapper.
* `Schema.along_of_mem_parts`: Every part of a value lies at the end of a way.
* `Block.fits_of_read`: The data of a block has the node's shape at every part of
  the block exactly if nothing in the block is wrapped.
* `Block.exists_read_unfit`: Where there are no slashings, a record may stand.
-/

namespace Beacon

open Outcome

/-- One step into a value or into data. -/
inductive Inward
  /-- To the field of a name. -/
  | field (name : String)
  /-- To an entry. -/
  | entry (place : Nat)
  deriving DecidableEq

namespace Typed

/-- The part of a value that a step leads to. -/
def into? : Inward → Typed → Option Typed
  | .field name, t => t.field? name
  | .entry place, t => (t.items [])[place]?

/-- The part of a value that a way leads to. -/
def along? : List Inward → Typed → Option Typed
  | [], t => some t
  | step :: way, t => (t.into? step).bind (along? way)

end Typed

namespace Datum

/-- What a step leads to in data. Only lists have entries. -/
def into? : Inward → Datum → Option Datum
  | .field name, d => d.field? name
  | .entry place, .list items => items[place]?
  | .entry _, _ => none

/-- What a way leads to in data. -/
def along? : List Inward → Datum → Option Datum
  | [], d => some d
  | step :: way, d => (d.into? step).bind (along? way)

/-- Data that a JSON text can hold: neither bytes nor tuples. -/
inductive IsJson : Datum → Prop
  | null : IsJson .null
  | bool (b : Bool) : IsJson (.bool b)
  | int (n : Int) : IsJson (.int n)
  | real (x : Binary64) : IsJson (.real x)
  | text (t : Text) : IsJson (.text t)
  | list {items : List Datum} (h : ∀ d ∈ items, IsJson d) : IsJson (.list items)
  | record {fields : List (Text × Datum)} (h : ∀ field ∈ fields, IsJson field.2) :
      IsJson (.record fields)

theorem isJson_list {items : List Datum} : IsJson (.list items) ↔ ∀ d ∈ items, IsJson d :=
  ⟨fun h => by cases h; assumption, .list⟩

theorem isJson_record {fields : List (Text × Datum)} :
    IsJson (.record fields) ↔ ∀ field ∈ fields, IsJson field.2 :=
  ⟨fun h => by cases h; assumption, .record⟩

/-- Data has the shape that the node API gives a value: text or a whole number for a
    number, text for bytes and bits, a list of as many entries for a sequence, and a
    record for a container. -/
inductive Fits : Datum → Typed → Prop
  | numeral (t : Text) (name : String) (bits : Nat) (v : Value) :
      Fits (.text t) ⟨.uint name bits, v⟩
  | number (n : Int) (name : String) (bits : Nat) (v : Value) : Fits (.int n) ⟨.uint name bits, v⟩
  | bytes (t : Text) (name : String) (length : Nat) (v : Value) :
      Fits (.text t) ⟨.bytes name length, v⟩
  | byteList (t : Text) (name : String) (limit : Nat) (v : Value) :
      Fits (.text t) ⟨.byteList name limit, v⟩
  | bitvector (t : Text) (name : String) (length : Nat) (v : Value) :
      Fits (.text t) ⟨.bitvector name length, v⟩
  | bitlist (t : Text) (name : String) (limit : Nat) (v : Value) :
      Fits (.text t) ⟨.bitlist name limit, v⟩
  | vector {items : List Datum} {vs : List Value} (name : String) (element : Schema) (length : Nat)
      (h : items.length = vs.length) : Fits (.list items) ⟨.vector name element length, .row vs⟩
  | list {items : List Datum} {vs : List Value} (name : String) (element : Schema) (limit : Nat)
      (h : items.length = vs.length) : Fits (.list items) ⟨.list name element limit, .row vs⟩
  | container (given : List (Text × Datum)) (name : String) (fields : Fields) (v : Value) :
      Fits (.record given) ⟨.container name fields, v⟩

end Datum

/-- Whether the values of a type are collections. -/
def Schema.isCollection : Schema → Bool
  | .byteList _ _ | .bitvector _ _ | .bitlist _ _ | .vector _ _ _ | .list _ _ _ => true
  | _ => false

/-- A collection has nothing in it. -/
def Value.IsVoid (v : Value) : Prop := v = .bytes [] ∨ v = .bits [] ∨ v = .row []

namespace Datum

/-- Data holds a value as the argument of a constructor would. A collection stands in
    a record that has no field but `data`, and there is nothing in the collection if
    the record has no field at all. Bits stand in a list one by one. -/
inductive Wraps : Datum → Typed → Prop
  | collection {given : List (Text × Datum)} {s : Schema} {v : Value}
      (hs : s.isCollection = true) (hdata : ∀ field ∈ given, field.1 = ↑"data")
      (hvoid : given = [] → v.IsVoid) : Wraps (.record given) ⟨s, v⟩
  | bitvector {items : List Datum} {bits : List Bool} (name : String) (length : Nat)
      (h : items.length = bits.length) : Wraps (.list items) ⟨.bitvector name length, .bits bits⟩
  | bitlist {items : List Datum} {bits : List Bool} (name : String) (limit : Nat)
      (h : items.length = bits.length) : Wraps (.list items) ⟨.bitlist name limit, .bits bits⟩

/-- At the end of a way there is data that fits what the way leads to in a value. -/
def FitsAt (d : Datum) (t : Typed) (way : List Inward) : Prop :=
  ∃ part e, t.along? way = some part ∧ d.along? way = some e ∧ e.Fits part

/-- At the end of a way there is data that wraps what the way leads to in a value. -/
def WrapsAt (d : Datum) (t : Typed) (way : List Inward) : Prop :=
  ∃ part e, t.along? way = some part ∧ d.along? way = some e ∧ e.Wraps part

/-- Data that wraps a value does not fit it. -/
theorem Wraps.not_fits {d : Datum} {t : Typed} (h : d.Wraps t) : ¬d.Fits t := by
  intro hfits
  cases h with
  | collection hs _ _ =>
      cases hfits
      exact absurd hs Bool.false_ne_true
  | bitvector | bitlist => cases hfits

/-! ### At one place -/

variable {name : String} {v : Value} {d : Datum}

theorem text_of_bytes {bs : Bytes} (hjson : d.IsJson) (h : Bytes.ofDatum d = .ok bs) :
    ∃ t, d = .text t := by
  cases hjson with
  | text t => exact ⟨t, rfl⟩
  | null | bool | int | real | list | record => simp only [Bytes.ofDatum, reduceCtorEq] at h

theorem list_of_items {items : List Datum} (hjson : d.IsJson)
    (hbare : ∀ given, d ≠ .record given) (h : d.items? = some items) : d = .list items := by
  cases hjson with
  | list => exact congrArg Datum.list (Option.some.inj h)
  | record => exact absurd rfl (hbare _)
  | null | bool | int | real | text => simp only [items?, reduceCtorEq] at h

/-- A collection is read from its contents, or it stands in a record for its contents
    alone. -/
theorem readCollection_cases {contents : Datum → Except Fault Value} {absent : Datum}
    (h : Schema.readCollection contents absent d = .ok v) :
    (∃ given, d = .record given ∧ (∀ field ∈ given, field.1 = ↑"data") ∧
      (given = [] → contents absent = .ok v)) ∨
    (∀ given, d ≠ .record given) ∧ contents d = .ok v := by
  unfold Schema.readCollection at h
  split at h
  · -- The record is closed, so that `data` is the only field it can have.
    rename_i given
    obtain ⟨hcontents, hknown⟩ := Fault.closed_eq_ok h
    refine .inl ⟨given, rfl, fun field hfield => ?_, ?_⟩
    · obtain ⟨known, hmem, hname⟩ := hknown field hfield
      rw [hname, List.mem_singleton.mp hmem]
    · rintro rfl
      exact Fault.under_eq_ok hcontents
  · rename_i hbare
    exact .inr ⟨fun given heq => hbare given heq, Fault.under_eq_ok h⟩

/-- A value that is checked for its size is made of what was there. -/
theorem exists_of_sized {α : Type} {x : Except Fault α} {p : α → Prop} [DecidablePred p]
    {f : α → Value} {fault : α → Fault}
    (h : (x >>= fun a => if p a then pure (f a) else .error (fault a)) = .ok v) :
    ∃ a, x = .ok a ∧ v = f a := by
  obtain ⟨a, ha, hsize⟩ := bind_eq_ok_iff.mp h
  exact ⟨a, ha, (ite_eq_ok_iff.mp hsize).2.symm⟩

/-- The contents of a sequence are so many items, each of which is read. -/
theorem readElements_eq_ok {type : String} {read : Datum → Except Fault Value} {vs : List Value}
    (h : Schema.readElements type read d = .ok vs) :
    ∃ items, d.items? = some items ∧ List.Forall₂ (fun item v => read item = .ok v) items vs := by
  unfold Schema.readElements at h
  split at h
  · exact absurd h (by simp only [reduceCtorEq, not_false_eq_true])
  rename_i items hitems
  exact ⟨items, hitems, (mapM_eq_ok_iff.mp h).imp fun _ _ => Schema.checkedElement_eq_ok_iff.mp⟩

/-- Bits that are not text are so many items. -/
theorem bits_eq_ok {bits : List Bool} (h : Bits.ofDatum d = .ok bits) :
    ∃ items, d.items? = some items ∧ items.length = bits.length := by
  unfold Bits.ofDatum at h
  split at h
  · rename_i items hitems
    exact ⟨items, hitems, (mapM_eq_ok_iff.mp h).length_eq⟩
  · exact absurd h (by simp only [reduceCtorEq, not_false_eq_true])

section

variable {s : Schema} {contents : Datum → Except Fault Value} (hjson : d.IsJson)
  (hs : s.isCollection = true)
include hjson hs

/-- A sequence is wrapped or stands in a list, entry by entry. -/
theorem sequence_cases {element : Schema}
    (hcontents : ∀ d, contents d = .ok v →
      ∃ vs, Schema.readElements element.name element.read d = .ok vs ∧ v = .row vs)
    (h : Schema.readCollection contents (.tuple []) d = .ok v) :
    d.Wraps ⟨s, v⟩ ∨ ∃ items vs, d = .list items ∧ v = .row vs ∧
      List.Forall₂ (fun item v => element.read item = .ok v) items vs := by
  rcases readCollection_cases h with ⟨given, rfl, hdata, habsent⟩ | ⟨hbare, h⟩
  · refine .inl (.collection hs hdata fun hgiven => ?_)
    obtain ⟨vs, hvs, rfl⟩ := hcontents _ (habsent hgiven)
    rw [← Except.ok.inj hvs]
    exact .inr (.inr rfl)
  · obtain ⟨vs, hvs, rfl⟩ := hcontents d h
    obtain ⟨items, hitems, hread⟩ := readElements_eq_ok hvs
    exact .inr ⟨items, vs, list_of_items hjson hbare hitems, rfl, hread⟩

/-- Bits are text, are wrapped or stand in a list one by one. -/
theorem bitfield_cases
    (hcontents : ∀ d, contents d = .ok v → ∃ bits, Bits.ofDatum d = .ok bits ∧ v = .bits bits)
    (h : Schema.readBitfield s contents d = .ok v) :
    (∃ t, d = .text t) ∨ d.Wraps ⟨s, v⟩ ∨
      ∃ items bits, d = .list items ∧ v = .bits bits ∧ items.length = bits.length := by
  unfold Schema.readBitfield at h
  split at h
  · exact .inl ⟨_, rfl⟩
  refine .inr ?_
  rcases readCollection_cases h with ⟨given, rfl, hdata, habsent⟩ | ⟨hbare, h⟩
  · refine .inl (.collection hs hdata fun hgiven => ?_)
    obtain ⟨bits, hbits, rfl⟩ := hcontents _ (habsent hgiven)
    rw [← Except.ok.inj hbits]
    exact .inr (.inl rfl)
  · obtain ⟨bits, hbits, rfl⟩ := hcontents d h
    obtain ⟨items, hitems, hlength⟩ := bits_eq_ok hbits
    exact .inr ⟨items, bits, list_of_items hjson hbare hitems, rfl, hlength⟩

end

theorem vector_cases {element : Schema} {length : Nat} (hjson : d.IsJson)
    (h : (Schema.vector name element length).read d = .ok v) :
    d.Wraps ⟨.vector name element length, v⟩ ∨ ∃ items vs, d = .list items ∧ v = .row vs ∧
      List.Forall₂ (fun item v => element.read item = .ok v) items vs := by
  rw [Schema.read] at h
  exact sequence_cases hjson rfl (fun _ hd => exists_of_sized hd) h

theorem list_cases {element : Schema} {limit : Nat} (hjson : d.IsJson)
    (h : (Schema.list name element limit).read d = .ok v) :
    d.Wraps ⟨.list name element limit, v⟩ ∨ ∃ items vs, d = .list items ∧ v = .row vs ∧
      List.Forall₂ (fun item v => element.read item = .ok v) items vs := by
  rw [Schema.read] at h
  exact sequence_cases hjson rfl (fun _ hd => exists_of_sized hd) h

/-- Data that is read as a value has the shape that the node API gives the value, or
    it wraps the value. -/
theorem fits_or_wraps {t : Typed} (hjson : d.IsJson) (h : t.type.read d = .ok t.value) :
    d.Fits t ∨ d.Wraps t := by
  obtain ⟨s, v⟩ := t
  -- Only collections are wrapped; numbers, fixed bytes and containers have one form.
  cases s with
  | uint name bits =>
      rw [Schema.read] at h
      obtain ⟨n, hn, rfl⟩ := map_eq_ok_iff.mp h
      cases (Number.read_eq_ok_iff.mp hn).1 with
      | whole => exact .inl (.number ..)
      | numeral => exact .inl (.numeral ..)
  | bytes name length =>
      rw [Schema.read] at h
      obtain ⟨bs, hbs, -⟩ := Schema.checkedBytes_eq_ok_iff.mp (Fault.refuse_eq_ok_iff.mp h)
      obtain ⟨t, rfl⟩ := text_of_bytes hjson hbs
      exact .inl (.bytes ..)
  | byteList name limit =>
      rw [Schema.read] at h
      rcases readCollection_cases h with ⟨given, rfl, hdata, habsent⟩ | ⟨-, hcontents⟩
      · refine .inr (.collection rfl hdata fun hgiven => ?_)
        obtain ⟨bs, hbs, -, rfl⟩ := Schema.checkedByteList_eq_ok_iff.mp (habsent hgiven)
        rw [← Except.ok.inj hbs]
        exact .inl rfl
      · obtain ⟨bs, hbs, -⟩ := Schema.checkedByteList_eq_ok_iff.mp hcontents
        obtain ⟨t, rfl⟩ := text_of_bytes hjson hbs
        exact .inl (.byteList ..)
  | bitvector name length =>
      rw [Schema.read] at h
      have hcontents (d : Datum) (hd : Schema.readBitvector name length d = .ok v) :
          ∃ bits, Bits.ofDatum d = .ok bits ∧ v = .bits bits := by
        obtain ⟨bits, hbits, -, rfl⟩ := Schema.checkedBitvector_eq_ok_iff.mp hd
        exact ⟨bits, hbits, rfl⟩
      rcases bitfield_cases hjson rfl hcontents h with
        ⟨t, rfl⟩ | hwraps | ⟨items, bits, rfl, rfl, hlength⟩
      · exact .inl (.bitvector ..)
      · exact .inr hwraps
      · exact .inr (.bitvector _ _ hlength)
  | bitlist name limit =>
      rw [Schema.read] at h
      have hcontents (d : Datum) (hd : Schema.readBitlist name limit d = .ok v) :
          ∃ bits, Bits.ofDatum d = .ok bits ∧ v = .bits bits := by
        obtain ⟨bits, hbits, -, rfl⟩ := Schema.checkedBitlist_eq_ok_iff.mp hd
        exact ⟨bits, hbits, rfl⟩
      rcases bitfield_cases hjson rfl hcontents h with
        ⟨t, rfl⟩ | hwraps | ⟨items, bits, rfl, rfl, hlength⟩
      · exact .inl (.bitlist ..)
      · exact .inr hwraps
      · exact .inr (.bitlist _ _ hlength)
  | vector name element length =>
      rcases vector_cases hjson h with hwraps | ⟨items, vs, rfl, rfl, hread⟩
      · exact .inr hwraps
      · exact .inl (.vector _ _ _ hread.length_eq)
  | list name element limit =>
      rcases list_cases hjson h with hwraps | ⟨items, vs, rfl, rfl, hread⟩
      · exact .inr hwraps
      · exact .inl (.list _ _ _ hread.length_eq)
  | container name fields =>
      obtain ⟨given, rfl, -⟩ := Schema.record_of_read h
      exact .inl (.container ..)
  | unfinished name outline => exact absurd h Schema.read_unfinished_ne_ok

/-! ### One step -/

/-- What a field holds was read from the field of its name. -/
theorem lookup_of_find? {given : List (Text × Datum)} {part : Typed} (fields : Fields)
    (vs : List Value) (h : Schema.readFields given fields = .ok vs)
    (hpart : fields.find? name vs = some part) :
    ∃ e, given.lookup ↑name = some e ∧ part.type.read e = .ok part.value := by
  induction vs generalizing fields with
  | nil => cases fields <;> simp only [Fields.find?, reduceCtorEq] at hpart
  | cons v vs ih =>
      cases fields with
      | nil => simp only [Fields.find?, reduceCtorEq] at hpart
      | cons first type rest =>
          rw [Schema.readFields] at h
          obtain ⟨w, ws, hw, hws, hcons⟩ := Fault.collect_eq_ok h
          obtain ⟨rfl, rfl⟩ := List.cons.inj hcons
          rw [Fields.find?] at hpart
          split at hpart
          · rename_i hname
            obtain rfl := Option.some.inj hpart
            obtain ⟨e, he, hread⟩ := Fault.required_eq_ok hw
            exact ⟨e, hname ▸ he, hread⟩
          · exact ih rest hws hpart

/-- What an entry holds was read from the entry at the same place, since a list that
    fits a sequence does not wrap it. -/
theorem read_entry {s element : Schema} {items : List Datum} {vs : List Value} {place : Nat}
    {part : Typed} (hfits : (Datum.list items).Fits ⟨s, .row vs⟩)
    (h : (Datum.list items).Wraps ⟨s, .row vs⟩ ∨ ∃ items' vs', Datum.list items = .list items' ∧
      Value.row vs = .row vs' ∧
      List.Forall₂ (fun item v => element.read item = .ok v) items' vs')
    (hpart : (vs.map (Typed.mk element))[place]? = some part) :
    ∃ e, items[place]? = some e ∧ part.type.read e = .ok part.value := by
  rcases h with hwraps | ⟨items', vs', heq, hvs, hread⟩
  · exact absurd hfits hwraps.not_fits
  obtain rfl := Datum.list.inj heq
  obtain rfl := Value.row.inj hvs
  obtain ⟨hlength, hread⟩ := List.forall₂_iff_get.mp hread
  rw [List.getElem?_map, Option.map_eq_some_iff] at hpart
  obtain ⟨v, hv, rfl⟩ := hpart
  obtain ⟨hplace, rfl⟩ := List.getElem?_eq_some_iff.mp hv
  have hitem : place < items.length := hlength ▸ hplace
  exact ⟨items[place], List.getElem?_eq_getElem hitem, hread place hitem hplace⟩

/-- A step into a value is a step into data that fits it, and what the step leads to
    is read as the part. -/
theorem read_into {t part : Typed} {step : Inward} (hjson : d.IsJson) (hfits : d.Fits t)
    (h : t.type.read d = .ok t.value) (hpart : t.into? step = some part) :
    ∃ e, d.into? step = some e ∧ part.type.read e = .ok part.value := by
  cases hfits with
  | numeral | number | bytes | byteList | bitvector | bitlist =>
      cases step <;> simp only [Typed.into?, Typed.field?, Typed.items, Typed.at?,
        List.getElem?_nil, reduceCtorEq] at hpart
  | vector name element length hlength =>
      cases step with
      | field => simp only [Typed.into?, Typed.field?, reduceCtorEq] at hpart
      | entry place =>
          exact read_entry (.vector name element length hlength) (vector_cases hjson h) hpart
  | list name element limit hlength =>
      cases step with
      | field => simp only [Typed.into?, Typed.field?, reduceCtorEq] at hpart
      | entry place =>
          exact read_entry (.list name element limit hlength) (list_cases hjson h) hpart
  | container given name fields v =>
      cases step with
      | entry =>
          simp only [Typed.into?, Typed.items, Typed.at?, List.getElem?_nil, reduceCtorEq] at hpart
      | field key =>
          rw [Schema.read] at h
          obtain ⟨vs, hvs, rfl⟩ := map_eq_ok_iff.mp (Fault.closed_eq_ok h).1
          exact lookup_of_find? fields vs hvs hpart

/-- What a step leads to in data that a JSON text can hold is such data. -/
theorem IsJson.into {step : Inward} {e : Datum} (hjson : d.IsJson) (h : d.into? step = some e) :
    e.IsJson := by
  cases hjson with
  | list hitems =>
      cases step with
      | field => simp only [into?, field?, reduceCtorEq] at h
      | entry => exact hitems e (List.mem_of_getElem? h)
  | record hfields =>
      cases step with
      | entry => simp only [into?, reduceCtorEq] at h
      | field =>
          obtain ⟨before, after, rfl, -⟩ := List.lookup_eq_some_iff.mp h
          exact hfields _ (List.mem_append_right before List.mem_cons_self)
  | null | bool | int | real | text =>
      cases step <;> simp only [into?, field?, reduceCtorEq] at h

/-! ### A whole way -/

/-- One way leads to one place, and what is there does not both fit and wrap. -/
theorem WrapsAt.not_fitsAt {t : Typed} {way : List Inward} (h : d.WrapsAt t way) :
    ¬d.FitsAt t way := by
  rintro ⟨part, e, hpart, he, hfits⟩
  obtain ⟨whole, w, hwhole, hw, hwraps⟩ := h
  obtain rfl := Option.some.inj (hpart.symm.trans hwhole)
  obtain rfl := Option.some.inj (he.symm.trans hw)
  exact hwraps.not_fits hfits

/-- Where a way into a value that was read leads to a part, it leads through the data
    to data that fits the part, unless it comes by a wrapper. -/
theorem fits_along {t part : Typed} {way : List Inward} (hjson : d.IsJson)
    (h : t.type.read d = .ok t.value) (hpart : t.along? way = some part) :
    d.FitsAt t way ∨ ∃ above, above <+: way ∧ d.WrapsAt t above := by
  induction way generalizing t d with
  | nil =>
      rcases fits_or_wraps hjson h with hfits | hwraps
      · exact .inl ⟨t, d, rfl, rfl, hfits⟩
      · exact .inr ⟨[], List.nil_prefix, t, d, rfl, rfl, hwraps⟩
  | cons step way ih =>
      -- The way through the data goes on as long as the data fits.
      rcases fits_or_wraps hjson h with hfits | hwraps
      · obtain ⟨inner, hinner, hpart⟩ := Option.bind_eq_some_iff.mp hpart
        obtain ⟨e, he, hread⟩ := read_into hjson hfits h hinner
        have hway (rest : List Inward) : t.along? (step :: rest) = inner.along? rest ∧
            d.along? (step :: rest) = e.along? rest := by
          rw [Typed.along?, along?, hinner, he]
          exact ⟨rfl, rfl⟩
        rw [FitsAt, (hway way).1, (hway way).2]
        refine (ih (hjson.into he) hread hpart).imp_right ?_
        rintro ⟨above, habove, hwraps⟩
        refine ⟨step :: above, List.cons_prefix_cons.mpr ⟨rfl, habove⟩, ?_⟩
        rw [WrapsAt, (hway above).1, (hway above).2]
        exact hwraps
      · exact .inr ⟨[], List.nil_prefix, t, d, rfl, rfl, hwraps⟩

end Datum

namespace Schema

/-- An entry of a row is one step away. -/
theorem along_entry {vs : List Value} {v : Value} {t part : Typed} {element : Schema}
    (hitems : t.items [] = vs.map (Typed.mk element)) (hv : v ∈ vs)
    (h : ∃ way, Typed.along? way ⟨element, v⟩ = some part) : ∃ way, t.along? way = some part := by
  obtain ⟨way, hway⟩ := h
  obtain ⟨place, hplace⟩ := List.mem_iff_getElem?.mp hv
  refine ⟨.entry place :: way, ?_⟩
  rw [Typed.along?, Typed.into?, hitems, List.getElem?_map, hplace]
  exact hway

mutual

/-- Every part of a value lies at the end of a way into the value. -/
theorem along_of_mem_parts : ∀ (s : Schema) (v : Value), s.every readable = true →
    ∀ part ∈ s.parts v, ∃ way, Typed.along? way ⟨s, v⟩ = some part
  | .vector name element length, .row vs, h, part, hpart => by
      simp only [every, Bool.and_eq_true] at h
      rw [parts, List.mem_cons, List.mem_flatMap] at hpart
      rcases hpart with rfl | ⟨v, hv, hpart⟩
      · exact ⟨[], rfl⟩
      · exact along_entry rfl hv (along_of_mem_parts element v h.2 part hpart)
  | .list name element limit, .row vs, h, part, hpart => by
      simp only [every, Bool.and_eq_true] at h
      rw [parts, List.mem_cons, List.mem_flatMap] at hpart
      rcases hpart with rfl | ⟨v, hv, hpart⟩
      · exact ⟨[], rfl⟩
      · exact along_entry rfl hv (along_of_mem_parts element v h.2 part hpart)
  | .container name fields, .row vs, h, part, hpart => by
      simp only [every, readable, Bool.and_eq_true, decide_eq_true_eq] at h
      rw [parts, List.mem_cons] at hpart
      rcases hpart with rfl | hpart
      · exact ⟨[], rfl⟩
      · obtain ⟨key, -, t, way, hfind, hway⟩ :=
          along_of_mem_fieldParts fields vs h.2 h.1 part hpart
        refine ⟨.field key :: way, ?_⟩
        rw [Typed.along?, Typed.into?, Typed.field?, hfind]
        exact hway
  | .uint _ _, v, _, part, hpart | .bytes _ _, v, _, part, hpart
  | .byteList _ _, v, _, part, hpart | .bitvector _ _, v, _, part, hpart
  | .bitlist _ _, v, _, part, hpart | .unfinished _ _, v, _, part, hpart => by
      simp only [parts, List.mem_singleton] at hpart
      exact ⟨[], congrArg some hpart.symm⟩
  | .vector _ _ _, .uint _, _, part, hpart | .vector _ _ _, .bytes _, _, part, hpart
  | .vector _ _ _, .bits _, _, part, hpart | .list _ _ _, .uint _, _, part, hpart
  | .list _ _ _, .bytes _, _, part, hpart | .list _ _ _, .bits _, _, part, hpart
  | .container _ _, .uint _, _, part, hpart | .container _ _, .bytes _, _, part, hpart
  | .container _ _, .bits _, _, part, hpart => by
      simp only [parts, List.mem_singleton] at hpart
      exact ⟨[], congrArg some hpart.symm⟩

/-- Every part of a field's value lies behind the name of the field, since no other
    field has it. -/
theorem along_of_mem_fieldParts : ∀ (fields : Fields) (vs : List Value),
    everyField readable fields = true → (fieldNames fields).Nodup →
    ∀ part ∈ fieldParts fields vs, ∃ key ∈ fieldNames fields, ∃ t way,
      fields.find? key vs = some t ∧ t.along? way = some part
  | .nil, _, _, _, part, hpart => absurd hpart List.not_mem_nil
  | .cons _ _ _, [], _, _, part, hpart => absurd hpart List.not_mem_nil
  | .cons name type rest, v :: vs, h, hnames, part, hpart => by
      simp only [everyField, Bool.and_eq_true] at h
      rw [fieldNames, List.nodup_cons] at hnames
      rw [fieldParts, List.mem_append] at hpart
      rcases hpart with hpart | hpart
      · obtain ⟨way, hway⟩ := along_of_mem_parts type v h.1 part hpart
        exact ⟨name, List.mem_cons_self, ⟨type, v⟩, way, if_pos rfl, hway⟩
      · -- The name is found behind this field, because this field has another one.
        obtain ⟨key, hkey, t, way, hfind, hway⟩ :=
          along_of_mem_fieldParts rest vs h.2 hnames.2 part hpart
        have hne : name ≠ key := fun heq => hnames.1 (heq ▸ hkey)
        exact ⟨key, List.mem_cons_of_mem name hkey, t, way, (if_neg hne).trans hfind, hway⟩

end

end Schema

namespace Schema

theorem readFields_of_lookup {given : List (Text × Datum)} {fields : List (String × Schema)}
    {vs : List Value} (h : List.Forall₂
      (fun field v => ∃ e, given.lookup ↑field.1 = some e ∧ field.2.read e = .ok v) fields vs) :
    readFields given (Fields.ofList fields) = .ok vs := by
  induction h with
  | nil => rfl
  | cons hfield _ ih =>
      obtain ⟨e, he, hread⟩ := hfield
      rw [Fields.ofList, readFields, ih, Fault.required, he]
      simp only [hread]
      rfl

/-- A record that names the fields of a container is read if the data of each field
    is. -/
theorem read_record (name : String) {given : List (Text × Datum)}
    {fields : List (String × Schema)} {vs : List Value}
    (hnames : given.map Prod.fst = fields.map fun field => ↑field.1)
    (h : List.Forall₂
      (fun field v => ∃ e, given.lookup ↑field.1 = some e ∧ field.2.read e = .ok v) fields vs) :
    (record name fields).read (.record given) = .ok (.row vs) := by
  rw [record, read, readFields_of_lookup h]
  refine closed_of_known _ _ _ fun field hfield => ?_
  have hname : field.1 ∈ fields.map fun field => (↑field.1 : Text) :=
    hnames ▸ List.mem_map_of_mem hfield
  obtain ⟨known, hmem, heq⟩ := List.mem_map.mp hname
  rw [fieldNames_eq_map, Fields.toList_ofList]
  exact ⟨known.1, List.mem_map_of_mem hmem, heq.symm⟩

end Schema

namespace Block

theorem read_typed {version : Text} {d : Datum} {b : Block} (h : read version d = .ok b) :
    b.typed.type.read d = .ok b.typed.value := by
  obtain ⟨fork, signed, -, hread, rfl⟩ := read_eq_ok_iff.mp h
  rw [typed, fork_ofFork, signed_ofFork]
  exact hread

/-- The node form of a blank block of the first fork, with any data for its proposer
    slashings. -/
def blankForm (slashings : Datum) : Datum :=
  let root := Datum.text (Hex.marked (Bytes.zeros 32))
  let signature := Datum.text (Hex.marked (Bytes.zeros 96))
  let eth1Data := Datum.record [("deposit_root", root), ("deposit_count", .text "0"),
    ("block_hash", root)]
  let body := Datum.record [("randao_reveal", signature), ("eth1_data", eth1Data),
    ("graffiti", root), ("proposer_slashings", slashings), ("attester_slashings", .list []),
    ("attestations", .list []), ("deposits", .list []), ("voluntary_exits", .list [])]
  .record [("message", .record [("slot", .text "7"), ("proposer_index", .text "0"),
    ("parent_root", root), ("state_root", root), ("body", body)]), ("signature", signature)]

theorem isJson_blankForm {slashings : Datum} (h : slashings.IsJson) :
    (blankForm slashings).IsJson := by
  have htext (t : Text) : (Datum.text t).IsJson := .text t
  simp only [blankForm, Datum.isJson_record, Datum.isJson_list, List.forall_mem_cons,
    List.not_mem_nil, false_implies, implies_true, htext, h, and_true]

open Schema in
/-- Whatever is read as no slashings leaves the block blank. -/
theorem read_blankForm {slashings : Datum}
    (h : Operation.proposerSlashings.read slashings = .ok (.row [])) :
    read ↑"phase0" (blankForm slashings) = .ok (.phase0 (blankBlock 7)) := by
  have hnumber (n : Nat) (hn : n < Nat.pow 2 64) :
      uint64.read (.text (Decimal.text n)) = .ok (.uint n) :=
    read_present uint64 (.uint n) (by decide) hn
  have hbytes (name : String) (length : Nat) :
      (Schema.bytes name length).read (.text (Hex.marked (Bytes.zeros length)))
        = .ok (.bytes (Bytes.zeros length)) :=
    read_present _ (.bytes (Bytes.zeros length)) rfl (Bytes.length_zeros length)
  have hroot : bytes32.read _ = _ := hbytes "Bytes32" 32
  have hsignature : bytes96.read _ = _ := hbytes "Bytes96" 96
  have heth1Data := read_present Operation.eth1Data
    (.row [.bytes (Bytes.zeros 32), .uint 0, .bytes (Bytes.zeros 32)]) (by decide) (by decide)
  refine read_eq_ok_iff.mpr ⟨.phase0, blankBlock 7, by decide, ?_, rfl⟩
  refine read_record _ rfl (.cons ⟨_, rfl, ?message⟩ (.cons ⟨_, rfl, hsignature⟩ .nil))
  refine read_record _ rfl (.cons ⟨_, rfl, hnumber 7 (by decide)⟩ (.cons
    ⟨_, rfl, hnumber 0 (by decide)⟩ (.cons ⟨_, rfl, hroot⟩ (.cons ⟨_, rfl, hroot⟩ (.cons
      ⟨_, rfl, ?body⟩ .nil)))))
  exact read_record _ rfl (.cons ⟨_, rfl, hsignature⟩ (.cons ⟨_, rfl, heth1Data⟩ (.cons
    ⟨_, rfl, hroot⟩ (.cons ⟨_, rfl, h⟩ (.cons ⟨_, rfl, rfl⟩ (.cons ⟨_, rfl, rfl⟩ (.cons
      ⟨_, rfl, rfl⟩ (.cons ⟨_, rfl, rfl⟩ .nil))))))))

/-- Every part of a block that was read lies at the end of a way into the block. The
    data fits the part there, unless the way comes by a wrapper. So the data has the
    shape that the node API gives the block at each of its parts exactly if nothing in
    the block is wrapped. -/
theorem fits_of_read {version : Text} {d : Datum} {b : Block} (hjson : d.IsJson)
    (h : read version d = .ok b) :
    (∀ part ∈ b.typed.type.parts b.typed.value, ∃ way, b.typed.along? way = some part) ∧
    (∀ way part, b.typed.along? way = some part →
      d.FitsAt b.typed way ∨ ∃ above, above <+: way ∧ d.WrapsAt b.typed above) ∧
    ((∀ way part, b.typed.along? way = some part → d.FitsAt b.typed way) ↔
      ∀ way, ¬d.WrapsAt b.typed way) := by
  have hread := read_typed h
  have hfits : ∀ way part, b.typed.along? way = some part →
      d.FitsAt b.typed way ∨ ∃ above, above <+: way ∧ d.WrapsAt b.typed above :=
    fun way part => Datum.fits_along hjson hread
  refine ⟨?_, hfits, fun hall way hwraps => ?_, fun hnone way part hpart => ?_⟩
  · exact Schema.along_of_mem_parts _ _ (Schema.signedBlock_readable b.fork)
  · obtain ⟨part, e, hpart, -, -⟩ := id hwraps
    exact hwraps.not_fitsAt (hall way part hpart)
  · rcases hfits way part hpart with hfits | ⟨above, -, hwraps⟩
    · exact hfits
    · exact absurd hwraps (hnone above)

/-- A record with nothing in it is read as no slashings at all. -/
theorem fits_of_read_nothing :
    let d := blankForm (.record [])
    let b := Block.phase0 (Schema.blankBlock 7)
    let slashings := [.field "message", .field "body", .field "proposer_slashings"]
    d.IsJson ∧ read ↑"phase0" d = .ok b ∧ d.WrapsAt b.typed slashings ∧
      ¬∀ way part, b.typed.along? way = some part → d.FitsAt b.typed way := by
  intro d b slashings
  have hjson : d.IsJson := isJson_blankForm (.record (List.forall_mem_nil _))
  have hread : read ↑"phase0" d = .ok b := read_blankForm rfl
  have hwraps : d.WrapsAt b.typed slashings :=
    ⟨_, _, rfl, rfl, .collection rfl (List.forall_mem_nil _) fun _ => .inr (.inr rfl)⟩
  refine ⟨hjson, hread, hwraps, fun hall => ?_⟩
  exact (fits_of_read hjson hread).2.2.mp hall slashings hwraps

/-- Not all data that is read as a block has the shape that the node API gives the
    block: where there are no slashings, a record may stand. -/
theorem exists_read_unfit : ¬∀ (version : Text) (d : Datum) (b : Block), d.IsJson →
    read version d = .ok b →
      ∀ way part, b.typed.along? way = some part → d.FitsAt b.typed way := by
  intro hall
  have hjson := isJson_blankForm (.record (List.forall_mem_nil _))
  have hfits := hall "phase0" _ _ hjson (read_blankForm rfl)
    [.field "message", .field "body", .field "proposer_slashings"] _ rfl
  obtain ⟨part, e, hpart, he, hfits⟩ := hfits
  obtain rfl := Option.some.inj hpart
  obtain rfl := Option.some.inj he
  -- A record fits none but a container.
  nomatch hfits

end Block

end Beacon
