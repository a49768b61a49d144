import Beacon.Proofs.Ssz.Blank
import Beacon.Proofs.Ssz.NodeForm

/-!
# Data of One Fork Only

No data is a signed block of two forks.

A container demands each of its fields and refuses every other one. So data that
two containers accept names exactly the fields of the first and exactly those of
the second, and the two have the same names; and under a name that both have
stands data that both types of the field accept. `Overlap` is that two types
accept the same data, and it goes down along a path of fields in this way.

Two signed blocks can therefore only overlap if their bodies do, at the end of
the path `message`, `body`. There the names decide: every fork adds a field to
the body that no fork before it has. What a fork changes further inside, in the
execution payload, is not needed for it.

## Main definitions

* `Schema.Overlap`: Two types accept the same data.

## Theorems

* `Schema.Overlap.fieldNames_subset`: Containers that overlap have the same field
  names.
* `Schema.Overlap.field`: The types of a field that both have overlap as well.
* `Fork.eq_of_overlap`: Signed blocks that overlap are of one fork.
* `Block.read_eq_ok_iff`: What it takes for data to be read under a name.
* `Block.read_by_one_fork`: Data is a block of at most one fork.
-/

namespace Beacon

open Outcome

namespace Schema

theorem fieldNames_eq_map : ∀ fields : Fields, fieldNames fields = fields.toList.map Prod.fst
  | .nil => rfl
  | .cons name type rest => by
      rw [fieldNames, Fields.toList, List.map_cons, fieldNames_eq_map rest]

/-- Under the name of every field stands data that the field's type accepts. -/
theorem lookup_of_readFields : ∀ (fields : Fields) (given : List (Text × Datum)) (vs : List Value),
    readFields given fields = .ok vs → ∀ field ∈ fields.toList,
      ∃ d v, given.lookup ↑field.1 = some d ∧ field.2.read d = .ok v
  | .nil, _, _, _ => fun _ hfield => absurd hfield List.not_mem_nil
  | .cons name type rest, given, vs, h => by
      rw [readFields] at h
      obtain ⟨v, more, hv, hmore, -⟩ := Fault.collect_eq_ok h
      obtain ⟨d, hd, hread⟩ := Fault.required_eq_ok hv
      rw [Fields.toList, List.forall_mem_cons]
      exact ⟨⟨d, v, hd, hread⟩, lookup_of_readFields rest given more hmore⟩

/-- Data that a container accepts is a record that has all of the container's
    fields and no others. -/
theorem record_of_read {name : String} {fields : Fields} {d : Datum} {v : Value}
    (h : (container name fields).read d = .ok v) :
    ∃ given, d = .record given ∧
      (∀ field ∈ fields.toList, ∃ e w, given.lookup ↑field.1 = some e ∧ field.2.read e = .ok w) ∧
      ∀ field ∈ given, ∃ known ∈ fieldNames fields, field.1 = ↑known := by
  cases d with
  | record given =>
      rw [read] at h
      obtain ⟨hchecked, hknown⟩ := Fault.closed_eq_ok h
      obtain ⟨vs, hvs, -⟩ := map_eq_ok_iff.mp hchecked
      exact ⟨given, rfl, lookup_of_readFields fields given vs hvs, hknown⟩
  | null | bool | int | real | text | bytes | list | tuple =>
      simp only [read, Fault.problem, reduceCtorEq] at h

/-- Two types accept the same data. -/
def Overlap (s t : Schema) : Prop := ∃ d v w, s.read d = .ok v ∧ t.read d = .ok w

namespace Overlap

variable {s t : Schema} {a b : String} {fields others : Fields}

theorem symm (h : s.Overlap t) : t.Overlap s := by
  obtain ⟨d, v, w, hv, hw⟩ := h
  exact ⟨d, w, v, hw, hv⟩

/-- A container that overlaps another one has no field that the other has not:
    the one would demand it and the other refuse it. -/
theorem fieldNames_subset (h : (container a fields).Overlap (container b others)) :
    fieldNames fields ⊆ fieldNames others := by
  obtain ⟨d, v, w, hv, hw⟩ := h
  obtain ⟨given, rfl, hgiven, -⟩ := record_of_read hv
  obtain ⟨given', heq, -, hknown⟩ := record_of_read hw
  obtain rfl := Datum.record.inj heq
  intro name hname
  rw [fieldNames_eq_map] at hname
  obtain ⟨field, hfield, rfl⟩ := List.mem_map.mp hname
  obtain ⟨e, -, hlookup, -⟩ := hgiven field hfield
  obtain ⟨before, after, rfl, -⟩ := List.lookup_eq_some_iff.mp hlookup
  obtain ⟨known, hmem, hsame⟩ := hknown (↑field.1, e)
    (List.mem_append_right before List.mem_cons_self)
  rw [Text.ofString_inj.mp hsame]
  exact hmem

/-- The types of a field overlap if their containers do. -/
theorem field (h : (container a fields).Overlap (container b others)) (name : String)
    (hs : (name, s) ∈ fields.toList) (ht : (name, t) ∈ others.toList) : s.Overlap t := by
  obtain ⟨d, v, w, hv, hw⟩ := h
  obtain ⟨given, rfl, hgiven, -⟩ := record_of_read hv
  obtain ⟨given', heq, hgiven', -⟩ := record_of_read hw
  obtain rfl := Datum.record.inj heq
  obtain ⟨e, x, he, hx⟩ := hgiven (name, s) hs
  obtain ⟨e', y, he', hy⟩ := hgiven' (name, t) ht
  obtain rfl : e = e' := Option.some.inj (he.symm.trans he')
  exact ⟨e, x, y, hx, hy⟩

end Overlap

end Schema

namespace Fork

open Schema

/-- The bodies of two forks do not have the same field names. -/
theorem eq_of_fieldNames (f g : Fork)
    (hfg : fieldNames f.body.fields ⊆ fieldNames g.body.fields)
    (hgf : fieldNames g.body.fields ⊆ fieldNames f.body.fields) : f = g := by
  revert hfg hgf
  cases f <;> cases g <;> decide

theorem body_eq_container (f : Fork) : f.body = .container "BeaconBlockBody" f.body.fields := by
  cases f <;> rfl

/-- Signed blocks that accept the same data are of one fork. -/
theorem eq_of_overlap {f g : Fork} (h : f.signedBlock.Overlap g.signedBlock) : f = g := by
  have hblock : f.block.Overlap g.block :=
    h.field "message" List.mem_cons_self List.mem_cons_self
  have hbody : f.body.Overlap g.body :=
    hblock.field "body" (List.mem_of_getLast? rfl) (List.mem_of_getLast? rfl)
  rw [body_eq_container f, body_eq_container g] at hbody
  exact eq_of_fieldNames f g hbody.fieldNames_subset hbody.symm.fieldNames_subset

end Fork

namespace Block

/-- Data is read to a block exactly if a fork is named and the data is a signed block
    of that fork. -/
theorem read_eq_ok_iff {version : Text} {d : Datum} {b : Block} :
    read version d = .ok b ↔ ∃ fork signed, Fork.ofName? version.legible = some fork ∧
      fork.signedBlock.read d = .ok signed ∧ ofFork fork signed = b := by
  constructor
  · intro h
    unfold read at h
    split at h
    · exact absurd h (by simp only [reduceCtorEq, not_false_eq_true])
    rename_i fork hfork
    split at h
    · rename_i signed hsigned
      exact ⟨fork, signed, hfork, hsigned, Except.ok.inj h⟩
    · exact absurd h (by simp only [reduceCtorEq, not_false_eq_true])
  · rintro ⟨fork, signed, hfork, hsigned, rfl⟩
    rw [read, hfork]
    simp only [hsigned]

/-- No data is a signed block of two forks. So it is read under the name of at most
    one fork, and what it is read to is a block of the fork that was named. -/
theorem read_by_one_fork (d : Datum) :
    (∀ f g : Fork, f ≠ g → ∀ v w, ¬(f.signedBlock.read d = .ok v ∧ g.signedBlock.read d = .ok w)) ∧
    (∀ (f g : Fork) (b c : Block), read f.name d = .ok b → read g.name d = .ok c →
      f = g ∧ b = c ∧ b.fork = f) ∧
    ∀ (version : Text) (b : Block), read version d = .ok b →
      Fork.ofName? version.legible = some b.fork ∧
        b.fork.signedBlock.read d = .ok b.signed := by
  refine ⟨?_, ?_, ?_⟩
  · rintro f g hne v w ⟨hv, hw⟩
    exact hne (Fork.eq_of_overlap ⟨d, v, w, hv, hw⟩)
  · intro f g b c hb hc
    obtain ⟨f', v, hf, hv, rfl⟩ := read_eq_ok_iff.mp hb
    obtain ⟨g', w, hg, hw, rfl⟩ := read_eq_ok_iff.mp hc
    rw [Text.legible_ofString, Fork.ofName?_name] at hf hg
    obtain rfl := Option.some.inj hf
    obtain rfl := Option.some.inj hg
    obtain rfl := Fork.eq_of_overlap ⟨d, v, w, hv, hw⟩
    rw [hv] at hw
    exact ⟨rfl, by rw [Except.ok.inj hw], fork_ofFork f v⟩
  · intro version b hb
    obtain ⟨fork, v, hfork, hv, rfl⟩ := read_eq_ok_iff.mp hb
    rw [fork_ofFork, signed_ofFork]
    exact ⟨hfork, hv⟩

/-- The node form of a blank Deneb block is no Capella block, and it is read under
    no other name than that of its fork, in whatever case the name is written. -/
theorem read_by_one_fork_blank :
    let v := Fork.deneb.signedBlock.blank
    let d := Fork.deneb.signedBlock.present v
    Fork.capella ≠ .deneb ∧ Fork.deneb.signedBlock.read d = .ok v ∧
      (∀ u, Fork.capella.signedBlock.read d ≠ .ok u) ∧
      read Fork.deneb.name d = .ok (.deneb v []) ∧
      (∀ (f : Fork) (b : Block), read f.name d = .ok b → f = .deneb) ∧
      read "Deneb" d = .ok (.deneb v []) ∧ Fork.ofName? "Deneb" = some .deneb := by
  intro v d
  have hread : Fork.deneb.signedBlock.read d = .ok v :=
    Schema.read_present _ v (Schema.signedBlock_readable .deneb)
      (Schema.blank_admitted _ (Schema.signedBlock_wellFormed .deneb))
  have hlower : read Fork.deneb.name d = .ok (.deneb v []) := by
    refine read_eq_ok_iff.mpr ⟨.deneb, v, ?_, hread, rfl⟩
    rw [Text.legible_ofString, Fork.ofName?_name]
  have hupper : read "Deneb" d = .ok (.deneb v []) := by
    refine read_eq_ok_iff.mpr ⟨.deneb, v, ?_, hread, rfl⟩
    rw [Text.legible_ofString]
    decide
  refine ⟨by decide, hread, ?_, hlower, ?_, hupper, ?_⟩
  · intro u hu
    exact (read_by_one_fork d).1 .capella .deneb (by decide) u v ⟨hu, hread⟩
  · intro f b hb
    exact ((read_by_one_fork d).2.1 f .deneb b _ hb hlower).1
  · have hfork := ((read_by_one_fork d).2.2 "Deneb" _ hupper).1
    rwa [Text.legible_ofString] at hfork

end Block

end Beacon
