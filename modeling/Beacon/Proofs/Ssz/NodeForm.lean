import Beacon.Block.Basic
import Beacon.Proofs.Datum.RoundTrip
import Beacon.Proofs.Ssz.Checks
import Beacon.Proofs.Ssz.RoundTrip
import Mathlib.Data.Nat.Digits.Defs

/-!
# Node Form and Back

A value written in the form of the node API and read back is the value.

Two readers stand between the text and the value. The first makes data of text,
and what it needs is a matter of shape alone: strings, lists and records whose
fields have different names, in no more brackets than the reader has room for.
`nesting` counts those brackets by the type. The second makes a value of data,
and every kind of type has a reader of its own that must undo its own writer: a
numeral, the hex text of bytes, the hex text of the encoding of bits, a row, or
a record with a field for each field of the container.

`Readable` is what the two readers ask of a type. A container's fields have
different names, and a number is not so wide that its numeral would be refused
for its length.

## Main definitions

* `Readable`: A finished type without a name used twice and without numbers that
  are too long to be read.
* `nesting`: How many brackets are open at a time in a value's text.

## Theorems

* `textual_present`: The node form of a value is strings, lists and records.
* `read_present`: The node form of a value is read to the value.
* `read_json`: The text of a value is read back to the value, and the text of a
  block to the block.
-/

namespace Beacon

namespace Schema

open Outcome

/-- Whether a type, its parts aside, is finished, and its numerals are short
    enough to be read and its fields' names different. Three bits take less than
    one digit. -/
def readable : Schema → Bool
  | .uint _ bits => bits ≤ 3 * Decimal.maxDigits
  | .container _ fields => (fieldNames fields).Nodup
  | .unfinished _ _ => false
  | _ => true

/-- A finished type whose numbers can be read and whose containers name no field
    twice, at every depth. -/
def Readable (s : Schema) : Prop := s.every readable = true

instance (s : Schema) : Decidable s.Readable := inferInstanceAs (Decidable (_ = true))

mutual

/-- How many brackets are open at a time in the text of a value of a type. -/
def nesting : Schema → Nat
  | .vector _ element _ => element.nesting + 1
  | .list _ element _ => element.nesting + 1
  | .container _ fields => nestings fields + 1
  | _ => 0

/-- How many brackets are open at a time in the text of any field. -/
def nestings : Fields → Nat
  | .nil => 0
  | .cons _ type rest => max type.nesting (nestings rest)

end

/-! ### Text to data -/

theorem map_fst_presentAll : ∀ (fields : Fields) (vs : List Value), AdmitsAll fields vs →
    (presentAll fields vs).map Prod.fst = (fieldNames fields).map Text.ofString
  | .nil, [], _ => rfl
  | .cons name type rest, v :: vs, h => by
      rw [presentAll, fieldNames, List.map_cons, List.map_cons, map_fst_presentAll rest vs h.2]
  | .nil, _ :: _, h => h.elim
  | .cons _ _ _, [], h => h.elim

/-- The node form names no field twice if the container does not. -/
theorem nodup_presentAll (fields : Fields) (vs : List Value) (hadmits : AdmitsAll fields vs)
    (h : (fieldNames fields).Nodup) : ((presentAll fields vs).map Prod.fst).Nodup := by
  rw [map_fst_presentAll fields vs hadmits]
  exact h.map fun s t hst => Text.ofString_inj.mp hst

theorem mem_presentAll (fields : Fields) (vs : List Value) (hadmits : AdmitsAll fields vs)
    (field : Text × Datum) (hfield : field ∈ presentAll fields vs) :
    ∃ name ∈ fieldNames fields, field.1 = ↑name := by
  have hname : field.1 ∈ (fieldNames fields).map Text.ofString := by
    rw [← map_fst_presentAll fields vs hadmits]
    exact List.mem_map_of_mem hfield
  obtain ⟨name, hmem, hname⟩ := List.mem_map.mp hname
  exact ⟨name, hmem, hname.symm⟩

/-- A row takes one bracket more than its elements. -/
theorem textual_row (element : Schema) (vs : List Value) (room : Nat)
    (hroom : element.nesting + 1 ≤ room)
    (h : ∀ v ∈ vs, ∀ inner, element.nesting ≤ inner → Datum.Textual inner (element.present v)) :
    Datum.Textual room (.list (vs.map element.present)) := by
  obtain ⟨room, rfl⟩ : ∃ k, room = k + 1 := ⟨room - 1, by omega⟩
  refine .list ?_
  rw [List.forall_mem_map]
  exact fun v hv => h v hv room (by omega)

mutual

/-- The node form of a value is strings, lists and records, in as many brackets
    as its type says. -/
theorem textual_present : ∀ (s : Schema) (v : Value) (room : Nat), s.every readable = true →
    s.Admits v → s.nesting ≤ room → Datum.Textual room (s.present v)
  | .uint _ _, .uint n, _, _, _, _ => .text (Decimal.text n)
  | .bytes _ _, .bytes bs, _, _, _, _ => .text (Hex.marked bs)
  | .byteList _ _, .bytes bs, _, _, _, _ => .text (Hex.marked bs)
  | .bitvector _ length, .bits bits, _, _, _, _ => .text (Bits.vectorText length bits)
  | .bitlist _ _, .bits bits, _, _, _, _ => .text (Bits.listText bits)
  | .vector _ element _, .row vs, room, h, hadmits, hroom => by
      simp only [every, Bool.and_eq_true] at h
      rw [present]
      exact textual_row element vs room hroom fun v hv inner hinner =>
        textual_present element v inner h.2 (hadmits.2 v hv) hinner
  | .list _ element _, .row vs, room, h, hadmits, hroom => by
      simp only [every, Bool.and_eq_true] at h
      rw [present]
      exact textual_row element vs room hroom fun v hv inner hinner =>
        textual_present element v inner h.2 (hadmits.2 v hv) hinner
  | .container _ fields, .row vs, room, h, hadmits, hroom => by
      simp only [every, readable, Bool.and_eq_true, decide_eq_true_eq] at h
      rw [nesting] at hroom
      obtain ⟨room, rfl⟩ : ∃ k, room = k + 1 := ⟨room - 1, by omega⟩
      rw [present]
      refine .record (nodup_presentAll fields vs hadmits h.1) ?_
        (textual_presentAll fields vs room h.2 hadmits (by omega))
      intro field hfield
      obtain ⟨name, -, hname⟩ := mem_presentAll fields vs hadmits field hfield
      exact ⟨name, hname⟩
  | .unfinished _ _, _, _, h, _, _ => absurd h (by simp only [every, readable,
      Bool.false_eq_true, not_false_eq_true])

theorem textual_presentAll : ∀ (fields : Fields) (vs : List Value) (room : Nat),
    everyField readable fields = true → AdmitsAll fields vs → nestings fields ≤ room →
    ∀ field ∈ presentAll fields vs, Datum.Textual room field.2
  | .nil, [], _, _, _, _ => by
      intro field hfield
      exact absurd hfield List.not_mem_nil
  | .cons name type rest, v :: vs, room, h, hadmits, hroom => by
      simp only [everyField, Bool.and_eq_true] at h
      rw [nestings] at hroom
      rw [presentAll, List.forall_mem_cons]
      exact ⟨textual_present type v room h.1 hadmits.1 (by omega),
        textual_presentAll rest vs room h.2 hadmits.2 (by omega)⟩
  | .nil, _ :: _, _, _, hadmits, _ => hadmits.elim
  | .cons _ _ _, [], _, _, hadmits, _ => hadmits.elim

end

/-! ### Data to values -/

theorem ofDatum_marked (bs : Bytes) : Bytes.ofDatum (.text (Hex.marked bs)) = .ok bs := by
  rw [Bytes.ofDatum, Text.legible_ofString, Hex.read_marked]

/-- A numeral is not refused for its length as long as its number takes no more
    than three bits a digit. -/
theorem length_numeral_le (bits n : Nat) (hbits : bits ≤ 3 * Decimal.maxDigits)
    (h : n < Nat.pow 2 bits) : (Decimal.chars n).length ≤ Decimal.maxDigits := by
  have hwide : 2 ^ bits ≤ 2 ^ (3 * Decimal.maxDigits) := Nat.pow_le_pow_right (by decide) hbits
  have hdigits : 2 ^ (3 * Decimal.maxDigits) ≤ 10 ^ Decimal.maxDigits := by
    rw [Nat.pow_mul]
    exact Nat.pow_le_pow_left (by decide) Decimal.maxDigits
  have hn : n < 10 ^ Decimal.maxDigits :=
    Nat.lt_of_lt_of_le h (Nat.le_trans hwide hdigits)
  exact Nat.toDigits_length 10 n Decimal.maxDigits (by decide) hn

/-- A number's numeral is read to the number. -/
theorem read_numeral (name : String) (bits n : Nat) (hbits : bits ≤ 3 * Decimal.maxDigits)
    (h : n < Nat.pow 2 bits) : Number.read name bits (.text (Decimal.text n)) = .ok n := by
  have hlen := length_numeral_le bits n hbits h
  have hchars : Text.chars (Decimal.text n : Text) = Decimal.chars n := by
    rw [Text.ofString, Text.chars_ofChars, Decimal.toList_text]
  simp only [Number.read, Number.ofNumeral, hchars, Decimal.isNumeral_chars, Decimal.value_chars,
    Bool.not_true, Bool.false_eq_true, if_false]
  rw [if_neg (by omega), Number.ofInt, if_pos h]
  rfl

theorem decode_bitvector (name : String) (bits : List Bool) :
    (bitvector name bits.length).decode (Bits.fill ((bits.length + 7) / 8) bits)
      = .ok (.bits bits) := by
  rw [decode, Bits.length_fill, if_pos rfl, Bits.unpack_fill _ _ _ (Nat.le_refl _) (by omega),
    List.take_length]
  rfl

/-- A row is read if each of its elements is. -/
theorem readElements_map (type : String) (write : Value → Datum)
    (read : Datum → Except Fault Value) (vs : List Value)
    (h : ∀ v ∈ vs, read (write v) = .ok v) :
    readElements type read (.list (vs.map write)) = .ok vs := by
  rw [readElements, Datum.items?]
  simp only []
  rw [mapM_eq_ok_iff, List.forall₂_map_left_iff, List.forall₂_same]
  intro v hv
  exact checkedElement_eq_ok_iff.mpr (h v hv)

/-- A collection that does not stand in a record is read from its contents. -/
theorem readCollection_bare (contents : Datum → Except Fault Value) (absent d : Datum) (v : Value)
    (hbare : ∀ given, d ≠ .record given) (h : contents d = .ok v) :
    readCollection contents absent d = .ok v := by
  rw [readCollection]
  · rw [h]
    rfl
  · exact hbare

/-- A field is found by its name if no two fields have the same one. -/
theorem lookup_of_mem (fields : List (Text × Datum)) (h : (fields.map Prod.fst).Nodup)
    (field : Text × Datum) (hfield : field ∈ fields) : fields.lookup field.1 = some field.2 := by
  obtain ⟨before, after, rfl⟩ := List.append_of_mem hfield
  rw [List.lookup_eq_some_iff]
  refine ⟨before, after, rfl, ?_⟩
  intro other hother
  rw [List.map_append, List.nodup_append] at h
  rw [bne_iff_ne]
  exact (h.2.2 other.1 (List.mem_map_of_mem hother) field.1 List.mem_cons_self).symm

/-- A record of nothing but known fields is what its fields were checked to. -/
theorem closed_of_known {α : Type} (known : List String) (given : List (Text × Datum)) (a : α)
    (h : ∀ field ∈ given, ∃ name ∈ known, field.1 = ↑name) :
    Fault.closed known given (.ok a) = .ok a := by
  have hothers : Fault.others known given = [] := by
    rw [Fault.others, List.filter_eq_nil_iff, List.forall_mem_map]
    intro field hfield
    obtain ⟨name, hname, heq⟩ := h field hfield
    have hany : (known.any fun k => field.1 = k) = true :=
      List.any_eq_true.mpr ⟨name, hname, decide_eq_true heq⟩
    rw [hany]
    exact Bool.false_ne_true
  simp only [Fault.closed, hothers]
  rfl

mutual

/-- The node form of a value is read to the value. -/
theorem read_present : ∀ (s : Schema) (v : Value), s.every readable = true → s.Admits v →
    s.read (s.present v) = .ok v
  | .uint name bits, .uint n, h, hadmits => by
      simp only [every, readable, decide_eq_true_eq] at h
      rw [present, read, read_numeral name bits n h hadmits]
      rfl
  | .bytes _ length, .bytes bs, _, hadmits => by
      rw [present, read, readBytes, ofDatum_marked, Fault.refuse_eq_ok_iff]
      exact checkedBytes_eq_ok_iff.mpr ⟨bs, rfl, hadmits, rfl⟩
  | .byteList _ limit, .bytes bs, _, hadmits => by
      rw [present, read]
      refine readCollection_bare _ _ _ _ (fun given => Datum.noConfusion) ?_
      rw [readByteList, ofDatum_marked]
      exact checkedByteList_eq_ok_iff.mpr ⟨bs, rfl, hadmits, rfl⟩
  | .bitvector name length, .bits bits, _, hadmits => by
      have hlen : bits.length = length := hadmits
      rw [present, read, readBitfield, Bits.vectorText, ofDatum_marked, ok_bind, ← hlen,
        decode_bitvector]
      rfl
  | .bitlist name limit, .bits bits, _, hadmits => by
      rw [present, read, readBitfield, Bits.listText, ofDatum_marked, ok_bind,
        decode_bitlist name limit bits hadmits]
      rfl
  | .vector _ element _, .row vs, h, hadmits => by
      simp only [every, Bool.and_eq_true] at h
      have helements := readElements_map element.name element.present element.read vs fun v hv =>
        read_present element v h.2 (hadmits.2 v hv)
      rw [present, read]
      refine readCollection_bare _ _ _ _ (fun given => Datum.noConfusion) ?_
      rw [helements, ok_bind, if_pos hadmits.1]
      rfl
  | .list _ element _, .row vs, h, hadmits => by
      simp only [every, Bool.and_eq_true] at h
      have helements := readElements_map element.name element.present element.read vs fun v hv =>
        read_present element v h.2 (hadmits.2 v hv)
      rw [present, read]
      refine readCollection_bare _ _ _ _ (fun given => Datum.noConfusion) ?_
      rw [helements, ok_bind, if_pos hadmits.1]
      rfl
  | .container _ fields, .row vs, h, hadmits => by
      simp only [every, readable, Bool.and_eq_true, decide_eq_true_eq] at h
      have hlookup := lookup_of_mem _ (nodup_presentAll fields vs hadmits h.1)
      rw [present, read, readFields_present fields vs _ h.2 hadmits hlookup]
      exact closed_of_known _ _ _ (mem_presentAll fields vs hadmits)
  | .unfinished _ _, _, h, _ => absurd h (by simp only [every, readable, Bool.false_eq_true,
      not_false_eq_true])

/-- The fields of a container are read from any record in which each is found by
    its name. -/
theorem readFields_present : ∀ (fields : Fields) (vs : List Value) (given : List (Text × Datum)),
    everyField readable fields = true → AdmitsAll fields vs →
    (∀ field ∈ presentAll fields vs, given.lookup field.1 = some field.2) →
    readFields given fields = .ok vs
  | .nil, [], _, _, _, _ => rfl
  | .cons name type rest, v :: vs, given, h, hadmits, hgiven => by
      simp only [everyField, Bool.and_eq_true] at h
      rw [presentAll, List.forall_mem_cons] at hgiven
      rw [readFields, Fault.required, hgiven.1,
        readFields_present rest vs given h.2 hadmits.2 hgiven.2]
      simp only [read_present type v h.1 hadmits.1]
      rfl
  | .nil, _ :: _, _, _, hadmits, _ => hadmits.elim
  | .cons _ _ _, [], _, _, hadmits, _ => hadmits.elim

end

/-! ### Text to values -/

theorem signedBlock_readable (fork : Fork) : fork.signedBlock.Readable := by
  cases fork <;> decide

theorem signedBlock_nesting (fork : Fork) : fork.signedBlock.nesting ≤ Datum.maxDepth := by
  cases fork <;> decide

/-- The compact text of a value is read to data by every reader that has room for
    its brackets, and the data to the value. The text of a fork's signed block is
    read to the block, next to the name of the fork. -/
theorem read_json :
    (∀ (s : Schema) (v : Value) (room : Nat), s.Readable → s.Admits v → s.nesting ≤ room →
      ∃ d, Datum.parseWithin room (s.json v) = .ok d ∧ s.read d = .ok v) ∧
    (∀ (s : Schema) (v : Value), s.Readable → s.Admits v → s.nesting ≤ Datum.maxDepth →
      ∃ d, Datum.parse (s.json v) = .ok d ∧ s.read d = .ok v) ∧
    ∀ (fork : Fork) (v : Value), fork.signedBlock.Admits v →
      ∃ d, Datum.parse (fork.signedBlock.json v) = .ok d ∧
        Block.read fork.name d = .ok (Block.ofFork fork v) := by
  have hread : ∀ (s : Schema) (v : Value) (room : Nat), s.Readable → s.Admits v →
      s.nesting ≤ room →
      Datum.parseWithin room (s.json v) = .ok (s.present v) ∧ s.read (s.present v) = .ok v := by
    intro s v room h hadmits hroom
    exact ⟨Datum.parseWithin_compact (textual_present s v room h hadmits hroom),
      read_present s v h hadmits⟩
  refine ⟨fun s v room h hadmits hroom => ⟨_, hread s v room h hadmits hroom⟩, ?_, ?_⟩
  · intro s v h hadmits hroom
    rw [Datum.parse_eq_parseWithin]
    exact ⟨_, hread s v _ h hadmits hroom⟩
  · intro fork v hadmits
    obtain ⟨hparse, hvalue⟩ := hread fork.signedBlock v Datum.maxDepth (signedBlock_readable fork)
      hadmits (signedBlock_nesting fork)
    refine ⟨_, by rw [Datum.parse_eq_parseWithin]; exact hparse, ?_⟩
    rw [Block.read, Text.legible_ofString, Fork.ofName?_name]
    simp only [hvalue]

/-- A signed block of the first fork at a slot, with nothing in it and zeros for
    everything else. -/
def blankBlock (slot : Nat) : Value :=
  let root := Value.bytes (Bytes.zeros 32)
  let signature := Value.bytes (Bytes.zeros 96)
  let body := Value.row [signature, .row [root, .uint 0, root], root, .row [], .row [], .row [],
    .row [], .row []]
  .row [.row [.uint slot, .uint 0, root, root, body], signature]

theorem blankBlock_admitted (slot : Nat) (h : slot < Nat.pow 2 64) :
    Fork.phase0.signedBlock.Admits (blankBlock slot) := by
  have hroot : bytes32.Admits (.bytes (Bytes.zeros 32)) := Bytes.length_zeros 32
  have hsignature : bytes96.Admits (.bytes (Bytes.zeros 96)) := Bytes.length_zeros 96
  exact ⟨⟨h, by decide, hroot, hroot, by decide, trivial⟩, hsignature, trivial⟩

theorem slot_blankBlock (slot : Nat) : (Block.phase0 (blankBlock slot)).slot = slot := rfl

/-- A record of a number, bit lists and bytes, and a blank block. -/
theorem read_json_record :
    let s := record "Vote" [("slot", uint64), ("rows", .list "Rows" (.bitlist "Row" 9) 4),
      ("note", .byteList "Note" 4)]
    let v := Value.row [.uint 5, .row [.bits [true, false], .bits []], .bytes []]
    (s.Readable ∧ s.Admits v ∧ s.nesting ≤ Datum.maxDepth ∧
      s.json v
        = "\x7b\"slot\":\"5\",\"rows\":[\"0x05\",\"0x01\"],\"note\":\"0x\"\x7d" ∧
      ∃ d, Datum.parse (s.json v) = .ok d ∧ s.read d = .ok v) ∧
    Fork.phase0.signedBlock.Admits (blankBlock 7) ∧
      ∃ d, Datum.parse (Fork.phase0.signedBlock.json (blankBlock 7)) = .ok d ∧
        Block.read Fork.phase0.name d = .ok (.phase0 (blankBlock 7)) := by
  intro s v
  have hadmits : s.Admits v := by decide
  have hroom : s.nesting ≤ Datum.maxDepth := by decide
  have hblock : Fork.phase0.signedBlock.Admits (blankBlock 7) := blankBlock_admitted 7 (by decide)
  exact ⟨⟨by decide, hadmits, hroom, by decide, read_json.2.1 s v (by decide) hadmits hroom⟩,
    hblock, read_json.2.2 .phase0 (blankBlock 7) hblock⟩

end Schema

end Beacon
