import Beacon.Proofs.Event.Head
import Beacon.Proofs.Fork.Exclusive
import Beacon.Proofs.Ssz.Refusal

/-!
# Reading Arbitrary Data

What comes of reading when nothing is known of the data.

Data may have any shape at any depth: a list where a record is due, a text where
a list is due, numbers that are too large, fields that are missing. As with bytes,
reading ends in one of two ways, in a value that belongs to the type or in a fault
that says that the data was refused, and the two ways are separate arguments.

A value belongs to its type because every path through a check passes the comparison
with the type's bound. Hex text for a bit string is the exception: it is decoded, and
what is decoded belongs to its type for reasons of its own.

The fault needs some care, because not every fault is collected. A cause that is
raised in a check is turned into a problem there, and the faults that end the whole
check are of the family of faults of values. Nothing else can come up as long as
the type is complete, and `Fault.OfData` says so in a form that every step keeps,
collecting or not.

## Main definitions

* `Datum.States`: Data states a number.
* `Fault.OfData`: A fault says that data was refused.

## Theorems

* `Number.read_eq_ok_iff`: A number is read if data states it and it is in range.
* `Schema.admits_of_read`: Whatever is read belongs to its type.
* `Schema.failsIn_read`: Reading only refuses data.
-/

namespace Beacon

open Outcome

/-! ### Numbers -/

/-- Data states a number: it is the number, or it is a numeral of the number that
    is not too long to be read. -/
inductive Datum.States : Datum → Nat → Prop
  | whole (n : Nat) : States (.int n) n
  | numeral {t : Text} (hnumeral : Decimal.isNumeral t.chars = true)
      (hlength : t.chars.length ≤ Decimal.maxDigits) : States (.text t) (Decimal.value t.chars)

namespace Number

variable {type : String} {bits n : Nat}

theorem ofInt_eq_ok_iff {i : Int} :
    ofInt type bits i = .ok n ↔ i = Int.ofNat n ∧ n < Nat.pow 2 bits := by
  unfold ofInt
  cases i with
  | negSucc m => simp only [reduceCtorEq, false_and]
  | ofNat m =>
      simp only [Int.ofNat_eq_natCast, Nat.cast_inj]
      split
      · rename_i hm
        rw [Except.ok.injEq]
        exact ⟨fun h => ⟨h, h ▸ hm⟩, And.left⟩
      · rename_i hm
        simp only [reduceCtorEq, false_iff]
        rintro ⟨rfl, hn⟩
        exact hm hn

theorem ofNumeral_eq_ok_iff {t : Text} :
    ofNumeral type bits t = .ok n ↔
      Decimal.isNumeral t.chars = true ∧ t.chars.length ≤ Decimal.maxDigits ∧
        Decimal.value t.chars = n ∧ n < Nat.pow 2 bits := by
  unfold ofNumeral
  simp only []
  cases Decimal.isNumeral t.chars with
  | false => simp only [Bool.not_false, if_true, reduceCtorEq, Bool.false_eq_true, false_and]
  | true =>
      simp only [Bool.not_true, Bool.false_eq_true, if_false, true_and]
      split
      · rename_i hlong
        simp only [reduceCtorEq, false_iff, not_and]
        intro hlength
        exact absurd hlength (Nat.not_le_of_gt hlong)
      · rename_i hlong
        rw [ofInt_eq_ok_iff, Int.ofNat.injEq]
        exact (and_iff_right (Nat.le_of_not_gt hlong)).symm

theorem make_eq_ok_iff {d : Datum} :
    make type bits d = .ok n ↔ d = .int n ∧ n < Nat.pow 2 bits := by
  cases d with
  | int i =>
      rw [make, ofInt_eq_ok_iff, Datum.int.injEq]
      rfl
  | null | bool | real | text | bytes | list | tuple | record =>
      simp only [make, reduceCtorEq, false_and]

/-- A number is read if data states it and it is in the type's range. -/
theorem read_eq_ok_iff {d : Datum} :
    read type bits d = .ok n ↔ d.States n ∧ n < Nat.pow 2 bits := by
  unfold read
  rw [Fault.refuse_eq_ok_iff]
  constructor
  · intro h
    split at h
    · obtain ⟨hnumeral, hlength, rfl, hn⟩ := ofNumeral_eq_ok_iff.mp h
      exact ⟨.numeral hnumeral hlength, hn⟩
    · obtain ⟨rfl, hn⟩ := make_eq_ok_iff.mp h
      exact ⟨.whole n, hn⟩
  · rintro ⟨hstates, hn⟩
    cases hstates with
    | whole => exact make_eq_ok_iff.mpr ⟨rfl, hn⟩
    | numeral hnumeral hlength => exact ofNumeral_eq_ok_iff.mpr ⟨hnumeral, hlength, rfl, hn⟩

end Number

namespace Schema

/-! ### What is read -/

variable {name : String} {v : Value} {d : Datum}

/-- What is read from a collection is read from contents of it. -/
theorem readCollection_eq_ok {contents : Datum → Except Fault Value} {absent : Datum}
    (h : readCollection contents absent d = .ok v) : ∃ d', contents d' = .ok v := by
  unfold readCollection at h
  split at h
  · exact ⟨_, Fault.under_eq_ok (Fault.closed_eq_ok h).1⟩
  · exact ⟨_, Fault.under_eq_ok h⟩

/-- A bit string is decoded from hex text or read from contents. -/
theorem readBitfield_eq_ok {s : Schema} {contents : Datum → Except Fault Value}
    (h : readBitfield s contents d = .ok v) :
    (∃ bs, s.decode bs = .ok v) ∨ ∃ d', contents d' = .ok v := by
  unfold readBitfield at h
  split at h
  · obtain ⟨bs, -, hdec⟩ := bind_eq_ok_iff.mp (Fault.refuse_eq_ok_iff.mp h)
    exact .inl ⟨bs, hdec⟩
  · exact .inr (readCollection_eq_ok h)

theorem admits_of_readBytes {length : Nat} (h : readBytes name length d = .ok v) :
    (Schema.bytes name length).Admits v := by
  obtain ⟨bs, -, hlength, rfl⟩ := checkedBytes_eq_ok_iff.mp h
  exact hlength

theorem admits_of_readByteList {limit : Nat} (h : readByteList name limit d = .ok v) :
    (Schema.byteList name limit).Admits v := by
  obtain ⟨bs, -, hlimit, rfl⟩ := checkedByteList_eq_ok_iff.mp h
  exact hlimit

theorem admits_of_readBitvector {length : Nat} (h : readBitvector name length d = .ok v) :
    (Schema.bitvector name length).Admits v := by
  obtain ⟨bits, -, hlength, rfl⟩ := checkedBitvector_eq_ok_iff.mp h
  exact hlength

theorem admits_of_readBitlist {limit : Nat} (h : readBitlist name limit d = .ok v) :
    (Schema.bitlist name limit).Admits v := by
  obtain ⟨bits, -, hlimit, rfl⟩ := checkedBitlist_eq_ok_iff.mp h
  exact hlimit

/-- The elements of a sequence belong to the element type if whatever is read of it
    does. -/
theorem admits_of_readElements {element : Schema} {vs : List Value}
    (h : readElements name element.read d = .ok vs)
    (helement : ∀ d v, element.read d = .ok v → element.Admits v) : ∀ v ∈ vs, element.Admits v := by
  unfold readElements at h
  split at h
  · exact absurd h (by simp only [reduceCtorEq, not_false_eq_true])
  intro v hv
  obtain ⟨item, -, hitem⟩ := exists_of_mapM h v hv
  exact helement item v (checkedElement_eq_ok_iff.mp hitem)

/-- A type that is not complete has no values. -/
theorem read_unfinished_ne_ok {outline : Outline} :
    (Schema.unfinished name outline).read d ≠ .ok v := by
  intro h
  have hbits {outline : Outline} (h : readBitfield (.unfinished name outline)
      (fun _ => .error (.undefined name outline.lacks)) d = .ok v) : False := by
    rcases readBitfield_eq_ok h with ⟨bs, hdec⟩ | ⟨d', hcontents⟩
    · rw [decode] at hdec
      exact absurd hdec (by simp only [reduceCtorEq, not_false_eq_true])
    · exact absurd hcontents (by simp only [reduceCtorEq, not_false_eq_true])
  cases outline with
  | bytes =>
      rw [read] at h
      exact checkedLengthless_ne_ok (Fault.refuse_eq_ok_iff.mp h)
  | bitvector | bitlist =>
      rw [read] at h
      exact hbits h
  | byteList | vector | vectorOf | list | listOf => simp only [read, reduceCtorEq] at h

mutual

/-- Whatever is read from data belongs to its type. -/
theorem admits_of_read : ∀ (s : Schema) (d : Datum) (v : Value), s.read d = .ok v → s.Admits v
  | .uint _ bits, d, v, h => by
      rw [read] at h
      obtain ⟨n, hn, rfl⟩ := map_eq_ok_iff.mp h
      exact (Number.read_eq_ok_iff.mp hn).2
  | .bytes _ _, d, v, h => by
      rw [read] at h
      exact admits_of_readBytes (Fault.refuse_eq_ok_iff.mp h)
  | .byteList _ _, d, v, h => by
      rw [read] at h
      obtain ⟨d', hcontents⟩ := readCollection_eq_ok h
      exact admits_of_readByteList hcontents
  | .bitvector _ _, d, v, h => by
      rw [read] at h
      rcases readBitfield_eq_ok h with ⟨bs, hdec⟩ | ⟨d', hcontents⟩
      · exact admits_of_decode _ bs v hdec
      · exact admits_of_readBitvector hcontents
  | .bitlist _ _, d, v, h => by
      rw [read] at h
      rcases readBitfield_eq_ok h with ⟨bs, hdec⟩ | ⟨d', hcontents⟩
      · exact admits_of_decode _ bs v hdec
      · exact admits_of_readBitlist hcontents
  | .vector _ element _, d, v, h => by
      rw [read] at h
      obtain ⟨d', hcontents⟩ := readCollection_eq_ok h
      obtain ⟨vs, hvs, hcount⟩ := bind_eq_ok_iff.mp hcontents
      obtain ⟨hlength, rfl⟩ := ite_eq_ok_iff.mp hcount
      exact ⟨hlength, admits_of_readElements hvs (admits_of_read element)⟩
  | .list _ element _, d, v, h => by
      rw [read] at h
      obtain ⟨d', hcontents⟩ := readCollection_eq_ok h
      obtain ⟨vs, hvs, hcount⟩ := bind_eq_ok_iff.mp hcontents
      obtain ⟨hlimit, rfl⟩ := ite_eq_ok_iff.mp hcount
      exact ⟨hlimit, admits_of_readElements hvs (admits_of_read element)⟩
  | .container _ fields, d, v, h => by
      obtain ⟨given, rfl, -⟩ := record_of_read h
      rw [read] at h
      obtain ⟨vs, hvs, rfl⟩ := map_eq_ok_iff.mp (Fault.closed_eq_ok h).1
      exact admitsAll_of_readFields fields given vs hvs
  | .unfinished _ _, _, _, h => absurd h read_unfinished_ne_ok

theorem admitsAll_of_readFields : ∀ (fields : Fields) (given : List (Text × Datum))
    (vs : List Value), readFields given fields = .ok vs → AdmitsAll fields vs
  | .nil, given, vs, h => by
      rw [readFields] at h
      rw [← Except.ok.inj h]
      exact trivial
  | .cons name type rest, given, vs, h => by
      rw [readFields] at h
      obtain ⟨v, more, hv, hmore, rfl⟩ := Fault.collect_eq_ok h
      obtain ⟨d, -, hread⟩ := Fault.required_eq_ok hv
      exact ⟨admits_of_read type d v hread, admitsAll_of_readFields rest given more hmore⟩

end

end Schema

namespace Fault

variable {α β γ : Type}

/-- A fault says that data was refused: a record has problems, or the fault is one
    of the family of faults of values. -/
def OfData (fault : Fault) : Prop := (fault.kind.isA .validation || fault.kind.isA .ssz) = true

instance (fault : Fault) : Decidable fault.OfData := inferInstanceAs (Decidable (_ = _))

/-- A fault that says that data was refused, or does so once it is turned into a
    problem. -/
def OfDataOrCause (fault : Fault) : Prop := (∃ c, fault = .cause c) ∨ fault.OfData

theorem ofData_invalid (details : List Detail) : OfData (.invalid details) := rfl

theorem not_ofData_lacking (type : Option String) (part : String) : ¬OfData (.lacking type part) :=
  (by decide : ¬((Kind.other "AttributeError").isA .validation
    || (Kind.other "AttributeError").isA .ssz) = true)

theorem IsInvalid.ofData {fault : Fault} (h : fault.IsInvalid) : fault.OfData := by
  obtain ⟨details, rfl⟩ := h
  exact ofData_invalid details

theorem failsIn_of_collected {x : Except Fault α} (h : FailsIn IsCollected x) :
    FailsIn OfDataOrCause x := fun fault hfault => (h fault hfault).imp_right IsInvalid.ofData

theorem ofData_refuse {x : Except Fault α} (h : FailsIn OfDataOrCause x) :
    FailsIn OfData (refuse x) := by
  rcases x with fault | a
  · rcases h fault rfl with ⟨c, rfl⟩ | hfault
    · exact failsIn_error (ofData_invalid _)
    · cases fault with
      | cause c => exact failsIn_error (ofData_invalid _)
      | _ => exact failsIn_error hfault
  · exact failsIn_ok a

theorem ofData_under {step : Step} {x : Except Fault α} (h : FailsIn OfData x) :
    FailsIn OfData (under step x) := by
  rcases x with fault | a
  · have hfault := h fault rfl
    cases fault with
    | invalid details => exact failsIn_error (ofData_invalid _)
    | _ => exact failsIn_error hfault
  · exact failsIn_ok a

theorem ofData_collect {f : α → β → γ} {x : Except Fault α} {y : Except Fault β}
    (hx : FailsIn OfData x) (hy : FailsIn OfData y) : FailsIn OfData (collect f x y) := by
  unfold collect
  -- What is collected is a list of problems, and all else is a fault of one part.
  split
  · exact failsIn_ok _
  · exact failsIn_error (hy _ rfl)
  · exact failsIn_error (ofData_invalid _)
  · exact failsIn_error (ofData_invalid _)
  · exact failsIn_error (hy _ rfl)
  · exact failsIn_error (hx _ rfl)

theorem ofData_required {name : String} {check : Datum → Except Fault α}
    {given : List (Text × Datum)} (h : ∀ d, FailsIn OfData (check d)) :
    FailsIn OfData (required name check given) := by
  unfold required
  refine ofData_under ?_
  split
  · exact h _
  · exact failsIn_error (ofData_invalid _)

theorem ofData_closed {known : List String} {given : List (Text × Datum)}
    {checked : Except Fault α} (h : FailsIn OfData checked) :
    FailsIn OfData (closed known given checked) := by
  unfold closed
  simp only []
  split
  · split <;> exact failsIn_error (ofData_invalid _)
  · exact ofData_collect h (failsIn_ite (ofData_invalid _))

end Fault

namespace Schema

open Fault (OfData OfDataOrCause ofData_invalid ofData_refuse ofData_under ofData_collect
  ofData_required ofData_closed failsIn_of_collected)

theorem ofData_of_refused {fault : Fault} (h : Refused fault) : fault.OfData := by
  have hkinds : ∀ kind ∈ refusals, (kind.isA .validation || kind.isA .ssz) = true := by decide
  exact hkinds fault.kind h

theorem failsIn_readBytes (name : String) (length : Nat) (d : Datum) :
    FailsIn OfDataOrCause (readBytes name length d) := by
  unfold readBytes checkedBytes
  refine failsIn_bind (failsIn_of_collected (Bytes.failsIn_ofDatum d)) fun bs _ => ?_
  exact failsIn_ite (.inl ⟨_, rfl⟩)

theorem failsIn_readByteList (name : String) (limit : Nat) (d : Datum) :
    FailsIn OfData (readByteList name limit d) := by
  unfold readByteList checkedByteList
  split
  · exact failsIn_ite (ofData_invalid _)
  · exact failsIn_error rfl
  · rename_i fault _ hfault
    have hcollected := failsIn_of_collected (Bytes.failsIn_ofDatum d) fault hfault
    exact ofData_refuse (failsIn_error hcollected)

theorem failsIn_bits (d : Datum) : FailsIn OfDataOrCause (Bits.ofDatum d) := by
  unfold Bits.ofDatum
  split
  · refine failsIn_mapM fun item _ => ?_
    unfold Bits.bitOf
    split
    · exact failsIn_ok _
    · split
      · exact failsIn_ok _
      · exact failsIn_ite (.inl ⟨_, rfl⟩)
    · split
      · exact failsIn_ok _
      · exact failsIn_ite (.inl ⟨_, rfl⟩)
    · exact failsIn_error (.inl ⟨_, rfl⟩)
  · exact failsIn_error (.inr rfl)

theorem failsIn_readBitvector (name : String) (length : Nat) (d : Datum) :
    FailsIn OfData (readBitvector name length d) := by
  refine ofData_refuse (failsIn_bind (failsIn_bits d) fun bits _ => ?_)
  exact failsIn_ite (.inl ⟨_, rfl⟩)

theorem failsIn_readBitlist (name : String) (limit : Nat) (d : Datum) :
    FailsIn OfData (readBitlist name limit d) := by
  refine ofData_refuse (failsIn_bind (failsIn_bits d) fun bits _ => ?_)
  exact failsIn_ite (.inl ⟨_, rfl⟩)

variable {contents : Datum → Except Fault Value}

theorem failsIn_readCollection (hcontents : ∀ d, FailsIn OfData (contents d)) (absent d : Datum) :
    FailsIn OfData (readCollection contents absent d) := by
  unfold readCollection
  split
  · exact ofData_closed (ofData_under (hcontents _))
  · exact ofData_under (hcontents _)

theorem failsIn_readBitfield {s : Schema} (hdecode : ∀ bs, FailsIn Refused (s.decode bs))
    (hcontents : ∀ d, FailsIn OfData (contents d)) (d : Datum) :
    FailsIn OfData (readBitfield s contents d) := by
  unfold readBitfield
  split
  · refine ofData_refuse (failsIn_bind (failsIn_of_collected (Bytes.failsIn_ofDatum _))
      fun bs _ fault hfault => ?_)
    exact .inr (ofData_of_refused (hdecode bs fault hfault))
  · exact failsIn_readCollection hcontents _ _

/-- An element that is no value of its type ends the check, and what is left of its
    own faults is one of these. -/
theorem failsIn_readElements {element : Schema} (helement : ∀ d, FailsIn OfData (element.read d))
    (d : Datum) : FailsIn OfData (readElements element.name element.read d) := by
  unfold readElements
  split
  · exact failsIn_error rfl
  refine failsIn_mapM fun item _ => ?_
  unfold checkedElement
  split
  · exact failsIn_ok _
  · exact failsIn_error rfl
  · rename_i type part hread
    exact absurd (helement item _ hread) (Fault.not_ofData_lacking type part)
  · exact failsIn_error rfl

mutual

/-- Reading only refuses data, for a well-formed type. -/
theorem failsIn_read : ∀ (s : Schema) (d : Datum), s.every whole = true → FailsIn OfData (s.read d)
  | .uint name bits, d, _ => by
      rw [read]
      exact failsIn_map fun fault hfault => (Number.failsIn_read name bits d fault hfault).ofData
  | .bytes name length, d, _ => by
      rw [read]
      exact ofData_refuse (failsIn_readBytes name length d)
  | .byteList name limit, d, _ => by
      rw [read]
      exact failsIn_readCollection (failsIn_readByteList name limit) _ d
  | .bitvector name length, d, _ => by
      rw [read]
      have hdecode (bs : Bytes) := failsIn_decode (.bitvector name length) bs rfl rfl
      exact failsIn_readBitfield hdecode (failsIn_readBitvector name length) d
  | .bitlist name limit, d, _ => by
      rw [read]
      exact failsIn_readBitfield (failsIn_decode_bitlist name limit)
        (failsIn_readBitlist name limit) d
  | .vector name element length, d, h => by
      simp only [every, Bool.and_eq_true] at h
      rw [read]
      refine failsIn_readCollection (fun d => ?_) _ d
      refine failsIn_bind (failsIn_readElements (failsIn_read element · h.2) d) fun vs _ => ?_
      exact failsIn_ite (ofData_invalid _)
  | .list name element limit, d, h => by
      simp only [every, Bool.and_eq_true] at h
      rw [read]
      refine failsIn_readCollection (fun d => ?_) _ d
      refine failsIn_bind (failsIn_readElements (failsIn_read element · h.2) d) fun vs _ => ?_
      exact failsIn_ite (ofData_invalid _)
  | .container name fields, d, h => by
      simp only [every, Bool.and_eq_true] at h
      cases d with
      | record given =>
          rw [read]
          exact ofData_closed (failsIn_map (failsIn_readFields fields given h.2))
      | null | bool | int | real | text | bytes | list | tuple =>
          simp only [read]
          exact failsIn_error (ofData_invalid _)
  | .unfinished _ _, _, h => absurd h (by simp only [every, whole, Bool.false_eq_true,
      not_false_eq_true])

theorem failsIn_readFields : ∀ (fields : Fields) (given : List (Text × Datum)),
    everyField whole fields = true → FailsIn OfData (readFields given fields)
  | .nil, given, _ => by
      rw [readFields]
      exact failsIn_ok []
  | .cons name type rest, given, h => by
      simp only [everyField, Bool.and_eq_true] at h
      rw [readFields]
      exact ofData_collect (ofData_required (failsIn_read type · h.1))
        (failsIn_readFields rest given h.2)

end

end Schema

end Beacon
