import Beacon.Proofs.Fork.Header

/-!
# Parts Given by Their Roots

A value can be told in short: some of the fields in it are replaced by their roots. Whoever
knows the roots of the parts can work out the root of the whole, so a value and its short
form have one root, whichever fields are chosen and however deep they lie. A header is the
short form of a block, with the body chosen.

The fields are chosen by their names on the way from the outside in. Elements of a sequence
have no names and add nothing to the way; the same fields are chosen in all of them, since
they all have to keep one type. The elements themselves are never replaced. For numbers that
would be wrong, because numbers share chunks and have no roots of their own there.

Not the computed roots are compared but the reference roots, which cannot fail. A short form
is a value of a type that is again well formed and asks for no more room than before
(`every_abridged`), so its computed root is its reference root as well. That a sequence asks
for the same room rests on the elements sharing chunks in the short form exactly if they did
before (`sharedSize?_abridged`).

## Main definitions

* `Schema.abridged`: A type whose chosen fields hold roots.
* `Schema.abridge`: The short form of a value.

## Theorems

* `Schema.every_abridged`: What is asked of every type in a type and holds of roots holds in
  the short form.
* `Schema.abridge_eq_ok`: A value has a short form, with the same reference root.
* `Schema.root_abridged`: A value and its short form have the same root, and so have a block
  and its header.
-/

namespace Beacon

namespace Schema

open Outcome Merkle

mutual

/-- A type whose chosen fields hold roots. -/
def abridged (chosen : List String → Bool) : Schema → Schema
  | .vector name element length => .vector name (element.abridged chosen) length
  | .list name element limit => .list name (element.abridged chosen) limit
  | .container name fields => .container name (abridgedFields chosen fields)
  | s => s

/-- Fields of which the chosen ones hold roots. -/
def abridgedFields (chosen : List String → Bool) : Fields → Fields
  | .nil => .nil
  | .cons name type rest =>
      .cons name
        (if chosen [name] then bytes32 else type.abridged fun way => chosen (name :: way))
        (abridgedFields chosen rest)

end

mutual

/-- The short form of a value, its chosen fields being replaced by their roots. -/
def abridge (chosen : List String → Bool) : Schema → Value → Except RootFault Value
  | .vector _ element _, .row vs => (vs.mapM (element.abridge chosen)).map .row
  | .list _ element _, .row vs => (vs.mapM (element.abridge chosen)).map .row
  | .container _ fields, .row vs => (abridgeFields chosen fields vs).map .row
  | _, v => .ok v

/-- The short forms of a container's fields, and the roots of those that are chosen. -/
def abridgeFields (chosen : List String → Bool) :
    Fields → List Value → Except RootFault (List Value)
  | .cons name type rest, v :: vs => do
      let part ← if chosen [name] then (type.root v).map .bytes
        else type.abridge (fun way => chosen (name :: way)) v
      let parts ← abridgeFields chosen rest vs
      pure (part :: parts)
  | _, vs => .ok vs

end

variable {chosen : List String → Bool}

/-! ### The type of a short form -/

/-- Elements share chunks in a short form exactly if they did before. -/
theorem sharedSize?_abridged (chosen : List String → Bool) (s : Schema) :
    (s.abridged chosen).sharedSize? = s.sharedSize? := by
  cases s <;> rfl

theorem room_abridged (chosen : List String → Bool) (element : Schema) (capacity : Nat) :
    (element.abridged chosen).room capacity = element.room capacity := by
  rw [room, room, sharedSize?_abridged]

theorem length_abridgedFields (chosen : List String → Bool) : ∀ fields : Fields,
    (abridgedFields chosen fields).toList.length = fields.toList.length
  | .nil => rfl
  | .cons _ _ rest => by
      rw [abridgedFields, Fields.toList, Fields.toList, List.length_cons, List.length_cons,
        length_abridgedFields chosen rest]

mutual

/-- What is asked of every type in a type and holds of roots holds in the short form, if the
    answer for a type with parts does not depend on what the chosen fields are. -/
theorem every_abridged {p : Schema → Bool} (hroot : p bytes32 = true)
    (hparts : ∀ (s : Schema) (chosen : List String → Bool), p (s.abridged chosen) = p s) :
    ∀ (s : Schema) (chosen : List String → Bool), s.every p = true →
      (s.abridged chosen).every p = true
  | .vector name element length, chosen, h => by
      simp only [every, Bool.and_eq_true] at h
      rw [abridged, every, Bool.and_eq_true]
      refine ⟨?_, every_abridged hroot hparts element chosen h.2⟩
      rw [← abridged, hparts]
      exact h.1
  | .list name element limit, chosen, h => by
      simp only [every, Bool.and_eq_true] at h
      rw [abridged, every, Bool.and_eq_true]
      refine ⟨?_, every_abridged hroot hparts element chosen h.2⟩
      rw [← abridged, hparts]
      exact h.1
  | .container name fields, chosen, h => by
      simp only [every, Bool.and_eq_true] at h
      rw [abridged, every, Bool.and_eq_true]
      refine ⟨?_, everyField_abridged hroot hparts fields chosen h.2⟩
      rw [← abridged, hparts]
      exact h.1
  | .uint _ _, _, h | .bytes _ _, _, h | .byteList _ _, _, h | .bitvector _ _, _, h
  | .bitlist _ _, _, h | .unfinished _ _, _, h => h

theorem everyField_abridged {p : Schema → Bool} (hroot : p bytes32 = true)
    (hparts : ∀ (s : Schema) (chosen : List String → Bool), p (s.abridged chosen) = p s) :
    ∀ (fields : Fields) (chosen : List String → Bool), everyField p fields = true →
      everyField p (abridgedFields chosen fields) = true
  | .nil, _, _ => rfl
  | .cons name type rest, chosen, h => by
      simp only [everyField, Bool.and_eq_true] at h
      rw [abridgedFields, everyField, Bool.and_eq_true]
      refine ⟨?_, everyField_abridged hroot hparts rest chosen h.2⟩
      by_cases hname : chosen [name] = true
      · rw [if_pos hname]
        exact hroot
      · rw [if_neg hname]
        exact every_abridged hroot hparts type _ h.1

end

theorem whole_abridged (s : Schema) (chosen : List String → Bool) :
    whole (s.abridged chosen) = whole s := by
  cases s <;> rfl

theorem roomy_abridged (s : Schema) (chosen : List String → Bool) :
    roomy (s.abridged chosen) = roomy s := by
  cases s with
  | vector name element length => rw [abridged, roomy, roomy, room_abridged]
  | list name element limit => rw [abridged, roomy, roomy, room_abridged]
  | container name fields => rw [abridged, roomy, roomy, length_abridgedFields]
  | uint | bytes | byteList | bitvector | bitlist | unfinished => rfl

/-! ### The short form -/

/-- A chunk is its own reference root. -/
theorem reference_bytes32 (bs : Bytes) (h : bs.length = Chunk.size) :
    bytes32.reference (.bytes bs) = bs := by
  have hadmits : bytes32.Admits (.bytes bs) := h
  have hroot := root_eq bytes32 (.bytes bs) (by decide) (by decide) hadmits
  rw [root_bytes32 bs h] at hroot
  exact (Except.ok.inj hroot).symm

/-- Steps that each succeed with a related result succeed in a row. -/
theorem exists_mapM {α β ε : Type} {f : α → Except ε β} {r : α → β → Prop} (xs : List α)
    (h : ∀ x ∈ xs, ∃ y, f x = .ok y ∧ r x y) :
    ∃ ys, xs.mapM f = .ok ys ∧ List.Forall₂ r xs ys := by
  induction xs with
  | nil => exact ⟨[], rfl, .nil⟩
  | cons x xs ih =>
      rcases h x List.mem_cons_self with ⟨y, hy, hr⟩
      rcases ih fun x hx => h x (List.mem_cons_of_mem _ hx) with ⟨ys, hys, hrs⟩
      refine ⟨y :: ys, ?_, .cons hr hrs⟩
      rw [List.mapM_cons, hy, ok_bind, hys]
      rfl

/-- One value is the short form of another: it belongs to the abridged type and has the other
    one's reference root. -/
def Stands (chosen : List String → Bool) (s : Schema) (v short : Value) : Prop :=
  (s.abridged chosen).Admits short ∧ (s.abridged chosen).reference short = s.reference v

/-- The short forms of elements are elements of the abridged type, and the tree over them has
    the same root. -/
theorem elements_abridged {element : Schema} {vs shorts : List Value} (capacity : Nat)
    (hshorts : vs.mapM (element.abridge chosen) = .ok shorts)
    (h : List.Forall₂ (Stands chosen element) vs shorts) :
    shorts.length = vs.length ∧ (∀ v ∈ shorts, (element.abridged chosen).Admits v) ∧
      elementsRoot (element.abridged chosen) capacity shorts
          (shorts.map (element.abridged chosen).reference)
        = elementsRoot element capacity vs (vs.map element.reference) := by
  refine ⟨h.length_eq.symm, ?_, ?_⟩
  · intro v hv
    rcases List.forall₂_iff_get.mp h with ⟨hlen, hget⟩
    rcases List.mem_iff_get.mp hv with ⟨i, rfl⟩
    exact (hget i (by omega) i.2).1
  rw [elementsRoot, elementsRoot, sharedSize?_abridged]
  rcases hshared : element.sharedSize? with _ | size
  -- The leaves are the roots of the elements, and these are the same.
  · have hroots : shorts.map (element.abridged chosen).reference = vs.map element.reference := by
      rw [eq_comm, ← List.forall₂_eq_eq_eq, List.forall₂_map_left_iff, List.forall₂_map_right_iff]
      exact h.imp fun _ _ hstands => hstands.2.symm
    rw [hroots]
  -- The leaves are numbers, and nothing is left out of a number.
  · rcases eq_uint_of_sharedSize? hshared with ⟨name, bits, rfl, -⟩
    have hsame : vs = shorts := by
      rw [← List.forall₂_eq_eq_eq]
      exact (mapM_eq_ok_iff.mp hshorts).imp fun _ _ hv => Except.ok.inj hv
    rw [hsame]

mutual

/-- A value has a short form, and that has the value's reference root. -/
theorem abridge_eq_ok : ∀ (s : Schema) (chosen : List String → Bool) (v : Value),
    s.every whole = true → s.every roomy = true → s.Admits v →
    ∃ short, s.abridge chosen v = .ok short ∧ Stands chosen s v short
  | .vector name element length, chosen, .row vs, h, hroom, hadmits => by
      simp only [every, Bool.and_eq_true] at h hroom
      rcases exists_mapM vs fun v hv =>
        abridge_eq_ok element chosen v h.2 hroom.2 (hadmits.2 v hv) with ⟨shorts, hshorts, hall⟩
      rcases elements_abridged length hshorts hall with ⟨hlen, hmembers, hroots⟩
      refine ⟨.row shorts, ?_, ⟨hlen.trans hadmits.1, hmembers⟩, hroots⟩
      rw [abridge, hshorts]
      rfl
  | .list name element limit, chosen, .row vs, h, hroom, hadmits => by
      simp only [every, Bool.and_eq_true] at h hroom
      rcases exists_mapM vs fun v hv =>
        abridge_eq_ok element chosen v h.2 hroom.2 (hadmits.2 v hv) with ⟨shorts, hshorts, hall⟩
      rcases elements_abridged limit hshorts hall with ⟨hlen, hmembers, hroots⟩
      refine ⟨.row shorts, ?_, ⟨hlen.trans_le hadmits.1, hmembers⟩, ?_⟩
      · rw [abridge, hshorts]
        rfl
      -- The count is mixed in, and there are as many elements as before.
      · rw [abridged, reference, reference, hroots, hlen]
  | .container name fields, chosen, .row vs, h, hroom, hadmits => by
      simp only [every, Bool.and_eq_true] at h hroom
      rcases abridgeFields_eq_ok fields chosen vs h.2 hroom.2 hadmits with
        ⟨shorts, hshorts, hmembers, hroots⟩
      refine ⟨.row shorts, ?_, hmembers, ?_⟩
      · rw [abridge, hshorts]
        rfl
      · rw [abridged, reference, reference, hroots, length_abridgedFields]
  | .uint _ _, _, .uint n, _, _, hadmits => ⟨.uint n, rfl, hadmits, rfl⟩
  | .bytes _ _, _, .bytes bs, _, _, hadmits | .byteList _ _, _, .bytes bs, _, _, hadmits =>
      ⟨.bytes bs, rfl, hadmits, rfl⟩
  | .bitvector _ _, _, .bits bs, _, _, hadmits | .bitlist _ _, _, .bits bs, _, _, hadmits =>
      ⟨.bits bs, rfl, hadmits, rfl⟩

/-- The fields of a container have short forms, and these have the fields' reference roots. -/
theorem abridgeFields_eq_ok : ∀ (fields : Fields) (chosen : List String → Bool) (vs : List Value),
    everyField whole fields = true → everyField roomy fields = true → AdmitsAll fields vs →
    ∃ shorts, abridgeFields chosen fields vs = .ok shorts ∧
      AdmitsAll (abridgedFields chosen fields) shorts ∧
      referenceAll (abridgedFields chosen fields) shorts = referenceAll fields vs
  | .nil, _, [], _, _, _ => ⟨[], rfl, trivial, rfl⟩
  | .cons name type rest, chosen, v :: vs, h, hroom, hadmits => by
      simp only [everyField, Bool.and_eq_true] at h hroom
      rcases abridgeFields_eq_ok rest chosen vs h.2 hroom.2 hadmits.2 with
        ⟨shorts, hshorts, hmembers, hroots⟩
      by_cases hname : chosen [name] = true
      -- The root of the field is a chunk, and a chunk is its own root.
      · have hlen := length_reference type v h.1 hadmits.1
        refine ⟨.bytes (type.reference v) :: shorts, ?_, ?_, ?_⟩
        · rw [abridgeFields, if_pos hname, root_eq type v h.1 hroom.1 hadmits.1, hshorts]
          rfl
        · rw [abridgedFields, if_pos hname]
          exact ⟨hlen, hmembers⟩
        · rw [abridgedFields, if_pos hname, referenceAll, referenceAll, hroots,
            reference_bytes32 _ hlen]
      · rcases abridge_eq_ok type (fun way => chosen (name :: way)) v h.1 hroom.1 hadmits.1 with
          ⟨short, hshort, hmember, hroot⟩
        refine ⟨short :: shorts, ?_, ?_, ?_⟩
        · rw [abridgeFields, if_neg hname, hshort, ok_bind, hshorts]
          rfl
        · rw [abridgedFields, if_neg hname]
          exact ⟨hmember, hmembers⟩
        · rw [abridgedFields, if_neg hname, referenceAll, referenceAll, hroots, hroot]

end

/-- A value and its short form have the same root. -/
theorem root_abridge {s : Schema} {v : Value} (h : s.WellFormed) (hroom : s.Roomy)
    (hadmits : s.Admits v) (chosen : List String → Bool) :
    ∃ short root, s.abridge chosen v = .ok short ∧ (s.abridged chosen).Admits short ∧
      s.root v = .ok root ∧ (s.abridged chosen).root short = .ok root := by
  rcases abridge_eq_ok s chosen v h hroom hadmits with ⟨short, hshort, hmember, hroot⟩
  have hwhole := every_abridged rfl whole_abridged s chosen h
  have hroomy := every_abridged (by decide) roomy_abridged s chosen hroom
  refine ⟨short, s.reference v, hshort, hmember, root_eq s v h hroom hadmits, ?_⟩
  rw [root_eq _ short hwhole hroomy hmember, hroot]

/-- In a block the body is chosen. -/
def isBody (way : List String) : Bool := way = ["body"]

/-- With its body chosen, a block is made like a header. Only the names differ. -/
theorem abridged_block (body : Schema) :
    (Fork.blockOf body).abridged isBody = record "BeaconBlock"
      [("slot", uint64), ("proposer_index", uint64), ("parent_root", bytes32),
        ("state_root", bytes32), ("body", bytes32)] := by
  simp only [Fork.blockOf, record, Fields.ofList, abridged, abridgedFields, isBody, uint64, bytes32,
    List.cons.injEq, and_true, String.reduceEq, decide_false, decide_true, if_true, if_false,
    Bool.false_eq_true]

/-- The short form of a block has the root of the body in the body's place. -/
theorem abridge_block {body : Schema} {slot proposer parent state contents : Value}
    {bodyRoot : Bytes} (hbody : body.root contents = .ok bodyRoot) :
    (Fork.blockOf body).abridge isBody (.row [slot, proposer, parent, state, contents])
      = .ok (.row [slot, proposer, parent, state, .bytes bodyRoot]) := by
  simp only [Fork.blockOf, record, Fields.ofList, abridge, abridgeFields, isBody, uint64, bytes32,
    List.cons.injEq, and_true, String.reduceEq, decide_false, decide_true, if_true, if_false,
    Bool.false_eq_true, hbody]
  rfl

end Schema

namespace Block

open Schema Fork

/-- Whichever fields of a value are chosen, and however deep they lie in it: with these fields
    replaced by their roots, it is a value of the type in which the chosen fields are roots,
    and it has the same root as before. So has the header of a block, which holds what the
    block holds and for the body its root. -/
theorem root_abridged :
    (∀ (name : String) (fields : Fields) (v : Value) (chosen : List String → Bool),
      (container name fields).WellFormed → (container name fields).Roomy →
      (container name fields).Admits v →
      ∃ short root, (container name fields).abridge chosen v = .ok short ∧
        ((container name fields).abridged chosen).Admits short ∧
        (container name fields).root v = .ok root ∧
        ((container name fields).abridged chosen).root short = .ok root) ∧
    ∀ b : Block, b.fork.signedBlock.Admits b.signed →
      ∃ slot proposer parent state body bodyRoot root,
        b.message.value = .row [slot, proposer, parent, state, body] ∧
        b.bodyRoot = .ok bodyRoot ∧
        Operation.blockHeader.Admits (.row [slot, proposer, parent, state, .bytes bodyRoot]) ∧
        b.root = .ok root ∧
        Operation.blockHeader.root (.row [slot, proposer, parent, state, .bytes bodyRoot])
          = .ok root := by
  refine ⟨fun name fields v chosen h hroom hadmits => root_abridge h hroom hadmits chosen, ?_⟩
  intro b h
  rcases parts_of_admits h with ⟨slot, proposer, parent, state, body, hmessage, hbodyPart, hblock⟩
  have hbody := root_eq _ body (body_wellFormed b.fork) (body_roomy b.fork) hblock.2.2.2.2.1
  rcases root_abridge (block_wellFormed b.fork) (block_roomy b.fork) hblock isBody with
    ⟨short, root, hshort, hmember, hroot, hsame⟩
  unfold Fork.block at hshort hmember hsame
  rw [abridge_block hbody, Except.ok.injEq] at hshort
  rw [abridged_block, ← hshort] at hmember hsame
  refine ⟨slot, proposer, parent, state, body, _, root, ?_, ?_, hmember, ?_, hsame⟩
  · rw [hmessage]
  · unfold Block.bodyRoot
    rw [hbodyPart, hbody]
  · unfold Block.root
    rw [hmessage, hroot]

/-- A ledger whose notes are given by their root, and of whose entries each gives its sums by
    their root but keeps its flags; and a block that holds nothing but a slot. -/
theorem root_abridged_ledger :
    let entry := record "Entry" [("flags", .bitlist "Flags" 600),
      ("sums", .list "Sums" (.uint "uint16" 16) 9)]
    let fields := Fields.ofList [("height", uint64),
      ("notes", .list "Notes" (.byteList "Note" 40) 5), ("entries", .list "Entries" entry 3)]
    let s := container "Ledger" fields
    let v := Value.row [.uint 7, .row [.bytes [1, 2], .bytes []],
      .row [.row [.bits [true, false], .row [.uint 5, .uint 6]], .row [.bits [], .row []]]]
    let chosen := fun way => decide (way = ["notes"] ∨ way = ["entries", "sums"])
    let b := Block.phase0 (blankAt .phase0 7)
    (s.WellFormed ∧ s.Roomy ∧ s.Admits v ∧
      ∃ short root, s.abridge chosen v = .ok short ∧ (s.abridged chosen).Admits short ∧
        s.root v = .ok root ∧ (s.abridged chosen).root short = .ok root) ∧
    b.fork.signedBlock.Admits b.signed ∧
      ∃ bodyRoot root, b.bodyRoot = .ok bodyRoot ∧ b.root = .ok root := by
  intro entry fields s v chosen b
  have hwhole : s.WellFormed := by decide
  have hroom : s.Roomy := by decide
  have hadmits : s.Admits v := by decide +kernel
  have hblock : b.fork.signedBlock.Admits b.signed := blankAt_admitted .phase0 7 (by decide)
  rcases root_abridged.2 b hblock with
    ⟨-, -, -, -, -, bodyRoot, root, -, hbodyRoot, -, hroot, -⟩
  exact ⟨⟨hwhole, hroom, hadmits, root_abridged.1 "Ledger" fields v chosen hwhole hroom hadmits⟩,
    hblock, bodyRoot, root, hbodyRoot, hroot⟩

end Block

end Beacon
