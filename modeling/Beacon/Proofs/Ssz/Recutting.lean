import Beacon.Proofs.Ssz.Extent

/-!
# Cutting a Layout Apart Again

Whatever is laid out can be cut apart again, and nothing more has to be known for it
than what types tell beforehand: which members are of fixed size, and what their
sizes are. That is a `Slot`, and it says nothing of what the member holds.

Cutting goes in three steps. The fixed part is cut by the sizes of the slots, four
bytes for an offset. The offsets among the pieces are read. The variable part is cut
at these offsets, each member ending where the next one starts and the last where
the data ends. Members are then where they should be, those of fixed size among the
pieces of the first step and the others among those of the last.

What carries this is where offsets come from. They are running sums that start where
the fixed part ends (`snd_readOffsets`), so that the first of them is that end and
nothing lies between the members. All that can come in the way is an offset that
does not fit in its four bytes, and none is beyond the size of the whole.

## Main definitions

* `Slot`: A member before its bytes are known.
* `roomFor`: The bytes that parts take when they are laid out.
* `readOffsets`: The offsets among the pieces of a fixed part.
* `gather`: The members from the pieces of both parts.

## Theorems

* `exists_encode`: Parts are laid out if they take less than four bytes can count.
* `snd_readOffsets`: The offsets that are read are those that were written.
* `gather_entries`: Every member is found in its place.
* `cut_of_encode`: What is laid out is cut apart into the same parts.
-/

namespace Beacon

namespace Layout

/-- What is known of a member before its bytes are. -/
structure Slot where
  /-- The member's name. -/
  name : String
  /-- The member's size, if it is fixed. -/
  size : Option Nat
  deriving DecidableEq, Repr

/-- The room that a member takes in the fixed part. -/
def Slot.headSize (slot : Slot) : Nat := slot.size.getD offsetSize

/-- The slot of a part under a name. -/
def Part.slot (name : String) (p : Part) : Slot :=
  ⟨name, if p.fixed then some p.bytes.length else none⟩

/-- The bytes that parts take when they are laid out: their own, and an offset for
    each that is of variable size. -/
def roomFor (parts : List Part) : Nat :=
  total (parts.map fun p => p.bytes.length) + offsetSize * parts.countP fun p => !p.fixed

/-- The offsets among the pieces of a fixed part, each with the name of its
    member. -/
def readOffsets : List Slot → List Bytes → List (String × Nat)
  | ⟨_, some _⟩ :: slots, _ :: pieces => readOffsets slots pieces
  | ⟨name, none⟩ :: slots, piece :: pieces =>
    (name, decodeOffset piece) :: readOffsets slots pieces
  | _, _ => []

/-- The members in order, from the pieces of the fixed part and of the variable
    part. -/
def gather : List Slot → List Bytes → List Bytes → List Bytes
  | ⟨_, some _⟩ :: slots, piece :: pieces, tails => piece :: gather slots pieces tails
  | ⟨_, none⟩ :: slots, _ :: pieces, tail :: tails => tail :: gather slots pieces tails
  | _, _, _ => []

/-! ### Laying out -/

theorem roomFor_cons (p : Part) (rest : List Part) :
    roomFor (p :: rest) = (if p.fixed then p.bytes.length else offsetSize + p.bytes.length)
      + roomFor rest := by
  rw [roomFor, roomFor, List.map_cons, total, List.countP_cons]
  cases p.fixed with
  | true =>
      simp only [Bool.not_true, Bool.false_eq_true, if_false, if_true, Nat.add_zero]
      omega
  | false =>
      simp only [Bool.not_false, Bool.false_eq_true, if_false, if_true, Nat.mul_add_one]
      omega

/-- That is the room of their extents. -/
theorem width_extents (parts : List Part) : width (parts.map Part.extent) = roomFor parts := by
  induction parts with
  | nil => rfl
  | cons p rest ih =>
      rw [roomFor_cons, ← ih, List.map_cons, width, List.map_cons, total, ← width]
      rfl

/-- Parts are laid out if they take less than four bytes can count. -/
theorem exists_encode (parts : List Part) (h : roomFor parts < Nat.pow 2 32) :
    ∃ data, encode parts = .ok data := by
  have hpow : Nat.pow 256 offsetSize = Nat.pow 2 32 := by decide
  refine (encodes_iff parts).mpr fun n hn => ?_
  have hn := place_le_width _ n hn
  rw [width_extents] at hn
  omega

theorem length_eq_roomFor (parts : List Part) (data : Bytes) (h : encode parts = .ok data) :
    data.length = roomFor parts := by
  rw [length_eq_width h, width_extents]

/-! ### Cutting apart -/

theorem slot_of_fixed (name : String) {p : Part} (h : p.fixed = true) :
    p.slot name = ⟨name, some p.bytes.length⟩ := by
  rw [Part.slot, if_pos h]

theorem slot_of_not_fixed (name : String) {p : Part} (h : ¬p.fixed = true) :
    p.slot name = ⟨name, none⟩ := by
  rw [Part.slot, if_neg h]

theorem headSize_slot (name : String) (p : Part) : (p.slot name).headSize = p.headSize := by
  rw [Slot.headSize, Part.slot, Part.headSize]
  cases p.fixed <;> rfl

/-- The slots of members. -/
def slots (members : List (String × Part)) : List Slot :=
  members.map fun member => member.2.slot member.1

theorem slots_cons (name : String) (p : Part) (rest : List (String × Part)) :
    slots ((name, p) :: rest) = p.slot name :: slots rest := rfl

theorem map_headSize_slots (members : List (String × Part)) :
    (slots members).map Slot.headSize = (members.map Prod.snd).map Part.headSize := by
  rw [slots, List.map_map, List.map_map]
  exact List.map_congr_left fun member _ => headSize_slot member.1 member.2

/-- The offsets that are read from a fixed part are those that were written, if they
    all fit. -/
theorem snd_readOffsets (start : Nat) (members : List (String × Part))
    (h : ∀ n ∈ offsets start (tails (members.map Prod.snd)), n < Nat.pow 256 offsetSize) :
    (readOffsets (slots members) (entries start (members.map Prod.snd))).map Prod.snd
      = offsets start (tails (members.map Prod.snd)) := by
  induction members generalizing start with
  | nil => rfl
  | cons member rest ih =>
      obtain ⟨name, p⟩ := member
      rw [List.map_cons, tails_cons] at h ⊢
      rw [slots_cons, entries]
      by_cases hp : p.fixed = true
      · rw [if_pos hp] at h ⊢
        rw [if_pos hp, slot_of_fixed name hp, readOffsets]
        exact ih start h
      -- A variable part has written where it starts, and the next starts behind it.
      · rw [if_neg hp] at h ⊢
        rw [offsets, List.forall_mem_cons] at h
        rw [if_neg hp, slot_of_not_fixed name hp, readOffsets, List.map_cons, offsets,
          decodeOffset_ofNat start h.1, ih _ h.2]

/-- The first offset is where the offsets start. -/
theorem head?_offsets (start : Nat) (items : List Bytes) :
    ∀ first ∈ (offsets start items).head?, first = start := by
  intro first hfirst
  cases items with
  | nil => exact absurd hfirst (by simp only [offsets, List.head?_nil, Option.not_mem_none,
      not_false_eq_true])
  | cons item rest => exact (Option.mem_some_iff.mp hfirst).symm

/-- Every member is found in its place, in the fixed part or among the members of
    variable size. -/
theorem gather_entries (start : Nat) (members : List (String × Part)) :
    gather (slots members) (entries start (members.map Prod.snd))
      (tails (members.map Prod.snd)) = (members.map Prod.snd).map Part.bytes := by
  induction members generalizing start with
  | nil => rfl
  | cons member rest ih =>
      obtain ⟨name, p⟩ := member
      rw [List.map_cons, List.map_cons, tails_cons, slots_cons, entries]
      by_cases hp : p.fixed = true
      · rw [if_pos hp, if_pos hp, slot_of_fixed name hp, gather, ih]
      · rw [if_neg hp, if_neg hp, slot_of_not_fixed name hp, gather, ih]

/-- Parts that take less than four bytes can count are laid out, in as many bytes as
    they have and four for each of variable size. Knowing no more than their slots, one
    gets them back: the fixed part is cut by the sizes and ends where the first offset
    points, and the variable part is cut at the offsets. -/
theorem cut_of_encode (type : String) (members : List (String × Part))
    (h : roomFor (members.map Prod.snd) < Nat.pow 2 32) :
    ∃ data pieces fixedEnd bodies,
      encode (members.map Prod.snd) = .ok data ∧
      data.length = roomFor (members.map Prod.snd) ∧
      fixedPart type ((slots members).map Slot.headSize) data = .ok (pieces, fixedEnd) ∧
      (∀ first ∈ (readOffsets (slots members) pieces).head?, first.2 = fixedEnd) ∧
      sliceVariable type data fixedEnd (readOffsets (slots members) pieces) = .ok bodies ∧
      gather (slots members) pieces bodies = (members.map Prod.snd).map Part.bytes := by
  obtain ⟨data, hdata⟩ := exists_encode _ h
  have hlength := length_eq_roomFor _ data hdata
  obtain ⟨hfit, hjoin⟩ := (encode_eq_ok_iff _ data).mp hdata
  generalize hparts : members.map Prod.snd = parts at *
  generalize hstart : total (parts.map Part.headSize) = start at *
  have hsizes : (slots members).map Slot.headSize = parts.map Part.headSize := by
    rw [map_headSize_slots, hparts]
  have hoffsets := snd_readOffsets start members (by rw [hparts]; exact hfit)
  rw [hparts] at hoffsets
  have hfront : (entries start parts).flatten.length = start := by
    rw [length_flatten_entries, hstart]
  refine ⟨data, entries start parts, start, tails parts, hdata, hlength, ?_, ?_, ?_, ?_⟩
  · have hsplit := splitFixed_flatten type (entries start parts) (tails parts).flatten
    rw [map_length_entries, hjoin] at hsplit
    rw [fixedPart, hsizes, hsplit, hstart]
    rfl
  · intro first hfirst
    refine head?_offsets start (tails parts) first.2 ?_
    rw [← hoffsets, List.head?_map]
    exact Option.mem_map_of_mem Prod.snd hfirst
  · rw [sliceVariable, ← hjoin]
    refine slices_flatten type start (tails parts) _ _ ?_ (Nat.le_of_eq hfront.symm)
    rw [hoffsets, hfront]
  · rw [← hparts]
    exact gather_entries start members

/-- Members of both kinds in turns, one of each with no bytes. -/
theorem cut_of_encode_mixed :
    let members := [("slot", Part.mk true [1, 2]), ("rows", Part.mk false [7, 8, 9]),
      ("mark", Part.mk true []), ("note", Part.mk false [])]
    let data : Bytes := [1, 2, 10, 0, 0, 0, 13, 0, 0, 0, 7, 8, 9]
    roomFor (members.map Prod.snd) < Nat.pow 2 32 ∧ encode (members.map Prod.snd) = .ok data ∧
      ∃ pieces, fixedPart "Mixed" [2, 4, 0, 4] data = .ok (pieces, 10) ∧
        readOffsets (slots members) pieces = [("rows", 10), ("note", 13)] ∧
        ∃ bodies, sliceVariable "Mixed" data 10 [("rows", 10), ("note", 13)] = .ok bodies ∧
          gather (slots members) pieces bodies = [[1, 2], [7, 8, 9], [], []] := by
  intro members data
  have hroom : roomFor (members.map Prod.snd) < Nat.pow 2 32 := by decide
  have hencode : encode (members.map Prod.snd) = .ok data := by decide
  obtain ⟨data', pieces, fixedEnd, bodies, hdata, -, hfixed, -, hslices, hmembers⟩ :=
    cut_of_encode "Mixed" members hroom
  obtain rfl := Except.ok.inj (hencode.symm.trans hdata)
  have hcut : fixedPart "Mixed" ((slots members).map Slot.headSize) data
      = .ok ([[1, 2], [10, 0, 0, 0], [], [13, 0, 0, 0]], 10) := by decide
  obtain ⟨rfl, rfl⟩ := Prod.mk.inj (Except.ok.inj (hcut.symm.trans hfixed))
  exact ⟨hroom, hencode, _, hfixed, rfl, bodies, hslices, hmembers⟩

end Layout

end Beacon
