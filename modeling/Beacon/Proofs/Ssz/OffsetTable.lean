import Beacon.Proofs.Outcome
import Beacon.Ssz.Layout

/-!
# Laying Out and Cutting Apart

The layout of a composite value runs in one pass that can fail at any offset.
Reasoning about it is easier in two: what stands in each place of the fixed
part (`entries`), and where each variable part starts (`offsets`). Both are
plain functions, and `encode_eq_ok_iff` says that laying out succeeds exactly
when every offset fits its four bytes, and then gives the entries followed by
the variable parts.

Cutting goes back over the same two. The fixed part is cut by sizes, which
only have to be the sizes of the entries (`splitFixed_flatten`). The variable
part is cut by offsets, which only have to be the running sums of the sizes of
the pieces (`slices_flatten`), wherever the first of them starts. The
last piece has no offset after it and ends where the data ends, so nothing may
follow the variable part.

Offsets travel through four bytes, and `decodeOffset_ofNat` says that one that
fits is read back as it was.

## Main definitions

* `tails`: The bytes of the variable parts.
* `offsets`: Where pieces start that follow each other.
* `entries`: What stands in the fixed part, one entry for each part.
* `stop`: Where a piece ends, by the offsets after its own.
* `table`: The offsets before members that are all of variable size.

## Theorems

* `encode_eq_ok_iff`: When laying out succeeds, and what it gives.
* `splitFixed_flatten`: Joined pieces are cut apart by their sizes.
* `slices_flatten`: Joined pieces are cut apart by their offsets.
* `splitFixed_eq_ok`, `slices_eq_ok`: What pieces that were cut join to.
* `splitUniform_flatten`: Joined pieces of one size are cut apart by it.
* `encode_fixed_eq_ok_iff`, `encode_open_eq_ok_iff`: What laying out gives for
  members that are all of fixed or all of variable size.
-/

namespace Beacon

namespace Layout

open Outcome

/-- The bytes of the variable parts, in order. -/
def tails (parts : List Part) : List Bytes := (parts.filter fun p => !p.fixed).map Part.bytes

/-- Where pieces start that follow each other, the first of them at `start`. -/
def offsets (start : Nat) : List Bytes → List Nat
  | [] => []
  | piece :: pieces => start :: offsets (start + piece.length) pieces

/-- What stands in the fixed part for each of the parts, the next variable part
    starting at `start`. -/
def entries (start : Nat) : List Part → List Bytes
  | [] => []
  | p :: rest =>
    if p.fixed then p.bytes :: entries start rest
    else Bytes.ofNat offsetSize start :: entries (start + p.bytes.length) rest

/-- Where the member before these starts ends, in data of a length. -/
def stop (length : Nat) : List (String × Nat) → Nat
  | [] => length
  | (_, next) :: _ => next

@[simp] theorem length_offsets (start : Nat) (items : List Bytes) :
    (offsets start items).length = items.length := by
  induction items generalizing start with
  | nil => rfl
  | cons item rest ih => rw [offsets, List.length_cons, ih, List.length_cons]

theorem tails_cons (p : Part) (rest : List Part) :
    tails (p :: rest) = if p.fixed then tails rest else p.bytes :: tails rest := by
  cases hp : p.fixed <;> simp only [tails, List.filter_cons, hp, Bool.not_true, Bool.not_false,
    Bool.false_eq_true, if_false, if_true, List.map_cons]

theorem flatMap_tail (parts : List Part) : parts.flatMap Part.tail = (tails parts).flatten := by
  induction parts with
  | nil => rfl
  | cons p rest ih =>
      rw [List.flatMap_cons, ih, tails_cons, Part.tail]
      cases hp : p.fixed with
      | true => rfl
      | false => rfl

theorem encodeOffset_eq_ok_iff (n : Nat) (bs : Bytes) :
    encodeOffset (Int.ofNat n) = .ok bs ↔
      n < Nat.pow 256 offsetSize ∧ Bytes.ofNat offsetSize n = bs := by
  rw [encodeOffset]
  by_cases h : n < Nat.pow 256 offsetSize
  · simp only [h, if_true, Except.ok.injEq, true_and]
  · simp only [h, if_false, reduceCtorEq, false_and]

/-- The fixed part can be written when every offset in it fits. -/
theorem heads_eq_ok_iff (start : Nat) (parts : List Part) (bs : Bytes) :
    heads start parts = .ok bs ↔
      (∀ n ∈ offsets start (tails parts), n < Nat.pow 256 offsetSize) ∧
        (entries start parts).flatten = bs := by
  induction parts generalizing start bs with
  | nil => simp only [heads, Except.ok.injEq, tails, List.filter_nil, List.map_nil, offsets,
      List.not_mem_nil, false_imp_iff, implies_true, entries, List.flatten_nil, true_and]
  | cons p rest ih =>
      rw [heads, tails_cons, entries]
      cases hp : p.fixed with
      | true =>
          simp only [if_true, List.flatten_cons]
          rw [map_eq_ok_iff]
          constructor
          · rintro ⟨tail, htail, rfl⟩
            obtain ⟨hfit, rfl⟩ := (ih start tail).mp htail
            exact ⟨hfit, rfl⟩
          · rintro ⟨hfit, rfl⟩
            exact ⟨_, (ih start _).mpr ⟨hfit, rfl⟩, rfl⟩
      | false =>
          simp only [Bool.false_eq_true, if_false, List.flatten_cons, offsets, List.forall_mem_cons]
          rw [bind_eq_ok_iff]
          constructor
          · rintro ⟨offset, hoffset, hrest⟩
            obtain ⟨tail, htail, hpure⟩ := bind_eq_ok_iff.mp hrest
            obtain ⟨hstart, rfl⟩ := (encodeOffset_eq_ok_iff start offset).mp hoffset
            obtain ⟨hfit, rfl⟩ := (ih (start + p.bytes.length) tail).mp htail
            exact ⟨⟨hstart, hfit⟩, Except.ok.inj hpure⟩
          · rintro ⟨⟨hstart, hfit⟩, rfl⟩
            refine ⟨_, (encodeOffset_eq_ok_iff start _).mpr ⟨hstart, rfl⟩, ?_⟩
            exact bind_eq_ok_iff.mpr ⟨_, (ih _ _).mpr ⟨hfit, rfl⟩, rfl⟩

/-- Laying out succeeds when every offset fits, and gives the entries of the
    fixed part followed by the variable parts. -/
theorem encode_eq_ok_iff (parts : List Part) (bs : Bytes) :
    encode parts = .ok bs ↔
      (∀ n ∈ offsets (total (parts.map Part.headSize)) (tails parts),
        n < Nat.pow 256 offsetSize) ∧
      (entries (total (parts.map Part.headSize)) parts).flatten
        ++ (tails parts).flatten = bs := by
  rw [encode, map_eq_ok_iff, flatMap_tail]
  constructor
  · rintro ⟨front, hfront, rfl⟩
    obtain ⟨hfit, rfl⟩ := (heads_eq_ok_iff _ parts front).mp hfront
    exact ⟨hfit, rfl⟩
  · rintro ⟨hfit, rfl⟩
    exact ⟨_, (heads_eq_ok_iff _ parts _).mpr ⟨hfit, rfl⟩, rfl⟩

theorem map_length_entries (start : Nat) (parts : List Part) :
    (entries start parts).map List.length = parts.map Part.headSize := by
  induction parts generalizing start with
  | nil => rfl
  | cons p rest ih =>
      rw [entries, List.map_cons, Part.headSize]
      cases hp : p.fixed with
      | true => rw [if_pos rfl, if_pos rfl, List.map_cons, ih]
      | false =>
          rw [if_neg Bool.false_ne_true, if_neg Bool.false_ne_true, List.map_cons, ih,
            Bytes.length_ofNat]

theorem total_map_length (pieces : List Bytes) :
    total (pieces.map List.length) = pieces.flatten.length := by
  induction pieces with
  | nil => rfl
  | cons piece rest ih => rw [List.map_cons, total, ih, List.flatten_cons, List.length_append]

/-- The fixed part is as long as the sizes of its entries say. -/
theorem length_flatten_entries (start : Nat) (parts : List Part) :
    (entries start parts).flatten.length = total (parts.map Part.headSize) := by
  rw [← total_map_length, map_length_entries]

theorem decodeOffset_ofNat (n : Nat) (h : n < Nat.pow 256 offsetSize) :
    decodeOffset (Bytes.ofNat offsetSize n) = n := by
  rw [decodeOffset, Bytes.toNat_ofNat, Nat.mod_eq_of_lt h]

/-- Joined pieces are cut apart by their sizes, whatever follows them. -/
theorem splitFixed_flatten (type : String) (pieces : List Bytes) (more : Bytes) :
    splitFixed type (pieces.map List.length) (pieces.flatten ++ more) = .ok pieces := by
  induction pieces with
  | nil => rfl
  | cons piece rest ih =>
      have htake : ((piece :: rest).flatten ++ more).take piece.length = piece := by
        rw [List.flatten_cons, List.append_assoc, List.take_left]
      have hdrop : ((piece :: rest).flatten ++ more).drop piece.length = rest.flatten ++ more := by
        rw [List.flatten_cons, List.append_assoc, List.drop_left]
      rw [List.map_cons, splitFixed, htake, if_pos rfl, hdrop, ih]
      rfl

/-- A member is cut out when its bytes lie behind the fixed part, in order and
    inside the data. -/
theorem slices_cons (type : String) (data : Bytes) (length fixedEnd start : Nat) (field : String)
    (rest : List (String × Nat)) :
    slices type data length fixedEnd ((field, start) :: rest) =
      if fixedEnd ≤ start ∧ start ≤ stop length rest ∧ stop length rest ≤ length then
        (slices type data length fixedEnd rest).map
          ((data.drop start).take (stop length rest - start) :: ·)
      else .error (.cause (.decode type (.offsets field start (stop length rest)))) := by
  cases rest with
  | nil => rfl
  | cons next rest => rfl

/-- A piece ends where the next one starts, and the last one where the data
    ends. -/
theorem stop_eq (length start : Nat) (rest : List Bytes) (more : List (String × Nat))
    (h : more.map Prod.snd = offsets start rest) (hlast : rest = [] → length = start) :
    stop length more = start := by
  cases rest with
  | nil =>
      rw [offsets, List.map_eq_nil_iff] at h
      rw [h]
      exact hlast rfl
  | cons next rest =>
      obtain ⟨m, more', rfl, hm, -⟩ := List.map_eq_cons_iff.mp h
      exact hm

/-- Joined pieces are cut apart by the offsets at which they start, if these lie
    behind the fixed part. -/
theorem slices_flatten (type : String) (fixedEnd : Nat) (pieces : List Bytes) (front : Bytes)
    (starts : List (String × Nat)) (hstarts : starts.map Prod.snd = offsets front.length pieces)
    (hend : fixedEnd ≤ front.length) :
    slices type (front ++ pieces.flatten) (front ++ pieces.flatten).length fixedEnd starts
      = .ok pieces := by
  induction pieces generalizing front starts with
  | nil =>
      rw [offsets, List.map_eq_nil_iff] at hstarts
      rw [hstarts, slices]
  | cons piece rest ih =>
      obtain ⟨⟨field, start⟩, more, rfl, hstart, hmore⟩ := List.map_eq_cons_iff.mp hstarts
      simp only at hstart
      subst hstart
      have hjoin : front ++ (piece :: rest).flatten = (front ++ piece) ++ rest.flatten := by
        rw [List.flatten_cons, List.append_assoc]
      have hlen : (front ++ piece).length = front.length + piece.length := List.length_append
      have hrest := ih (front ++ piece) more (by rw [hlen, hmore]) (by omega)
      rw [← hjoin] at hrest
      have hbound : front.length + piece.length ≤ (front ++ (piece :: rest).flatten).length := by
        rw [hjoin, List.length_append, hlen]
        omega
      have hstop : stop (front ++ (piece :: rest).flatten).length more
          = front.length + piece.length := by
        refine stop_eq _ _ rest more hmore (fun hnil => ?_)
        rw [hjoin, hnil, List.flatten_nil, List.append_nil, hlen]
      rw [slices_cons, hstop,
        if_pos ⟨hend, Nat.le_add_right _ _, hbound⟩, hrest, List.drop_left, Nat.add_sub_cancel_left,
        List.flatten_cons, List.take_left]
      rfl

/-- Pieces that were cut by their sizes have these sizes and join to the front of
    the data. -/
theorem splitFixed_eq_ok (type : String) (sizes : List Nat) (data : Bytes) (ps : List Bytes)
    (h : splitFixed type sizes data = .ok ps) :
    ps.map List.length = sizes ∧ ps.flatten ++ data.drop (total sizes) = data := by
  induction sizes generalizing data ps with
  | nil =>
      rw [← Except.ok.inj h]
      exact ⟨rfl, rfl⟩
  | cons size sizes ih =>
      rw [splitFixed] at h
      by_cases hlen : (data.take size).length = size
      · rw [if_pos hlen] at h
        obtain ⟨rest, hrest, rfl⟩ := map_eq_ok_iff.mp h
        obtain ⟨hsizes, hjoin⟩ := ih _ rest hrest
        rw [List.drop_drop] at hjoin
        refine ⟨by rw [List.map_cons, hlen, hsizes], ?_⟩
        rw [List.flatten_cons, List.append_assoc, total, hjoin, List.take_append_drop]
      · rw [if_neg hlen] at h
        exact absurd h (by simp only [reduceCtorEq, not_false_eq_true])

/-- Pieces that were cut at offsets lie behind the fixed part and follow each
    other up to the end of the data. What is between the fixed part and the
    first of them belongs to none. -/
theorem slices_eq_ok (type : String) (data : Bytes) (fixedEnd start : Nat) (field : String)
    (more : List (String × Nat)) (ps : List Bytes)
    (h : slices type data data.length fixedEnd ((field, start) :: more) = .ok ps) :
    fixedEnd ≤ start ∧ start ≤ data.length ∧ ps.flatten = data.drop start ∧
      start :: more.map Prod.snd = offsets start ps := by
  induction more generalizing start field ps with
  | nil =>
      rw [slices_cons] at h
      split at h
      · rename_i hbounds
        obtain ⟨rest, hrest, rfl⟩ := map_eq_ok_iff.mp h
        rw [← Except.ok.inj hrest]
        refine ⟨hbounds.1, hbounds.2.1, ?_, rfl⟩
        rw [stop, List.flatten_cons, List.flatten_nil, List.append_nil]
        exact List.take_of_length_le (Nat.le_of_eq List.length_drop)
      · exact absurd h (by simp only [reduceCtorEq, not_false_eq_true])
  | cons next more ih =>
      rw [slices_cons] at h
      split at h
      · rename_i hbounds
        obtain ⟨rest, hrest, rfl⟩ := map_eq_ok_iff.mp h
        obtain ⟨-, -, hjoin, hstarts⟩ := ih next.2 next.1 rest hrest
        have hstop : stop data.length (next :: more) = next.2 := rfl
        rw [hstop] at hbounds ⊢
        have hlen : ((data.drop start).take (next.2 - start)).length = next.2 - start := by
          rw [List.length_take, List.length_drop]
          omega
        refine ⟨hbounds.1, by omega, ?_, ?_⟩
        · have hdrop : data.drop next.2 = (data.drop start).drop (next.2 - start) := by
            rw [List.drop_drop]
            congr 1
            omega
          rw [List.flatten_cons, hjoin, hdrop, List.take_append_drop]
        · rw [offsets, hlen, List.map_cons, hstarts]
          congr 2
          omega
      · exact absurd h (by simp only [reduceCtorEq, not_false_eq_true])

/-- There are as many pieces as offsets to cut at. -/
theorem length_of_slices (type : String) (data : Bytes) (fixedEnd : Nat)
    (starts : List (String × Nat)) (ps : List Bytes)
    (h : slices type data data.length fixedEnd starts = .ok ps) : ps.length = starts.length := by
  cases starts with
  | nil =>
      rw [← Except.ok.inj h]
      rfl
  | cons first more =>
      obtain ⟨-, -, -, hstarts⟩ := slices_eq_ok type data fixedEnd first.2 first.1 more ps h
      have hlen := congrArg List.length hstarts
      rw [length_offsets, List.length_cons, List.length_map] at hlen
      exact hlen.symm

theorem length_pieces (size count : Nat) (data : Bytes) :
    (pieces size count data).length = count := by
  induction count generalizing data with
  | zero => rfl
  | succ count ih => rw [pieces, List.length_cons, ih]

/-- Joined pieces of one size are cut apart by that size. -/
theorem pieces_flatten (size : Nat) (ps : List Bytes) (h : ∀ p ∈ ps, p.length = size)
    (more : Bytes) : pieces size ps.length (ps.flatten ++ more) = ps := by
  induction ps with
  | nil => rfl
  | cons p rest ih =>
      have hp : p.length = size := h p List.mem_cons_self
      rw [List.length_cons, pieces, List.flatten_cons, List.append_assoc, ← hp, List.take_left,
        List.drop_left, hp, ih fun q hq => h q (List.mem_cons_of_mem p hq)]

theorem length_flatten_uniform (size : Nat) (ps : List Bytes) (h : ∀ p ∈ ps, p.length = size) :
    ps.flatten.length = ps.length * size := by
  induction ps with
  | nil => rw [List.flatten_nil, List.length_nil, List.length_nil, Nat.zero_mul]
  | cons p rest ih =>
      rw [List.flatten_cons, List.length_append, h p List.mem_cons_self,
        ih fun q hq => h q (List.mem_cons_of_mem p hq), List.length_cons, Nat.succ_mul,
        Nat.add_comm]

theorem splitUniform_flatten (type : String) (size : Nat) (ps : List Bytes)
    (hsize : size ≠ 0) (h : ∀ p ∈ ps, p.length = size) :
    splitUniform type ps.flatten size = .ok ps := by
  have hpieces := pieces_flatten size ps h []
  rw [List.append_nil] at hpieces
  rw [splitUniform, if_neg hsize, length_flatten_uniform size ps h, Nat.mul_mod_left, if_pos rfl,
    Nat.mul_div_cancel _ (Nat.pos_of_ne_zero hsize), hpieces]

theorem tails_fixed (items : List Bytes) : tails (items.map (Part.mk true)) = [] := by
  induction items with
  | nil => rfl
  | cons item rest ih => rw [List.map_cons, tails_cons, if_pos rfl, ih]

theorem entries_fixed (start : Nat) (items : List Bytes) :
    entries start (items.map (Part.mk true)) = items := by
  induction items with
  | nil => rfl
  | cons item rest ih => rw [List.map_cons, entries, if_pos rfl, ih]

theorem tails_open (items : List Bytes) : tails (items.map (Part.mk false)) = items := by
  induction items with
  | nil => rfl
  | cons item rest ih => rw [List.map_cons, tails_cons, if_neg Bool.false_ne_true, ih]

theorem entries_open (start : Nat) (items : List Bytes) :
    entries start (items.map (Part.mk false))
      = (offsets start items).map (Bytes.ofNat offsetSize) := by
  induction items generalizing start with
  | nil => rfl
  | cons item rest ih =>
      rw [List.map_cons, entries, if_neg Bool.false_ne_true, ih, offsets, List.map_cons]

/-- Pieces that start earlier have lower offsets. -/
theorem offsets_lt_of_le (bound start later : Nat) (items : List Bytes) (h : start ≤ later)
    (hlater : ∀ n ∈ offsets later items, n < bound) : ∀ n ∈ offsets start items, n < bound := by
  induction items generalizing start later with
  | nil => exact hlater
  | cons item rest ih =>
      rw [offsets, List.forall_mem_cons] at hlater ⊢
      exact ⟨by omega, ih (start + item.length) (later + item.length) (by omega) hlater.2⟩

/-- Members of fixed size are laid out one behind the other. -/
theorem encode_fixed_eq_ok_iff (items : List Bytes) (bs : Bytes) :
    encode (items.map (Part.mk true)) = .ok bs ↔ items.flatten = bs := by
  rw [encode_eq_ok_iff, tails_fixed, entries_fixed]
  simp only [offsets, List.not_mem_nil, false_imp_iff, implies_true, List.flatten_nil,
    List.append_nil, true_and]

/-- The offsets before members of variable size, in bytes. -/
def table (items : List Bytes) : Bytes :=
  ((offsets (items.length * offsetSize) items).map (Bytes.ofNat offsetSize)).flatten

theorem length_table (items : List Bytes) : (table items).length = items.length * offsetSize := by
  rw [table, length_flatten_uniform offsetSize, List.length_map, length_offsets]
  intro p hp
  obtain ⟨n, -, rfl⟩ := List.mem_map.mp hp
  exact Bytes.length_ofNat offsetSize n

/-- Members of variable size are laid out one behind the other, their offsets
    before them. -/
theorem encode_open_eq_ok_iff (items : List Bytes) (bs : Bytes) :
    encode (items.map (Part.mk false)) = .ok bs ↔
      (∀ n ∈ offsets (items.length * offsetSize) items, n < Nat.pow 256 offsetSize) ∧
        table items ++ items.flatten = bs := by
  have hhead : total ((items.map (Part.mk false)).map Part.headSize)
      = items.length * offsetSize := by
    induction items with
    | nil => rfl
    | cons item rest ih =>
        rw [List.map_cons, List.map_cons, total, ih, Part.headSize, if_neg Bool.false_ne_true,
          List.length_cons, Nat.succ_mul, Nat.add_comm]
  rw [encode_eq_ok_iff, hhead, tails_open, entries_open, table]

end Layout

end Beacon
