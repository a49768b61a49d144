import Beacon.Proofs.Ssz.Places
import Beacon.Proofs.Ssz.Reading
import Beacon.Ssz.Building

/-!
# Data as an Input

On data alone, accepting is reading.

`Schema.read` knows data only, and `Schema.accept` all that may be passed in. They are
two definitions because nearly everything is said of values that come from outside, and
there is no more to those than data. What data gives is the same in both: the value that
is read, with the types that its type declares, or the same fault.

The two differ in one step. A sequence may look at its elements a second time, and this
is not to be seen in what is read. The elements have been read by then, and so they are
kept, or they are numbers in range and are made anew as they are.

## Theorems

* `Schema.accept_made_instantiate`: A value with its declared types is accepted as it is.
* `Schema.accept_data`: On data, accepting is reading.
* `Schema.construct_data`: On data, so is constructing.
-/

namespace Beacon

open Outcome

/-- Data that is passed in under the names of fields. -/
def Input.ofFields (given : List (Text × Datum)) : List (Text × Input) :=
  given.map fun (name, d) => (name, .data d)

theorem Input.lookup_ofFields (key : Text) (given : List (Text × Datum)) :
    (ofFields given).lookup key = (given.lookup key).map .data := by
  induction given with
  | nil => rfl
  | cons entry rest ih =>
      rw [ofFields, List.map_cons, List.lookup_cons, List.lookup_cons]
      split
      · rfl
      · exact ih

namespace Fault

variable {α β γ : Type}

theorem under_map (step : Step) (f : α → β) (x : Except Fault α) :
    under step (x.map f) = (under step x).map f := by
  rcases x with fault | a
  · cases fault <;> rfl
  · rfl

/-- What two parts are put together to may be mapped, or the parts may be. -/
theorem collect_map {α' β' γ' : Type} {f : α → β → γ} {g : α' → β' → γ'} {p : α → α'}
    {q : β → β'} {r : γ → γ'} (h : ∀ a b, g (p a) (q b) = r (f a b)) (x : Except Fault α)
    (y : Except Fault β) : collect g (x.map p) (y.map q) = (collect f x y).map r := by
  rcases x with fault | a <;> rcases y with fault' | b
  · cases fault <;> cases fault' <;> rfl
  · cases fault <;> rfl
  · rfl
  · exact congrArg Except.ok (h a b)

theorem required_data {name : String} {check : Input → Except Fault β}
    {check' : Datum → Except Fault α} {f : α → β} (h : ∀ d, check (.data d) = (check' d).map f)
    (given : List (Text × Datum)) :
    required name check (Input.ofFields given) = (required name check' given).map f := by
  unfold required
  rw [← under_map, Input.lookup_ofFields]
  cases given.lookup ↑name with
  | none => rfl
  | some d => exact congrArg (under _) (h d)

theorem others_data (known : List String) (given : List (Text × Datum)) :
    others known (Input.ofFields given) = others known given := by
  unfold others Input.ofFields
  rw [List.map_map]
  rfl

theorem closed_data (known : List String) (given : List (Text × Datum)) (f : α → β)
    (x : Except Fault α) :
    closed known (Input.ofFields given) (x.map f) = (closed known given x).map f := by
  unfold closed
  simp only [others_data]
  generalize (if (others known given).isEmpty then (.ok () : Except Fault Unit)
    else .error (.invalid ((others known given).map fun name =>
      ⟨[.field name], .unknownField⟩))) = refused
  have hcollect := collect_map (f := fun a (_ : Unit) => a) (g := fun a (_ : Unit) => a)
    (p := f) (q := id) (r := f) (fun _ _ => rfl) x refused
  rw [show refused.map id = refused by cases refused <;> rfl] at hcollect
  rw [hcollect]
  -- The names of the other fields are the same, and they alone are looked at here.
  cases collect (fun a (_ : Unit) => a) x refused with
  | ok a => rfl
  | error fault =>
      cases fault with
      | invalid details =>
          simp only [Except.map]
          split <;> rfl
      | _ => rfl

end Fault

theorem mapM_data {α β : Type} {f : α → β} {g : Input → Except Fault β} {g' : Datum → Except Fault α}
    (h : ∀ d, g (.data d) = (g' d).map f) (ds : List Datum) :
    (ds.map .data).mapM g = (ds.mapM g').map (List.map f) := by
  induction ds with
  | nil => rfl
  | cons d ds ih =>
      rw [List.map_cons, List.mapM_cons, List.mapM_cons, h, ih]
      cases g' d with
      | error fault => rfl
      | ok a => cases ds.mapM g' <;> rfl

theorem Bits.ofInput_data (d : Datum) : Bits.ofInput (.data d) = Bits.ofDatum d := by
  unfold Bits.ofInput Bits.ofDatum
  cases hitems : d.items? with
  | none =>
      simp only [Input.items?, hitems, Option.map_none]
      rfl
  | some items =>
      simp only [Input.items?, hitems, Option.map_some, List.mapM_map]
      rfl

/-- Data is no value of a type yet, and so it is never kept. -/
theorem Classes.keep_data (c : Classes) (s : Schema) (d : Datum)
    (otherwise : Except Fault Instance) : c.keep s (.data d) otherwise = otherwise := rfl

namespace Schema

variable {c : Classes} {s : Schema}

theorem acceptCollection_data {contents : Input → Except Fault Instance}
    {contents' : Datum → Except Fault Value}
    (h : ∀ d, contents (.data d) = (contents' d).map s.instantiate) (absent d : Datum) :
    acceptCollection contents (.data absent) (.data d) =
      (readCollection contents' absent d).map s.instantiate := by
  cases d with
  | record given =>
      have hdata : ((Input.ofFields given).lookup ↑"data").getD (.data absent) =
          .data (((Datum.record given).field? "data").getD absent) := by
        rw [Input.lookup_ofFields, Datum.field?]
        cases given.lookup ↑"data" <;> rfl
      change Fault.closed ["data"] (Input.ofFields given) (Fault.under (.field "data")
        (contents (((Input.ofFields given).lookup ↑"data").getD (.data absent)))) = _
      rw [hdata, h, Fault.under_map, Fault.closed_data]
      rfl
  | null | bool | int | real | text | bytes | list | tuple =>
      change Fault.under (.field "data") (contents (.data _)) = _
      rw [h, Fault.under_map]
      rfl

theorem acceptBitfield_data {contents : Input → Except Fault Instance}
    {contents' : Datum → Except Fault Value}
    (h : ∀ d, contents (.data d) = (contents' d).map s.instantiate) (d : Datum) :
    acceptBitfield s contents (.data d) = (readBitfield s contents' d).map s.instantiate := by
  cases d with
  | text t => rfl
  | null | bool | int | real | bytes | list | tuple | record =>
      simp only [acceptBitfield, readBitfield]
      exact acceptCollection_data h (.tuple []) _

/-- A value with the types that its type declares is accepted as it is. -/
theorem accept_made_instantiate {v : Value} (h : s.Admits v) :
    s.accept c (.made (s.instantiate v)) = .ok (s.instantiate v) := by
  have hisA : c.isA (s.instantiate v).type s = true := by
    rw [instantiate_type]
    exact c.refl s
  cases s with
  | uint name bits =>
      cases v with
      | uint n =>
          have hn : Number.ofInt name bits n = .ok n := Number.ofInt_eq_ok_iff.mpr ⟨rfl, h⟩
          simp only [instantiate, accept, Number.accept, Number.ofInput, hn, Fault.refuse, Except.map]
      | bytes | bits | row => exact h.elim
  | unfinished name outline => exact h.elim
  | bytes | byteList | bitvector | bitlist | vector | list | container =>
      rw [accept, Classes.keep, if_pos hisA]

theorem acceptAgain_instantiate {element : Schema} (n : Nat) {vs : List Value}
    (h : ∀ v ∈ vs, element.Admits v) :
    acceptAgain (element.accept c) n (vs.map element.instantiate) =
      .ok (vs.map element.instantiate) := by
  induction vs generalizing n with
  | nil => rfl
  | cons v vs ih =>
      obtain ⟨hv, hvs⟩ := List.forall_mem_cons.mp h
      rw [List.map_cons, acceptAgain, accept_made_instantiate hv, ih (n + 1) hvs]
      rfl

/-- The second look at elements that were read leaves them as they are. -/
theorem acceptRow_instantiate {element : Schema} {vs : List Value}
    (h : ∀ v ∈ vs, element.Admits v) :
    acceptRow c s (element.accept c) (vs.map element.instantiate) =
      .ok (.row s (vs.map element.instantiate)) := by
  unfold acceptRow
  split
  · rw [acceptAgain_instantiate 0 h]
    rfl
  · rfl

theorem acceptElements_data {element : Schema}
    (h : ∀ d, element.accept c (.data d) = (element.read d).map element.instantiate) (d : Datum) :
    acceptElements c element (element.accept c) (.data d) =
      (readElements element.name element.read d).map (List.map element.instantiate) := by
  unfold acceptElements readElements
  cases hitems : d.items? with
  | none =>
      simp only [Input.items?, hitems, Option.map_none]
      rfl
  | some items =>
      simp only [Input.items?, hitems, Option.map_some]
      refine mapM_data (fun item => ?_) items
      change checkedElement element.name item.kind (element.accept c (.data item)) = _
      rw [h item]
      rcases element.read item with fault | v
      · cases fault <;> rfl
      · rfl

theorem acceptSequence_data {element : Schema} {p : Nat → Prop} [DecidablePred p] {e : Nat → Fault}
    (helement : ∀ d, element.accept c (.data d) = (element.read d).map element.instantiate)
    (hrow : ∀ vs, s.instantiate (.row vs) = .row s (vs.map element.instantiate)) (d : Datum) :
    acceptCollection (fun i => do
      let xs ← acceptElements c element (element.accept c) i
      if p xs.length then acceptRow c s (element.accept c) xs else .error (e xs.length))
      (.data (.tuple [])) (.data d) =
    (readCollection (fun d => do
      let vs ← readElements element.name element.read d
      if p vs.length then pure (.row vs) else .error (e vs.length)) (.tuple []) d).map
        s.instantiate := by
  refine acceptCollection_data (fun d => ?_) (.tuple []) d
  rw [acceptElements_data helement]
  cases hvs : readElements element.name element.read d with
  | error fault => rfl
  | ok vs =>
      -- What was read belongs to the type, so a second look finds nothing to change.
      have hadmits := admits_of_readElements hvs (admits_of_read element)
      simp only [Except.map, ok_bind, List.length_map, acceptRow_instantiate hadmits]
      split
      · exact congrArg Except.ok (hrow vs).symm
      · rfl

mutual

/-- On data, accepting is reading: the same value with the types that are declared for
    it, or the same fault. -/
theorem accept_data (c : Classes) : ∀ (s : Schema) (d : Datum),
    s.accept c (.data d) = (s.read d).map s.instantiate
  | .uint name bits, d => by
      rw [accept, read]
      change (Number.read name bits d).map _ = _
      cases Number.read name bits d <;> rfl
  | .bytes name length, d => by
      rw [accept, read, Classes.keep_data]
      rfl
  | .byteList name limit, d => by
      rw [accept, read, Classes.keep_data]
      refine acceptCollection_data (fun d => ?_) (.bytes []) d
      rfl
  | .bitvector name length, d => by
      rw [accept, read, Classes.keep_data]
      refine acceptBitfield_data (fun d => ?_) d
      rw [Bits.ofInput_data]
      rfl
  | .bitlist name limit, d => by
      rw [accept, read, Classes.keep_data]
      refine acceptBitfield_data (fun d => ?_) d
      rw [Bits.ofInput_data]
      rfl
  | .vector name element length, d => by
      rw [accept, read, Classes.keep_data]
      exact acceptSequence_data (s := .vector name element length) (p := (· = length))
        (e := fun n => Fault.problem (.refused (.elementCount name length n)))
        (accept_data c element) (fun _ => rfl) d
  | .list name element limit, d => by
      rw [accept, read, Classes.keep_data]
      exact acceptSequence_data (s := .list name element limit) (p := (· ≤ limit))
        (e := fun n => Fault.problem (.refused (.elementLimit name limit n)))
        (accept_data c element) (fun _ => rfl) d
  | .container name fields, d => by
      rw [accept, Classes.keep_data]
      cases d with
      | record given =>
          change Fault.closed _ (Input.ofFields given) ((acceptFields c (Input.ofFields given)
            fields).map _) = _
          rw [read, acceptFields_data c fields given]
          have hrow : ((readFields given fields).map (instantiateAll fields)).map
              (.row (.container name fields)) =
              ((readFields given fields).map Value.row).map (instantiate (.container name fields)) := by
            cases readFields given fields <;> rfl
          rw [hrow, Fault.closed_data]
      | null | bool | int | real | text | bytes | list | tuple => rfl
  | .unfinished name outline, d => by
      cases outline with
      | bytes =>
          rw [accept, read, Classes.keep_data]
          rfl
      | bitvector | bitlist =>
          rw [accept, read, Classes.keep_data]
          exact acceptBitfield_data (fun _ => rfl) d
      | byteList | vector | vectorOf | list | listOf =>
          simp only [accept, read]
          rfl

theorem acceptFields_data (c : Classes) : ∀ (fields : Fields) (given : List (Text × Datum)),
    acceptFields c (Input.ofFields given) fields =
      (readFields given fields).map (instantiateAll fields)
  | .nil, _ => rfl
  | .cons name type rest, given => by
      rw [acceptFields, readFields, Fault.required_data (accept_data c type) given,
        acceptFields_data c rest given]
      exact Fault.collect_map (f := (· :: ·)) (g := (· :: ·)) (p := type.instantiate)
        (q := instantiateAll rest) (r := instantiateAll (.cons name type rest)) (fun _ _ => rfl) _ _

end

/-- It makes no difference whether data is a record or stands in one. -/
theorem accept_ofFields (c : Classes) (s : Schema) (given : List (Text × Datum)) :
    s.accept c (.record (Input.ofFields given)) = s.accept c (.data (.record given)) := by
  cases s with
  | unfinished name outline => cases outline <;> rfl
  | uint | bytes | byteList | bitvector | bitlist | vector | list | container => rfl

/-- On data, constructing gives the same value or the same fault as well. -/
theorem construct_data (c : Classes) (s : Schema) (d : Datum) :
    s.construct c (.data d) = (s.make d).map s.instantiate := by
  have hdata (s : Schema) : s.accept c (.record [("data", .data d)]) =
      (s.read (.record [("data", d)])).map s.instantiate :=
    (accept_ofFields c s [("data", d)]).trans (accept_data c s (.record [("data", d)]))
  cases s with
  | uint name bits =>
      change (Number.make name bits d).map _ = ((Number.make name bits d).map _).map _
      cases Number.make name bits d <;> rfl
  | bytes name length => rfl
  | container name fields =>
      cases d with
      | record given =>
          exact (accept_ofFields c _ given).trans (accept_data c _ (.record given))
      | null | bool | int | real | text | bytes | list | tuple => rfl
  | unfinished name outline =>
      cases outline with
      | bytes => rfl
      | byteList | bitvector | bitlist | vector | vectorOf | list | listOf => exact hdata _
  | byteList | bitvector | bitlist | vector | list => exact hdata _

end Schema

end Beacon
