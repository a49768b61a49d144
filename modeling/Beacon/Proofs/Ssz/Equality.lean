import Beacon.Fork.Scalar
import Beacon.Ssz.Typed
import Mathlib.Data.List.Forall2

/-!
# Equality and Hashes

Sets find a value by its hash, so values that are equal have to have equal hashes. Otherwise
a set holds both of them.

Equality is decided by what a value comes down to (`essence`): a number to the number, a
fixed byte string to its bytes, and any other value to its type and its contents. Two values
are equal exactly if this is the same, which makes equality symmetric and transitive at once.
The contents of two values of one type are compared part by part (`agrees`), and since parts
that stand at one place have one type, this comes to being the same value.

A hash is made of the hashes of parts, too, down to hashes of numbers and byte strings. How
these are computed is left open, and so is how several become one: `Hashing` stands for any
way of doing it. One step is not made of parts. A fixed byte string is hashed together with
its type, although its type makes no difference when it is compared. Everywhere inside a
value that does no harm, since there the types are given. For two values by themselves it
does: they may be byte strings of one length and two types. `Apart` says that they are, and
then they are equal but not found under the same hash. In all other cases equality and hashes
agree.

## Main definitions

* `Typed.essence`: What a value comes down to when it is compared.
* `Schema.agrees`, `Typed.Alike`: Equality part by part.
* `Hashing`, `Schema.hash`: Ways to hash, and the hash of a value.
* `Typed.Apart`: Two fixed byte strings of different types.

## Theorems

* `Schema.agrees_iff`: Contents that agree part by part are the same.
* `Typed.equals_iff_essence`, `Typed.equals_iff_alike`: When two values are equal.
* `Typed.hash_of_key`: What is found under one key has one hash.
* `Typed.equals_hashed`: Equal values have equal hashes unless they are apart, and equality
  is symmetric and transitive.
* `Typed.equals_apart`: Two versions that are equal and have different hashes.
-/

namespace Beacon

/-- A way to hash: numbers, byte strings, types, rows of things that have been hashed, and
    records of a type whose fields have been hashed. -/
structure Hashing where
  /-- The hash of a number. -/
  number : Nat → Int
  /-- The hash of a byte string. -/
  bytes : Bytes → Int
  /-- The hash of a type. -/
  type : Schema → Int
  /-- The hash of a row. -/
  row : List Int → Int
  /-- The hash of a record. -/
  record : Schema → List Int → Int

namespace Schema

mutual

/-- Whether the contents of two values of a type are equal, part by part. -/
def agrees : Schema → Value → Value → Bool
  | .vector _ element _, .row vs, .row ws => List.all₂ element.agrees vs ws
  | .list _ element _, .row vs, .row ws => List.all₂ element.agrees vs ws
  | .container _ fields, .row vs, .row ws => agreesAll fields vs ws
  | _, v, w => v = w

/-- Whether the fields of two containers are equal, each to the other one's. -/
def agreesAll : Fields → List Value → List Value → Bool
  | .cons _ type rest, v :: vs, w :: ws => type.agrees v w && agreesAll rest vs ws
  | _, vs, ws => vs = ws

end

mutual

/-- The hash of a value of a type. What holds its contents in one field is a record of that
    field. -/
def hash (h : Hashing) : Schema → Value → Int
  | .uint _ _, .uint n => h.number n
  | .bytes name length, .bytes bs => h.row [h.type (.bytes name length), h.bytes bs]
  | .byteList name limit, .bytes bs => h.record (.byteList name limit) [h.bytes bs]
  | .bitvector name length, .bits bits =>
      h.record (.bitvector name length) [h.row (bits.map fun bit => h.number bit.toNat)]
  | .bitlist name limit, .bits bits =>
      h.record (.bitlist name limit) [h.row (bits.map fun bit => h.number bit.toNat)]
  | .vector name element length, .row vs =>
      h.record (.vector name element length) [h.row (vs.map (element.hash h))]
  | .list name element limit, .row vs =>
      h.record (.list name element limit) [h.row (vs.map (element.hash h))]
  | .container name fields, .row vs => h.record (.container name fields) (hashAll h fields vs)
  | _, _ => 0

/-- The hashes of a container's fields. -/
def hashAll (h : Hashing) : Fields → List Value → List Int
  | .cons _ type rest, v :: vs => type.hash h v :: hashAll h rest vs
  | _, _ => []

end

/-- Rows whose members agree in pairs are the same, if agreeing is being the same for the
    members. -/
theorem all₂_iff {element : Schema} (h : ∀ v w, element.agrees v w = true ↔ v = w)
    (vs ws : List Value) : List.all₂ element.agrees vs ws = true ↔ vs = ws := by
  rw [List.all₂_eq_true, ← List.forall₂_eq_eq_eq]
  constructor
  · exact fun hall => hall.imp fun v w => (h v w).mp
  · exact fun hall => hall.imp fun v w => (h v w).mpr

mutual

/-- Contents that agree part by part are the same. -/
theorem agrees_iff : ∀ (s : Schema) (v w : Value), s.agrees v w = true ↔ v = w
  | .vector _ element _, v, w => by
      rcases v with _ | _ | _ | vs <;> rcases w with _ | _ | _ | ws <;>
        simp only [agrees, decide_eq_true_eq, Value.row.injEq, all₂_iff (agrees_iff element)]
  | .list _ element _, v, w => by
      rcases v with _ | _ | _ | vs <;> rcases w with _ | _ | _ | ws <;>
        simp only [agrees, decide_eq_true_eq, Value.row.injEq, all₂_iff (agrees_iff element)]
  | .container _ fields, v, w => by
      rcases v with _ | _ | _ | vs <;> rcases w with _ | _ | _ | ws <;>
        simp only [agrees, decide_eq_true_eq, Value.row.injEq, agreesAll_iff fields]
  | .uint _ _, _, _ | .bytes _ _, _, _ | .byteList _ _, _, _ | .bitvector _ _, _, _
  | .bitlist _ _, _, _ | .unfinished _ _, _, _ => decide_eq_true_iff

theorem agreesAll_iff : ∀ (fields : Fields) (vs ws : List Value),
    agreesAll fields vs ws = true ↔ vs = ws
  | .nil, _, _ | .cons _ _ _, [], _ => decide_eq_true_iff
  | .cons _ _ _, _ :: _, [] => decide_eq_true_iff
  | .cons _ type rest, v :: vs, w :: ws => by
      rw [agreesAll, Bool.and_eq_true, agrees_iff type, agreesAll_iff rest, List.cons.injEq]

end

end Schema

/-- What a value comes down to when it is compared. -/
inductive Essence
  | number (n : Nat)
  | bytes (bs : Bytes)
  | whole (type : Schema) (value : Value)

/-- What is left of a key without the type of a fixed byte string. -/
def SetKey.essence : SetKey → Essence
  | .number n => .number n
  | .bytes _ bs => .bytes bs
  | .whole type value => .whole type value

namespace Typed

/-- What a value comes down to when it is compared. -/
def essence (t : Typed) : Essence := t.key.essence

/-- Two values are equal: two numbers if they are the same, two fixed byte strings if they
    have the same bytes, and any two values of one type if their parts are. -/
inductive Alike : Typed → Typed → Prop
  | number (name name' : String) (bits bits' n : Nat) :
      Alike ⟨.uint name bits, .uint n⟩ ⟨.uint name' bits', .uint n⟩
  | bytes (name name' : String) (length length' : Nat) (bs : Bytes) :
      Alike ⟨.bytes name length, .bytes bs⟩ ⟨.bytes name' length', .bytes bs⟩
  | parts {type : Schema} {v w : Value} (h : type.agrees v w = true) : Alike ⟨type, v⟩ ⟨type, w⟩

/-- Two values are fixed byte strings of different types. -/
inductive Apart : Typed → Typed → Prop
  | bytes {name name' : String} {length length' : Nat} {bs bs' : Bytes}
      (h : Schema.bytes name length ≠ .bytes name' length') :
      Apart ⟨.bytes name length, .bytes bs⟩ ⟨.bytes name' length', .bytes bs'⟩

/-- The hash of a value. -/
def hash (h : Hashing) (t : Typed) : Int := t.type.hash h t.value

/-- A value is a number, or a fixed byte string, or nothing less than all of it counts. -/
theorem kinds (t : Typed) :
    (∃ name bits n, t = ⟨.uint name bits, .uint n⟩) ∨
    (∃ name length bs, t = ⟨.bytes name length, .bytes bs⟩) ∨
    t.essence = .whole t.type t.value := by
  rcases t with ⟨type, value⟩
  cases type with
  | uint name bits =>
      cases value with
      | uint n => exact .inl ⟨name, bits, n, rfl⟩
      | bytes | bits | row => exact .inr (.inr rfl)
  | bytes name length =>
      cases value with
      | bytes bs => exact .inr (.inl ⟨name, length, bs, rfl⟩)
      | uint | bits | row => exact .inr (.inr rfl)
  | byteList | bitvector | bitlist | vector | list | container | unfinished =>
      exact .inr (.inr rfl)

/-- Values that come down to the same are equal part by part. -/
theorem alike_of_essence {a b : Typed} (h : a.essence = b.essence) : Alike a b := by
  -- No two of the kinds come down to the same.
  have hkinds {x y : Essence} (hx : a.essence = x) (hy : b.essence = y) : x = y :=
    hx.symm.trans (h.trans hy)
  rcases a.kinds with ⟨name, bits, n, rfl⟩ | ⟨name, length, bs, rfl⟩ | ha <;>
    rcases b.kinds with ⟨name', bits', n', rfl⟩ | ⟨name', length', bs', rfl⟩ | hb
  · rw [Essence.number.inj (hkinds rfl rfl)]
    exact .number name name' bits bits' n'
  · exact nomatch hkinds rfl rfl
  · exact nomatch hkinds rfl hb
  · exact nomatch hkinds rfl rfl
  · rw [Essence.bytes.inj (hkinds rfl rfl)]
    exact .bytes name name' length length' bs'
  · exact nomatch hkinds rfl hb
  · exact nomatch hkinds ha rfl
  · exact nomatch hkinds ha rfl
  · rcases a with ⟨type, v⟩
    rcases b with ⟨type', w⟩
    rcases Essence.whole.inj (hkinds ha hb) with ⟨rfl, hvw⟩
    exact .parts ((type.agrees_iff v w).mpr hvw)

theorem essence_of_alike {a b : Typed} (h : Alike a b) : a.essence = b.essence := by
  cases h with
  | number => rfl
  | bytes => rfl
  | @parts type v w h =>
      rw [(type.agrees_iff v w).mp h]

/-- Two values are equal exactly if they come down to the same. -/
theorem equals_iff_essence (a b : Typed) : a.equals b = true ↔ a.essence = b.essence := by
  unfold equals
  split
  · rw [decide_eq_true_eq, essence, essence, key, key, SetKey.essence, SetKey.essence,
      Essence.number.injEq]
  · rw [decide_eq_true_eq, essence, essence, key, key, SetKey.essence, SetKey.essence,
      Essence.bytes.injEq]
  · rename_i hnumber hbytes
    rw [decide_eq_true_eq]
    constructor
    · exact congrArg essence
    · intro h
      -- They are not two numbers and not two fixed byte strings, so they are of one type.
      cases alike_of_essence h with
      | number name name' bits bits' n => exact absurd rfl (hnumber name bits n name' bits' n rfl)
      | bytes name name' length length' bs =>
          exact absurd rfl (hbytes name length bs name' length' bs rfl)
      | @parts type v w hagree => rw [(type.agrees_iff v w).mp hagree]

/-- Two values are equal exactly if they are part by part. -/
theorem equals_iff_alike (a b : Typed) : a.equals b = true ↔ Alike a b :=
  (equals_iff_essence a b).trans ⟨alike_of_essence, essence_of_alike⟩

/-- Equal values are found under one key unless they are apart. -/
theorem key_eq_iff {a b : Typed} (hab : Alike a b) : a.key = b.key ↔ ¬Apart a b := by
  cases hab with
  | number name name' bits bits' n => exact iff_of_true rfl fun hapart => nomatch hapart
  | bytes name name' length length' bs =>
      rw [key, key, SetKey.bytes.injEq, and_iff_left rfl]
      constructor
      · rintro htype ⟨hne⟩
        exact hne htype
      · intro hnot
        by_contra hne
        exact hnot (.bytes hne)
  | @parts type v w h =>
      rw [(type.agrees_iff v w).mp h]
      refine iff_of_true rfl ?_
      rintro ⟨hne⟩
      exact hne rfl

/-- What is found under one key has one hash, whatever the way to hash. -/
theorem hash_of_key {a b : Typed} (hkey : a.key = b.key) (h : Hashing) : a.hash h = b.hash h := by
  have halike := alike_of_essence (congrArg SetKey.essence hkey)
  cases halike with
  | number => rfl
  | bytes name name' length length' bs =>
      rw [key, key, SetKey.bytes.injEq] at hkey
      rw [hkey.1]
  | @parts type v w hagree => rw [(type.agrees_iff v w).mp hagree]

/-- A way to hash that tells a type from all others, and nothing else. -/
def singlingOut (type : Schema) : Hashing where
  number _ := 0
  bytes _ := 0
  type other := if other = type then 1 else 0
  row hashes := hashes.headD 0
  record _ _ := 0

/-- There is a way to hash by which values that are apart have different hashes. -/
theorem exists_hash_ne {a b : Typed} (h : Apart a b) : ∃ way, a.hash way ≠ b.hash way := by
  cases h with
  | @bytes name name' length length' bs bs' hne =>
      refine ⟨singlingOut (.bytes name length), ?_⟩
      simp only [hash, Schema.hash, singlingOut, if_neg hne.symm, if_true, List.headD_cons]
      decide

/-- Two values are equal exactly if they are part by part, and equality is symmetric and
    transitive. Two equal values have equal hashes, whatever the way to hash, exactly if they
    are not fixed byte strings of different types; and exactly then the set of the two has
    one element. -/
theorem equals_hashed (a b : Typed) :
    (a.equals b = true ↔ Alike a b) ∧
    (a.equals b = true → b.equals a = true) ∧
    (∀ c, a.equals b = true → b.equals c = true → a.equals c = true) ∧
    (a.equals b = true → ((∀ h, a.hash h = b.hash h) ↔ ¬Apart a b)) ∧
    (a.equals b = true → (a.distinct b = 1 ↔ ¬Apart a b)) := by
  refine ⟨equals_iff_alike a b, ?_, ?_, ?_, ?_⟩
  · rw [equals_iff_essence, equals_iff_essence]
    exact Eq.symm
  · intro c
    rw [equals_iff_essence, equals_iff_essence, equals_iff_essence]
    exact Eq.trans
  · intro hequal
    constructor
    · intro hhash hapart
      rcases exists_hash_ne hapart with ⟨way, hne⟩
      exact hne (hhash way)
    · exact fun hnot => hash_of_key ((key_eq_iff ((equals_iff_alike a b).mp hequal)).mpr hnot)
  · intro hequal
    rw [← key_eq_iff ((equals_iff_alike a b).mp hequal), distinct]
    by_cases hkey : a.key = b.key
    · rw [if_pos ⟨hequal, hkey⟩]
      exact iff_of_true rfl hkey
    · rw [if_neg fun h => hkey h.2]
      exact iff_of_false (by decide) hkey

/-- One number in two widths, and once more in the first of them. -/
theorem equals_hashed_number :
    let a : Typed := ⟨.uint "Uint64" 64, .uint 5⟩
    let b : Typed := ⟨.uint "Uint256" 256, .uint 5⟩
    a.equals b = true ∧ b.equals a = true ∧ a.equals a = true ∧ a.distinct b = 1 ∧
      ∀ h, a.hash h = b.hash h := by
  intro a b
  have hab : a.equals b = true := by decide
  have hnot : ¬Apart ⟨.uint "Uint64" 64, .uint 5⟩ ⟨.uint "Uint256" 256, .uint 5⟩ := nofun
  rcases equals_hashed a b with ⟨-, hsymm, htrans, hhash, hdistinct⟩
  exact ⟨hab, hsymm hab, htrans a hab (hsymm hab), (hdistinct hab).mpr hnot, (hhash hab).mpr hnot⟩

/-- Four bytes as a fork's version, and the same bytes under another name. They are equal, but
    a set holds them both, since there are ways to hash by which they differ. -/
theorem equals_apart :
    let a : Typed := ⟨Schema.bytes4, .bytes [1, 2, 3, 4]⟩
    let b : Typed := ⟨.bytes "Domain" 4, .bytes [1, 2, 3, 4]⟩
    a.type.Admits a.value ∧ b.type.Admits b.value ∧ a.equals b = true ∧ a.distinct b = 2 ∧
      ∃ h, a.hash h ≠ b.hash h := by
  intro a b
  have hne : Schema.bytes4 ≠ .bytes "Domain" 4 := by decide
  exact ⟨rfl, rfl, by decide, by decide, exists_hash_ne (.bytes hne)⟩

end Typed

end Beacon
