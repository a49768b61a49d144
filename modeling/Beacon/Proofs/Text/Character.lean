import Beacon.Proofs.Text.Lines

/-!
# Characters from Their Bytes

The bytes of a character are read as that character, wherever they stand.

The first byte of a character never continues another one: it is ASCII, or it lies above
all the bytes that can continue something. So it ends whatever was pending before it, which
becomes a flaw, and from there on the character is read as if it came first. The ranges of
second bytes that the first byte sets are no obstacle, because they leave out nothing but
bytes that would make a shorter encoding, half of a surrogate pair or a number beyond the
last character.

Bytes from elsewhere make no more characters than there are bytes, where what is pending
counts as one, since it is shown as a flaw in the end.

## Main definitions

* `Utf8.flaw`: What is left of a character that is pending.
* `Utf8.tally`: How many characters are shown in the end.
* `Utf8.Pending.Inner`: Only bytes that begin nothing continue what is pending.

## Theorems

* `Utf8.scan_encode`: The bytes of a character are read as it.
* `Utf8.tally_step`: A byte makes one more character at most.
-/

namespace Beacon

namespace Utf8

/-! ### Bytes of a character -/

/-- A list is read off an array of bytes from the front. -/
theorem toList_loop (bs : ByteArray) (i : Nat) (done : List UInt8) :
    ByteArray.toList.loop bs i done = done.reverse ++ bs.data.toList.drop i := by
  fun_induction ByteArray.toList.loop bs i done with
  | case1 i done hi ih =>
      have hlt : i < bs.data.toList.length := hi
      have hget : bs.get! i = bs.data.toList[i] := getElem!_pos bs.data i hi
      rw [ih, List.drop_eq_getElem_cons hlt, List.reverse_cons,
        List.append_assoc, hget]
      rfl
  | case2 i done hi =>
      have hle : bs.data.toList.length ≤ i := Nat.le_of_not_lt hi
      rw [List.drop_of_length_le hle, List.append_nil]

theorem encode_toString (c : Char) : encode c.toString = String.utf8EncodeChar c := by
  rw [encode, String.toUTF8, ByteArray.toList, toList_loop, List.reverse_nil, List.nil_append,
    List.drop_zero, Char.toString, String.toByteArray_singleton, List.utf8Encode_singleton,
    List.toList_data_toByteArray]

/-! ### What is pending -/

/-- What is left of a character that is pending when another one begins. -/
def flaw (pending : Option Pending) : List (Option CodePoint) :=
  if pending.isSome then [none] else []

/-- How many characters are shown in the end, what is pending being a flaw. -/
def tally (x : List (Option CodePoint) × Option Pending) : Nat := x.1.length + (flaw x.2).length

/-- Only bytes that begin no character continue one. -/
structure Pending.Inner (p : Pending) : Prop where
  /-- The next byte is not ASCII. -/
  low : 0x80 ≤ p.low
  /-- The next byte is below those that begin more. -/
  high : p.high < 0xc0

theorem inner_of_none : ∀ p, (none : Option Pending) = some p → p.Inner := nofun

theorem inner_begin (halves : Bool) (b : Nat) {p : Pending} (h : (begin halves b).2 = some p) :
    p.Inner := by
  unfold begin at h
  split_ifs at h
  all_goals
    cases h
    constructor <;> simp only [] <;> omega

theorem inner_step (halves : Bool) (pending : Option Pending) (byte : UInt8) {q : Pending}
    (h : (step halves pending byte).2 = some q) : q.Inner := by
  rcases pending with _ | p
  · exact inner_begin halves _ h
  rw [step] at h
  simp only [] at h
  split_ifs at h with hrange hmissing
  · cases h
    constructor <;> simp only [] <;> omega
  · exact inner_begin halves _ h

/-- A byte begins one thing. -/
theorem tally_begin (halves : Bool) (b : Nat) : tally (begin halves b) = 1 := by
  unfold begin
  split_ifs <;> rfl

/-- A byte makes one more character at most. -/
theorem tally_step (halves : Bool) (pending : Option Pending) (byte : UInt8) :
    tally (step halves pending byte) ≤ (flaw pending).length + 1 := by
  have hbegin := tally_begin halves byte.toNat
  rcases pending with _ | p
  · exact Nat.le_of_eq hbegin
  rw [step]
  simp only []
  split_ifs
  · exact Nat.le_succ 1
  · exact Nat.le_succ 1
  · -- What was pending is a flaw of its own, and it was counted before.
    unfold tally at hbegin ⊢
    rw [List.length_cons, Nat.add_right_comm, hbegin]
    exact Nat.le_refl 2

/-! ### Reading a character -/

/-- A byte that begins a character ends what is pending. -/
theorem scan_lead (halves : Bool) {pending : Option Pending} (done : List (Option CodePoint))
    {b : UInt8} (bs : Bytes) (hpending : ∀ p, pending = some p → p.Inner)
    (hb : b.toNat < 0x80 ∨ 0xc0 ≤ b.toNat) :
    scan halves pending done (b :: bs) = scan halves none (flaw pending ++ done) (b :: bs) := by
  rcases pending with _ | p
  · rfl
  rcases hpending p rfl with ⟨hlow, hhigh⟩
  rw [scan, scan, step, step]
  simp only []
  rw [if_neg (by omega), List.reverse_cons, List.append_assoc]
  rfl

/-- A byte in its range continues what is pending. -/
theorem scan_inner (halves : Bool) {p : Pending} (done : List (Option CodePoint)) {n : Nat}
    (bs : Bytes) (hmissing : p.missing ≠ 1) (hn : n < 256) (hlow : p.low ≤ n) (hhigh : n ≤ p.high) :
    scan halves (some p) done (.ofNat n :: bs)
      = scan halves (some ⟨p.missing - 1, 0x80, 0xbf, 64 * p.code + (n - 0x80)⟩) done bs := by
  rw [scan, step]
  simp only [UInt8.toNat_ofNat_of_lt' hn]
  rw [if_pos ⟨hlow, hhigh⟩, if_neg hmissing]
  rfl

/-- The last byte completes what is pending. -/
theorem scan_last (halves : Bool) {p : Pending} (done : List (Option CodePoint)) {n : Nat}
    (hmissing : p.missing = 1) (hn : n < 256) (hlow : p.low ≤ n) (hhigh : n ≤ p.high) :
    scan halves (some p) done [.ofNat n]
      = (some (.ofNat (64 * p.code + (n - 0x80))) :: done, none) := by
  rw [scan, step]
  simp only [UInt8.toNat_ofNat_of_lt' hn]
  rw [if_pos ⟨hlow, hhigh⟩, if_pos hmissing]
  rfl

theorem scan_begin (halves : Bool) (done : List (Option CodePoint)) {n : Nat} (hn : n < 256)
    (bs : Bytes) : scan halves none done (.ofNat n :: bs)
      = scan halves (begin halves n).2 ((begin halves n).1.reverse ++ done) bs := by
  rw [scan, step]
  simp only [UInt8.toNat_ofNat_of_lt' hn]

/-- What the first byte of a character leaves pending: how many bytes are missing, the
    topmost bits, and a range that holds the second byte. -/
structure Pending.Leads (p : Pending) (missing code second : Nat) : Prop where
  missing : p.missing = missing
  code : p.code = code
  low : p.low ≤ second
  high : second ≤ p.high

theorem begin_two {n : Nat} (hlow : 0x80 ≤ n) (hhigh : n < 0x800) :
    ∃ p, begin false (n / 64 % 32 + 192) = ([], some p) ∧ p.Leads 1 (n / 64) (n % 64 + 128) := by
  unfold begin
  rw [if_neg (by omega), if_neg (by omega), if_pos (by omega)]
  exact ⟨_, rfl, rfl, by simp only []; omega, by simp only []; omega, by simp only []; omega⟩

theorem begin_three {n : Nat} (hlow : 0x800 ≤ n) (hhigh : n < 0x10000)
    (hhalf : n < 0xd800 ∨ 0xdfff < n) : ∃ p, begin false (n / 4096 % 16 + 224) = ([], some p) ∧
      p.Leads 2 (n / 4096) (n / 64 % 64 + 128) := by
  unfold begin
  simp only [Bool.not_false, Bool.and_true, decide_eq_true_eq]
  rw [if_neg (by omega), if_neg (by omega), if_neg (by omega)]
  -- The range is narrower if the topmost bits are zero, and before the halves.
  split_ifs
  all_goals first
    | omega
    | exact ⟨_, rfl, rfl, by simp only []; omega, by simp only []; omega, by simp only []; omega⟩

theorem begin_four {n : Nat} (hlow : 0x10000 ≤ n) (hhigh : n < 0x110000) :
    ∃ p, begin false (n / 262144 % 8 + 240) = ([], some p) ∧
      p.Leads 3 (n / 262144) (n / 4096 % 64 + 128) := by
  unfold begin
  simp only [Bool.not_false, Bool.and_true, decide_eq_true_eq]
  rw [if_neg (by omega), if_neg (by omega), if_neg (by omega), if_neg (by omega),
    if_neg (by omega), if_neg (by omega)]
  -- The range is narrower if the topmost bits are zero, and for the last characters.
  split_ifs
  all_goals first
    | omega
    | exact ⟨_, rfl, rfl, by simp only []; omega, by simp only []; omega, by simp only []; omega⟩

/-- The bytes of a character are read as it if nothing is pending. -/
theorem scan_utf8EncodeChar (c : Char) (done : List (Option CodePoint)) :
    scan false none done (String.utf8EncodeChar c) = (some (.char c) :: done, none) := by
  have hvalid : c.toNat < 0xd800 ∨ 0xdfff < c.toNat ∧ c.toNat < 0x110000 := c.valid
  have hcode (n : Nat) (hn : n = c.toNat) : (some (CodePoint.ofNat n) :: done, none)
      = (some (.char c) :: done, (none : Option Pending)) := by
    rw [hn, ← CodePoint.ofNat_code (.char c)]
    rfl
  rw [String.utf8EncodeChar, show c.val.toNat = c.toNat from rfl]
  by_cases hone : c.toNat ≤ 0x7f
  · rw [if_pos hone, scan_begin false done (by omega), begin, if_pos (by omega)]
    exact hcode _ rfl
  rw [if_neg hone]
  by_cases htwo : c.toNat ≤ 0x7ff
  · obtain ⟨p, hp, hmissing, hpcode, hlow, hhigh⟩ := begin_two (n := c.toNat) (by omega) (by omega)
    rw [if_pos htwo, scan_begin false done (by omega), hp]
    rw [scan_last false _ hmissing (by omega) hlow hhigh]
    exact hcode _ (by omega)
  rw [if_neg htwo]
  by_cases hthree : c.toNat ≤ 0xffff
  · obtain ⟨p, hp, hmissing, hpcode, hlow, hhigh⟩ :=
      begin_three (n := c.toNat) (by omega) (by omega) (by omega)
    rw [if_pos hthree, scan_begin false done (by omega), hp]
    rw [scan_inner false _ _ (by omega) (by omega) hlow hhigh,
      scan_last false _ (by simp only []; omega) (by omega) (by simp only []; omega)
        (by simp only []; omega)]
    exact hcode _ (by simp only []; omega)
  · obtain ⟨p, hp, hmissing, hpcode, hlow, hhigh⟩ :=
      begin_four (n := c.toNat) (by omega) (by omega)
    rw [if_neg hthree, scan_begin false done (by omega), hp]
    rw [scan_inner false _ _ (by omega) (by omega) hlow hhigh,
      scan_inner false _ _ (by simp only []; omega) (by omega) (by simp only []; omega)
        (by simp only []; omega),
      scan_last false _ (by simp only []; omega) (by omega) (by simp only []; omega)
        (by simp only []; omega)]
    exact hcode _ (by simp only []; omega)

/-- The first byte of a character continues nothing. -/
theorem exists_lead (c : Char) : ∃ b bs, String.utf8EncodeChar c = b :: bs ∧
    (b.toNat < 0x80 ∨ 0xc0 ≤ b.toNat) := by
  have htoNat (n : Nat) (hn : n < 256) : (UInt8.ofNat n).toNat = n := UInt8.toNat_ofNat_of_lt' hn
  unfold String.utf8EncodeChar
  simp only []
  split_ifs
  all_goals
    refine ⟨_, _, rfl, ?_⟩
    rw [htoNat _ (by omega)]
    omega

/-- The bytes of a character are read as it, and end what was pending. -/
theorem scan_encode (c : Char) {pending : Option Pending} (done : List (Option CodePoint))
    (hpending : ∀ p, pending = some p → p.Inner) :
    scan false pending done (encode c.toString)
      = (some (.char c) :: (flaw pending ++ done), none) := by
  rcases exists_lead c with ⟨b, bs, hbytes, hb⟩
  rw [encode_toString, hbytes, scan_lead false done bs hpending hb, ← hbytes,
    scan_utf8EncodeChar]

theorem length_decode (bs : Bytes) : (decode bs).length = tally (scan false none [] bs) := by
  rw [decode, decodeFrom, tally]
  simp only []
  rw [List.length_append, List.length_map, List.length_reverse]
  cases (scan false none [] bs).2 <;> rfl

end Utf8

end Beacon
