import Beacon.Proofs.Report.Breakdown
import Beacon.Proofs.Ssz.Printable
import Beacon.Proofs.Text.LineFeed
import Mathlib.Data.List.Flatten
import Mathlib.Data.List.TakeWhile

/-!
# The Lines of a Report

A report has an item to a line, and what the item is about is said at the start of the
line, in words that do not depend on the block.

All that a block says in a report is written in digits, except for the free text of its
proposer, which is shown as it is. So a report has the lines that it should have unless
there is a line feed among the bytes of the free text, and each line feed there makes
one line more. What comes in such a line is up to the proposer: it may be empty, or
look like an item of the report.

Every other item is put together from its label and something printable
(`Report.Says`), and the sections of a report are put together from items, so that
`Report.Framed` is carried from the items over the sections to the whole.

## Main definitions

* `Report.labels`: What the items of a report start with.
* `Report.lines`: The lines of a report.
* `Report.Framed`: Labelled items with some number of line feeds in them.
* `Report.Faithful`: A report that is cut into its items.

## Theorems

* `Report.count_graffiti`: The line feeds in free text.
* `Report.framed_items`: The items of a report have their labels, and line feeds only in
  the free text.
* `Report.lines_ofItems`: A report is cut into the lines of its items.
* `Report.text_faithful_iff`: A report is cut into its items exactly if there is no line
  feed among the bytes of the free text.
-/

namespace Beacon

open Ascii

namespace Report

/-! ### Labels -/

/-- The free text of a signed block of a fork, in bytes. -/
def freeText (fork : Fork) (signed : Value) : Bytes :=
  (((Typed.mk fork.signedBlock signed).part ["message"]).part ["body"]).content ["graffiti"]

/-- The labels of items that are named. -/
def named (names : List String) : List String := names.map (· ++ ": ")

/-- The labels of some number of items that only give details. -/
def indented (n : Nat) : List String := List.replicate n "  "

/-- The labels on every block. -/
def phase0Labels (body : Typed) (verbose : Bool) : List String :=
  named ["Slot", "Epoch", "Timestamp", "Block root", "Parent root", "State root", "Proposer index"]
  ++ (if (graffiti (body.content ["graffiti"])).isEmpty then [] else named ["Graffiti"])
  ++ inDetail verbose
    (named ["RANDAO reveal", "Eth1 deposit count", "Eth1 deposit root", "Eth1 block hash"])
  ++ named ["Attestations"]
  ++ inDetail verbose (indented (body.items ["attestations"]).length)
  ++ named ["Attester slashings", "Proposer slashings", "Deposits", "Voluntary exits"]
  ++ inDetail verbose (indented (body.items ["voluntary_exits"]).length)

/-- The labels on a vote of the sync committee. -/
def altairLabels (verbose : Bool) : List String :=
  named ["Sync committee participation"] ++ inDetail verbose (named ["Sync committee signature"])

/-- The labels on an execution payload. -/
def bellatrixLabels (verbose : Bool) : List String :=
  named ["Execution block number", "Execution block hash"]
  ++ inDetail verbose (named ["Execution parent hash", "Execution extra data"])
  ++ named ["Execution fee recipient", "Gas used", "Base fee per gas", "Transactions"]

/-- The labels on withdrawals and changes of credentials. -/
def capellaLabels (body : Typed) (verbose : Bool) : List String :=
  named ["Withdrawals"]
  ++ inDetail verbose (indented (body.items ["execution_payload", "withdrawals"]).length)
  ++ named ["BLS to execution changes"]
  ++ inDetail verbose (indented (body.items ["bls_to_execution_changes"]).length)

/-- The labels on blobs. -/
def denebLabels (body : Typed) (sidecars : List Value) (verbose : Bool) : List String :=
  named ["Blob KZG commitments"]
  ++ inDetail verbose (indented (body.items ["blob_kzg_commitments"]).length)
  ++ named ["Blob sidecars"]
  ++ inDetail verbose (indented sidecars.length)
  ++ named ["Blob gas used", "Excess blob gas"]

/-- What the items of a report on a signed block of a fork start with. -/
def labels (fork : Fork) (signed : Value) (sidecars : List Value) (verbose : Bool) :
    List String :=
  let block : Typed := ⟨fork.signedBlock, signed⟩
  let body := block.part ["message", "body"]
  phase0Labels ((block.part ["message"]).part ["body"]) verbose
  ++ since fork .altair (altairLabels verbose)
  ++ since fork .bellatrix (bellatrixLabels verbose)
  ++ since fork .capella (capellaLabels body verbose)
  ++ since fork .deneb (denebLabels body sidecars verbose)
  ++ inDetail verbose (named ["Signature"])

/-! ### What items say -/

/-- A label is followed by something printable. -/
def Says (label item : String) : Prop :=
  ∃ said : String, item = label ++ said ∧ Printable label.toList ∧ Printable said.toList

theorem printable_signed (n : Int) : Printable (Decimal.signed n).toList := by
  cases n with
  | ofNat n => exact Decimal.printable_text n
  | negSucc n =>
      rw [Decimal.signed, String.toList_append, printable_append]
      exact ⟨by decide, Decimal.printable_text _⟩

theorem printable_padded (width n : Nat) : Printable (DateTime.padded width n) := by
  rw [DateTime.padded, printable_append, ← Decimal.toList_text]
  refine ⟨fun c hc => ?_, Decimal.printable_text n⟩
  rw [List.eq_of_mem_replicate hc]
  decide

theorem printable_dateTime (d : DateTime) : Printable d.text.toList := by
  rw [DateTime.text, String.toList_ofList, DateTime.chars]
  simp only [printable_append, printable_cons, printable_padded, and_true, true_and]
  decide

theorem printable_share (bits : List Bool) : Printable (share bits).toList := by
  rw [share, String.toList_append, String.toList_append, printable_append, printable_append]
  exact ⟨⟨Decimal.printable_text _, by decide⟩, Decimal.printable_text _⟩

theorem says_append {label item : String} {more : String} (h : Says label item)
    (hmore : Printable more.toList) : Says label (item ++ more) := by
  obtain ⟨said, rfl, hlabel, hsaid⟩ := h
  refine ⟨said ++ more, String.append_assoc, hlabel, ?_⟩
  rw [String.toList_append, printable_append]
  exact ⟨hsaid, hmore⟩

theorem says_self {label : String} (h : Printable label.toList) : Says label label :=
  ⟨"", String.append_empty.symm, h, by decide⟩

/-- An item that is named says something printable behind its name. -/
theorem says_named (name : String) (h : Printable name.toList) (said : String)
    (hsaid : Printable said.toList) : Says (name ++ ": ") (name ++ ": " ++ said) := by
  refine ⟨said, rfl, ?_, hsaid⟩
  rw [String.toList_append, printable_append]
  exact ⟨h, by decide⟩

theorem says_count (name : String) (h : Printable name.toList) (n : Nat) :
    Says (name ++ ": ") (count name n) := says_named name h _ (Decimal.printable_text n)

theorem says_bytes (name : String) (h : Printable name.toList) (bs : Bytes) :
    Says (name ++ ": ") (bytes name bs) := says_named name h _ (Hex.printable_marked bs)

theorem says_attestation (t : Typed) (i : Nat) : Says "  " (attestation t i) := by
  unfold attestation
  repeat' apply says_append
  exacts [says_self (by decide), Decimal.printable_text _, by decide, Decimal.printable_text _,
    by decide, Decimal.printable_text _, by decide, printable_share _, by decide,
    Hex.printable_marked _]

theorem says_voluntaryExit (t : Typed) : Says "  " (voluntaryExit t) := by
  have hlabel : "  Validator " = "  " ++ "Validator " := rfl
  unfold voluntaryExit
  rw [hlabel]
  repeat' apply says_append
  exacts [says_self (by decide), by decide, Decimal.printable_text _, by decide,
    Decimal.printable_text _]

theorem says_withdrawal (t : Typed) : Says "  " (withdrawal t) := by
  unfold withdrawal
  repeat' apply says_append
  exacts [says_self (by decide), Decimal.printable_text _, by decide, Decimal.printable_text _,
    by decide, Hex.printable_marked _, by decide, Decimal.printable_text _, by decide]

theorem says_credentialChange (t : Typed) : Says "  " (credentialChange t) := by
  have hlabel : "  Validator " = "  " ++ "Validator " := rfl
  unfold credentialChange
  rw [hlabel]
  repeat' apply says_append
  exacts [says_self (by decide), by decide, Decimal.printable_text _, by decide,
    Hex.printable_marked _]

theorem says_commitment (t : Typed) (i : Nat) : Says "  " (commitment t i) := by
  unfold commitment
  repeat' apply says_append
  exacts [says_self (by decide), Decimal.printable_text _, by decide, Hex.printable_marked _]

theorem says_sidecar (t : Typed) : Says "  " (sidecar t) := by
  unfold sidecar
  repeat' apply says_append
  exacts [says_self (by decide), Decimal.printable_text _, by decide, Hex.printable_marked _]

/-! ### Items with labels -/

/-- Items that start with their labels, and that have some number of line feeds in them. -/
structure Framed (feeds : Nat) (labels items : List String) : Prop where
  /-- Each item starts with its label. -/
  labelled : List.Forall₂ (fun label item => label.toList <+: item.toList) labels items
  /-- The line feeds are so many. -/
  feeds_eq : (items.map fun item => item.toList.count '\n').sum = feeds

theorem framed_nil : Framed 0 [] [] := ⟨.nil, rfl⟩

/-- An item that says something printable has no line feed. -/
theorem framed_cons {label item : String} {labels items : List String} {feeds : Nat}
    (h : Says label item) (hitems : Framed feeds labels items) :
    Framed feeds (label :: labels) (item :: items) := by
  obtain ⟨said, rfl, hlabel, hsaid⟩ := h
  have hcount : (label ++ said).toList.count '\n' = 0 := by
    rw [List.count_eq_zero, String.toList_append]
    exact newline_not_mem (printable_append.mpr ⟨hlabel, hsaid⟩)
  refine ⟨.cons ?_ hitems.labelled, ?_⟩
  · rw [String.toList_append]
    exact List.prefix_append _ _
  · rw [List.map_cons, List.sum_cons, hcount, hitems.feeds_eq, Nat.zero_add]

theorem framed_append {m n : Nat} {labels items moreLabels more : List String}
    (h : Framed m labels items) (hmore : Framed n moreLabels more) :
    Framed (m + n) (labels ++ moreLabels) (items ++ more) := by
  refine ⟨List.rel_append h.labelled hmore.labelled, ?_⟩
  rw [List.map_append, List.sum_append_nat, h.feeds_eq, hmore.feeds_eq]

theorem framed_more {n : Nat} {labels items moreLabels more : List String}
    (h : Framed n labels items) (hmore : Framed 0 moreLabels more) :
    Framed n (labels ++ moreLabels) (items ++ more) := framed_append h hmore

theorem framed_inDetail (verbose : Bool) {labels items : List String} (h : Framed 0 labels items) :
    Framed 0 (inDetail verbose labels) (inDetail verbose items) := by
  cases verbose with
  | false => exact framed_nil
  | true => exact h

theorem framed_since (fork first : Fork) {labels items : List String} (h : Framed 0 labels items) :
    Framed 0 (since fork first labels) (since fork first items) := by
  unfold since
  split
  · exact h
  · exact framed_nil

/-- Items in detail, one for each of some things. -/
theorem framed_indented {α : Type} (item : α → String) (h : ∀ a, Says "  " (item a)) (xs : List α) :
    Framed 0 (indented xs.length) (xs.map item) := by
  induction xs with
  | nil => exact framed_nil
  | cons x xs ih => exact framed_cons (h x) ih

/-- The free text of a block has as many line feeds as there are among its bytes. -/
theorem count_graffiti (bs : Bytes) : (graffiti bs).toList.count '\n' = bs.count 10 := by
  rw [graffiti, String.toList_ofList, Utf8.count_decode, List.count_reverse]
  -- The bytes that are left out are zeros.
  have hzeros : (bs.reverse.takeWhile (· = 0)).count 10 = 0 := by
    rw [List.count_eq_zero]
    intro hmem
    have hzero := List.mem_takeWhile_imp hmem
    exact absurd (of_decide_eq_true hzero) (by decide)
  have hparts := congrArg (List.count 10)
    (List.takeWhile_append_dropWhile (p := (· = 0)) (l := bs.reverse))
  rw [List.count_append, hzeros, Nat.zero_add, List.count_reverse] at hparts
  exact hparts

theorem framed_graffiti (bs : Bytes) :
    Framed (bs.count 10) (if (graffiti bs).isEmpty then [] else named ["Graffiti"])
      (if (graffiti bs).isEmpty then [] else ["Graffiti: " ++ graffiti bs]) := by
  rw [← count_graffiti]
  split
  · rename_i hempty
    rw [String.isEmpty_iff.mp hempty]
    exact framed_nil
  · refine ⟨.cons ?_ .nil, ?_⟩
    · change "Graffiti: ".toList <+: _
      rw [String.toList_append]
      exact List.prefix_append _ _
    · rw [List.map_singleton, List.sum_singleton, String.toList_append, List.count_append]
      exact Nat.zero_add _

theorem framed_phase0 (facts : Facts) (message : Typed) (verbose : Bool) :
    Framed (((message.part ["body"]).content ["graffiti"]).count 10)
      (phase0Labels (message.part ["body"]) verbose) (phase0Items facts message verbose) := by
  rw [← Nat.zero_add (List.count _ _)]
  unfold phase0Labels phase0Items
  refine framed_more (framed_more (framed_more (framed_more (framed_more
    (framed_append ?opening (framed_graffiti _))
    (framed_inDetail verbose ?sealed)) ?attestations) (framed_inDetail verbose ?votes)) ?operations)
    (framed_inDetail verbose (framed_indented _ says_voluntaryExit _))
  case opening =>
    repeat' apply framed_cons
    exacts [says_count _ (by decide) _, says_named "Epoch" (by decide) _ (printable_signed _),
      says_named "Timestamp" (by decide) _ (printable_dateTime _), says_bytes _ (by decide) _,
      says_bytes _ (by decide) _, says_bytes _ (by decide) _, says_count _ (by decide) _,
      framed_nil]
  case sealed =>
    repeat' apply framed_cons
    exacts [says_bytes _ (by decide) _, says_count _ (by decide) _, says_bytes _ (by decide) _,
      says_bytes _ (by decide) _, framed_nil]
  case attestations => exact framed_cons (says_count _ (by decide) _) framed_nil
  case votes =>
    rw [← List.length_zipIdx]
    exact framed_indented _ (fun (t, i) => says_attestation t i) _
  case operations =>
    repeat' apply framed_cons
    exacts [says_count _ (by decide) _, says_count _ (by decide) _, says_count _ (by decide) _,
      says_count _ (by decide) _, framed_nil]

theorem framed_altair (body : Typed) (verbose : Bool) :
    Framed 0 (altairLabels verbose) (altairItems body verbose) := by
  refine framed_more (framed_cons ?_ framed_nil)
    (framed_inDetail verbose (framed_cons (says_bytes _ (by decide) _) framed_nil))
  exact says_named "Sync committee participation" (by decide) _ (printable_share _)

theorem framed_bellatrix (body : Typed) (verbose : Bool) :
    Framed 0 (bellatrixLabels verbose) (bellatrixItems body verbose) := by
  unfold bellatrixLabels bellatrixItems
  refine framed_more (framed_more ?opening (framed_inDetail verbose ?parents)) ?fees
  case opening =>
    exact framed_cons (says_count _ (by decide) _)
      (framed_cons (says_bytes _ (by decide) _) framed_nil)
  case parents =>
    exact framed_cons (says_bytes _ (by decide) _)
      (framed_cons (says_bytes _ (by decide) _) framed_nil)
  case fees =>
    have hgas (used limit : Nat) :
        Says ("Gas used" ++ ": ") (count "Gas used" used ++ " / " ++ Decimal.text limit) :=
      says_append (says_append (says_count _ (by decide) _) (by decide)) (Decimal.printable_text _)
    repeat' apply framed_cons
    exacts [says_bytes _ (by decide) _, hgas _ _, says_count _ (by decide) _,
      says_count _ (by decide) _, framed_nil]

theorem framed_capella (body : Typed) (verbose : Bool) :
    Framed 0 (capellaLabels body verbose) (capellaItems body verbose) := by
  unfold capellaLabels capellaItems
  refine framed_more (framed_more (framed_more ?withdrawals
    (framed_inDetail verbose (framed_indented _ says_withdrawal _))) ?changes)
    (framed_inDetail verbose (framed_indented _ says_credentialChange _))
  all_goals exact framed_cons (says_count _ (by decide) _) framed_nil

theorem framed_deneb (body : Typed) (sidecars : List Value) (verbose : Bool) :
    Framed 0 (denebLabels body sidecars verbose) (denebItems body sidecars verbose) := by
  unfold denebLabels denebItems
  refine framed_more (framed_more (framed_more (framed_more ?commitments
    (framed_inDetail verbose ?each)) ?sidecars)
    (framed_inDetail verbose (framed_indented _ (fun v => says_sidecar ⟨_, v⟩) _))) ?gas
  case each =>
    rw [← List.length_zipIdx]
    exact framed_indented _ (fun (t, i) => says_commitment t i) _
  case gas =>
    exact framed_cons (says_count _ (by decide) _)
      (framed_cons (says_count _ (by decide) _) framed_nil)
  all_goals exact framed_cons (says_count _ (by decide) _) framed_nil

/-- The items of a report have their labels, and line feeds only in the free text. -/
theorem framed_items (facts : Facts) (fork : Fork) (signed : Value) (sidecars : List Value)
    (verbose : Bool) :
    Framed ((freeText fork signed).count 10) (labels fork signed sidecars verbose)
      (items facts fork signed sidecars verbose) := by
  unfold labels items
  exact framed_more (framed_more (framed_more (framed_more (framed_more (framed_phase0 _ _ _)
    (framed_since _ _ (framed_altair _ _))) (framed_since _ _ (framed_bellatrix _ _)))
    (framed_since _ _ (framed_capella _ _))) (framed_since _ _ (framed_deneb _ _ _)))
    (framed_inDetail _ (framed_cons (says_bytes _ (by decide) _) framed_nil))

/-! ### Cutting at line feeds -/

/-- The lines of a report. What stands behind its last line feed is none. -/
def lines (report : String) : List (List Char) := (report.toList.splitOn '\n').dropLast

theorem length_splitOn (cs : List Char) : (cs.splitOn '\n').length = cs.count '\n' + 1 := by
  induction cs with
  | nil => rfl
  | cons c cs ih =>
      rw [List.splitOn_cons_eq_if_modifyHead, List.count_cons]
      split
      · rw [List.length_cons, ih]
      · rw [List.length_modifyHead, ih, Nat.add_zero]

/-- A report is cut where its items are, and within them. -/
theorem splitOn_ofItems (items : List String) (h : items ≠ []) :
    (ofItems items).toList.splitOn '\n'
      = items.flatMap (fun item => item.toList.splitOn '\n') ++ [[]] := by
  have hbreak : "\n".toList = ['\n'] := rfl
  unfold ofItems
  induction items with
  | nil => exact absurd rfl h
  | cons item rest ih =>
      cases rest with
      | nil =>
          rw [String.intercalate_singleton, String.toList_append, hbreak,
            List.splitOn_append_cons_self, List.flatMap_singleton]
          rfl
      | cons next rest =>
          have hrest := ih (List.cons_ne_nil next rest)
          rw [String.toList_append] at hrest
          rw [String.intercalate_cons_cons, String.toList_append, String.toList_append,
            String.toList_append, hbreak, List.append_assoc, List.append_assoc,
            List.singleton_append, List.splitOn_append_cons_self, ← hbreak, hrest,
            ← List.append_assoc]
          rfl

theorem lines_ofItems (items : List String) (h : items ≠ []) :
    lines (ofItems items) = items.flatMap fun item => item.toList.splitOn '\n' := by
  rw [lines, splitOn_ofItems items h, List.dropLast_concat]

/-- Each line feed in the items makes one line more. -/
theorem length_lines (items : List String) (h : items ≠ []) :
    (lines (ofItems items)).length
      = items.length + (items.map fun item => item.toList.count '\n').sum := by
  rw [lines_ofItems items h]
  clear h
  induction items with
  | nil => rfl
  | cons item items ih =>
      rw [List.flatMap_cons, List.length_append, length_splitOn, ih, List.map_cons, List.sum_cons,
        List.length_cons]
      omega

theorem lines_eq_map (items : List String) (h : items ≠ [])
    (hfeeds : ∀ item ∈ items, '\n' ∉ item.toList) :
    lines (ofItems items) = items.map String.toList := by
  rw [lines_ofItems items h]
  clear h
  induction items with
  | nil => rfl
  | cons item items ih =>
      rw [List.forall_mem_cons] at hfeeds
      rw [List.flatMap_cons, List.splitOn_eq_singleton hfeeds.1, ih hfeeds.2]
      rfl

/-! ### The line of the root -/

/-- The label of the root of a block. -/
def rootLabel : List Char := "Block root: ".toList

/-- What starts with one of these labels does not start with the label of the root. -/
def Apart (labels : List String) : Prop :=
  ∀ label ∈ labels, ¬ rootLabel <+: label.toList ∧ ¬ label.toList <+: rootLabel

instance (labels : List String) : Decidable (Apart labels) := List.decidableBAll _ labels

theorem apart_append {labels more : List String} (h : Apart labels) (hmore : Apart more) :
    Apart (labels ++ more) := List.forall_mem_append.mpr ⟨h, hmore⟩

theorem apart_inDetail (verbose : Bool) {labels : List String} (h : Apart labels) :
    Apart (inDetail verbose labels) := by
  cases verbose with
  | false => exact List.forall_mem_nil _
  | true => exact h

theorem apart_since (fork first : Fork) {labels : List String} (h : Apart labels) :
    Apart (since fork first labels) := by
  unfold since
  split
  · exact h
  · exact List.forall_mem_nil _

theorem apart_indented (verbose : Bool) (n : Nat) : Apart (inDetail verbose (indented n)) := by
  refine apart_inDetail verbose fun label hlabel => ?_
  rw [List.eq_of_mem_replicate hlabel]
  decide

theorem apart_altair (verbose : Bool) : Apart (altairLabels verbose) :=
  apart_append (by decide) (apart_inDetail verbose (by decide))

theorem apart_bellatrix (verbose : Bool) : Apart (bellatrixLabels verbose) :=
  apart_append (apart_append (by decide) (apart_inDetail verbose (by decide))) (by decide)

theorem apart_capella (body : Typed) (verbose : Bool) : Apart (capellaLabels body verbose) :=
  apart_append (apart_append (apart_append (by decide) (apart_indented _ _)) (by decide))
    (apart_indented _ _)

theorem apart_deneb (body : Typed) (sidecars : List Value) (verbose : Bool) :
    Apart (denebLabels body sidecars verbose) :=
  apart_append (apart_append (apart_append (apart_append (by decide) (apart_indented _ _))
    (by decide)) (apart_indented _ _)) (by decide)

theorem apart_phase0 (body : Typed) (verbose : Bool) :
    Apart ((phase0Labels body verbose).drop 4) := by
  have hgraffiti (bs : Bytes) :
      Apart (if (graffiti bs).isEmpty then [] else named ["Graffiti"]) := by
    split <;> decide
  have hopening : Apart (named ["Parent root", "State root", "Proposer index"]) := by decide
  exact apart_append (apart_append (apart_append (apart_append (apart_append
    (apart_append hopening (hgraffiti _)) (apart_inDetail _ (by decide))) (by decide))
    (apart_indented _ _)) (by decide)) (apart_indented _ _)

/-- The fourth label is that of the root, and no other is like it. -/
theorem labels_eq (fork : Fork) (signed : Value) (sidecars : List Value) (verbose : Bool) :
    ∃ rest, labels fork signed sidecars verbose
        = named ["Slot", "Epoch", "Timestamp"] ++ "Block root: " :: rest ∧ Apart rest :=
  ⟨_, rfl, apart_append (apart_append (apart_append (apart_append (apart_append
    (apart_phase0 _ verbose) (apart_since _ _ (apart_altair _)))
    (apart_since _ _ (apart_bellatrix _))) (apart_since _ _ (apart_capella _ _)))
    (apart_since _ _ (apart_deneb _ _ _))) (apart_inDetail _ (by decide))⟩

theorem isPrefixOf_of_labelled {label item : String}
    (h : ¬ rootLabel <+: label.toList ∧ ¬ label.toList <+: rootLabel)
    (hlabelled : label.toList <+: item.toList) : rootLabel.isPrefixOf item.toList = false := by
  rw [Bool.eq_false_iff, ne_eq, List.isPrefixOf_iff_prefix]
  intro hroot
  rcases List.prefix_or_prefix_of_prefix hroot hlabelled with hlonger | hshorter
  · exact h.1 hlonger
  · exact h.2 hshorter

/-- Items with other labels do not start with the label of the root. -/
theorem countP_of_apart {labels items : List String} (h : Apart labels)
    (hlabelled : List.Forall₂ (fun label item => label.toList <+: item.toList) labels items) :
    (items.map String.toList).countP (rootLabel.isPrefixOf ·) = 0 := by
  induction hlabelled with
  | nil => rfl
  | @cons label item labels items hitem _ ih =>
      obtain ⟨hlabel, hlabels⟩ := List.forall_mem_cons.mp h
      rw [List.map_cons, List.countP_cons, ih hlabels, isPrefixOf_of_labelled hlabel hitem]
      rfl

/-- Items that start with something are not empty. -/
theorem nil_not_mem_of_labelled {labels items : List String}
    (h : ∀ label ∈ labels, label.toList ≠ [])
    (hlabelled : List.Forall₂ (fun label item => label.toList <+: item.toList) labels items) :
    [] ∉ items.map String.toList := by
  induction hlabelled with
  | nil => exact List.not_mem_nil
  | @cons label item labels items hitem _ ih =>
      obtain ⟨hlabel, hlabels⟩ := List.forall_mem_cons.mp h
      rw [List.map_cons, List.mem_cons, not_or]
      refine ⟨fun hempty => hlabel ?_, ih hlabels⟩
      rwa [← hempty, List.prefix_nil] at hitem

/-- No item of a report is empty, and one starts with the label of the root. -/
theorem items_filled_rooted (facts : Facts) (fork : Fork) (signed : Value) (sidecars : List Value)
    (verbose : Bool) :
    [] ∉ (items facts fork signed sidecars verbose).map String.toList ∧
      ((items facts fork signed sidecars verbose).map String.toList).countP
        (rootLabel.isPrefixOf ·) = 1 := by
  obtain ⟨rest, hlabels, hrest⟩ := labels_eq fork signed sidecars verbose
  have hlabelled := (framed_items facts fork signed sidecars verbose).labelled
  rw [hlabels] at hlabelled
  generalize items facts fork signed sidecars verbose = items at hlabelled ⊢
  have hthree : Apart (named ["Slot", "Epoch", "Timestamp"]) := by decide
  constructor
  · refine nil_not_mem_of_labelled ?_ hlabelled
    -- Nothing at all is like every label.
    have hfilled {labels : List String} (h : Apart labels) : ∀ label ∈ labels, label.toList ≠ [] :=
      fun label hlabel hempty => (h label hlabel).2 (hempty ▸ List.nil_prefix)
    rw [List.forall_mem_append, List.forall_mem_cons]
    exact ⟨hfilled hthree, by decide, hfilled hrest⟩
  · have hopening := List.forall₂_take 3 hlabelled
    have hmore := List.forall₂_drop 3 hlabelled
    obtain ⟨root, others, hroot, hothers, hdrop⟩ := List.forall₂_cons_left_iff.mp hmore
    have hstarts : rootLabel.isPrefixOf root.toList = true := List.isPrefixOf_iff_prefix.mpr hroot
    rw [← List.take_append_drop 3 items, hdrop, List.map_append, List.map_cons,
      List.countP_append, List.countP_cons, countP_of_apart hthree hopening,
      countP_of_apart hrest hothers, hstarts]
    rfl

theorem items_ne_nil (facts : Facts) (fork : Fork) (signed : Value) (sidecars : List Value)
    (verbose : Bool) : items facts fork signed sidecars verbose ≠ [] := by
  intro hempty
  have hrooted := (items_filled_rooted facts fork signed sidecars verbose).2
  rw [hempty] at hrooted
  exact absurd hrooted (by decide)

/-! ### Reports -/

/-- A report that is cut into its items. -/
structure Faithful (labels items : List String) (report : String) : Prop where
  /-- There is a line for each item, in order, -/
  lines_eq : lines report = items.map String.toList
  /-- which starts with the label of the item. -/
  labelled : List.Forall₂ (fun label line => label.toList <+: line) labels (lines report)
  /-- No line is empty. -/
  filled : [] ∉ lines report
  /-- One line starts like the root of the block. -/
  rooted : (lines report).countP ("Block root: ".toList.isPrefixOf ·) = 1
  /-- Nothing stands behind the last line. -/
  ended : report.toList.splitOn '\n' = lines report ++ [[]]

theorem text_eq_ok_iff {z : Zone} {timing : Timing} {verbose : Bool} {fork : Fork}
    {signed : Value} {sidecars : List Value} {report : String} :
    text z timing verbose fork signed sidecars = .ok report ↔
      ∃ facts, findOut z timing ((Typed.mk fork.signedBlock signed).part ["message"]) = .ok facts ∧
        ofItems (items facts fork signed sidecars verbose) = report := by
  simp only [text]
  cases findOut z timing ((Typed.mk fork.signedBlock signed).part ["message"]) with
  | error breakdown => simp only [Except.map, reduceCtorEq, false_and, exists_false]
  | ok facts => simp only [Except.map, Except.ok.injEq, exists_eq_left']

/-- A report is cut into its items exactly if there is no line feed among the bytes of the
    free text. In any case each line feed there makes one line more. -/
theorem text_faithful_iff {z : Zone} {timing : Timing} {verbose : Bool} {fork : Fork}
    {signed : Value} {sidecars : List Value} {report : String}
    (h : text z timing verbose fork signed sidecars = .ok report) :
    ∃ facts, findOut z timing ((Typed.mk fork.signedBlock signed).part ["message"]) = .ok facts ∧
      (Faithful (labels fork signed sidecars verbose) (items facts fork signed sidecars verbose)
        report ↔ 10 ∉ freeText fork signed) ∧
      (lines report).length
        = (labels fork signed sidecars verbose).length + (freeText fork signed).count 10 := by
  obtain ⟨facts, hfacts, rfl⟩ := text_eq_ok_iff.mp h
  obtain ⟨hlabelled, hfeeds⟩ := framed_items facts fork signed sidecars verbose
  obtain ⟨hfilled, hrooted⟩ := items_filled_rooted facts fork signed sidecars verbose
  have hne := items_ne_nil facts fork signed sidecars verbose
  refine ⟨facts, hfacts, ?_⟩
  generalize items facts fork signed sidecars verbose = items
    at hlabelled hfeeds hfilled hrooted hne ⊢
  have hlength := length_lines items hne
  rw [hfeeds] at hlength
  refine ⟨⟨fun hfaithful => ?_, fun hfree => ?_⟩, ?_⟩
  · rw [hfaithful.lines_eq, List.length_map] at hlength
    rw [← List.count_eq_zero]
    omega
  · -- No item has a line feed in it, because there is none in all of them.
    have hunbroken : ∀ item ∈ items, '\n' ∉ item.toList := by
      intro item hitem
      rw [← List.count_eq_zero] at hfree ⊢
      rw [hfree, List.sum_eq_zero_iff_forall_eq_nat] at hfeeds
      exact hfeeds _ (List.mem_map_of_mem hitem)
    have hlines := lines_eq_map items hne hunbroken
    refine ⟨hlines, ?_, ?_, ?_, ?_⟩
    · rw [hlines]
      exact List.forall₂_map_right_iff.mpr hlabelled
    · rwa [hlines]
    · rw [hlines]
      exact hrooted
    · rw [lines_ofItems items hne]
      exact splitOn_ofItems items hne
  · rw [hlength, hlabelled.length_eq]

/-- The root of a block stands before the free text, if that is shown. -/
theorem sublist_items (facts : Facts) (fork : Fork) (signed : Value) (sidecars : List Value)
    (verbose : Bool) (h : (graffiti (freeText fork signed)).isEmpty = false) :
    [bytes "Block root" facts.root, "Graffiti: " ++ graffiti (freeText fork signed)].Sublist
      (items facts fork signed sidecars verbose) := by
  rw [freeText] at h ⊢
  simp only [items, phase0Items, h, Bool.false_eq_true, if_false, List.cons_append,
    List.nil_append]
  exact .cons _ (.cons _ (.cons _ (.cons_cons _ (.cons _ (.cons _ (.cons _ (.cons_cons _
    (List.nil_sublist _))))))))

/-- A signed block of the first fork with free text and nothing else. -/
def inscribed (bs : Bytes) : Value :=
  let root := Value.bytes (Bytes.zeros 32)
  let signature := Value.bytes (Bytes.zeros 96)
  let body := Value.row [signature, .row [root, .uint 0, root], .bytes bs, .row [], .row [],
    .row [], .row [], .row []]
  .row [.row [.uint 0, .uint 0, root, root, body], signature]

/-- There is a report on a block with free text, at a slot that has a time. -/
theorem text_inscribed (bs : Bytes) (h : bs.length = 32) :
    Fork.phase0.signedBlock.Admits (inscribed bs) ∧ ∃ facts,
      text .universal ⟨0, 12, 32, by decide, by decide⟩ false .phase0 (inscribed bs) []
        = .ok (ofItems (items facts .phase0 (inscribed bs) [] false)) := by
  have hroot : Schema.bytes32.Admits (.bytes (Bytes.zeros 32)) := Bytes.length_zeros 32
  have hfree : Schema.bytes32.Admits (.bytes bs) := h
  have hsignature : Schema.bytes96.Admits (.bytes (Bytes.zeros 96)) := Bytes.length_zeros 96
  have hadmits : Fork.phase0.signedBlock.Admits (inscribed bs) :=
    ⟨⟨by decide, by decide, hroot, hroot,
      ⟨hsignature, ⟨hroot, by decide, hroot, trivial⟩, hfree, by decide, by decide, by decide,
        by decide, by decide, trivial⟩, trivial⟩, hsignature, trivial⟩
  obtain ⟨message, hmessage, hpart, hslot⟩ := Block.message_eq .phase0 (inscribed bs) hadmits
  have hstart : Timing.localStart ⟨0, 12, 32, by decide, by decide⟩ .universal 0
      = .ok (.ofSeconds 0) := by decide
  obtain ⟨facts, hfacts⟩ := findOut_ok .universal _ .phase0 message (.ofSeconds 0) hmessage
    (by rw [hslot]; exact hstart)
  exact ⟨hadmits, facts, text_eq_ok_iff.mpr ⟨facts, hpart ▸ hfacts, rfl⟩⟩

/-- A block whose proposer greets: the report has thirteen lines, an item in each. -/
theorem text_faithful_iff_greeting :
    let bs : Bytes := [104, 105] ++ Bytes.zeros 30
    Fork.phase0.signedBlock.Admits (inscribed bs) ∧ ∃ facts report,
      text .universal ⟨0, 12, 32, by decide, by decide⟩ false .phase0 (inscribed bs) []
        = .ok report ∧
      Faithful (labels .phase0 (inscribed bs) [] false)
        (items facts .phase0 (inscribed bs) [] false) report ∧
      (lines report).length = 13 := by
  intro bs
  have hfree : 10 ∉ freeText .phase0 (inscribed bs) := by decide
  have hcount : (labels .phase0 (inscribed bs) [] false).length
      + (freeText .phase0 (inscribed bs)).count 10 = 13 := by decide
  obtain ⟨hadmits, _, htext⟩ := text_inscribed bs rfl
  obtain ⟨facts, -, hfaithful, hlength⟩ := text_faithful_iff htext
  rw [hcount] at hlength
  exact ⟨hadmits, facts, _, htext, hfaithful.mpr hfree, hlength⟩

/-- A block whose proposer writes an empty line and a root of a block. -/
theorem text_forges_root :
    let bs : Bytes := "\n\nBlock root: 0x00".toList.map (fun c => .ofNat c.toNat) ++ Bytes.zeros 14
    Fork.phase0.signedBlock.Admits (inscribed bs) ∧ ∃ facts report,
      text .universal ⟨0, 12, 32, by decide, by decide⟩ false .phase0 (inscribed bs) []
        = .ok report ∧
      (items facts .phase0 (inscribed bs) [] false).length = 13 ∧ (lines report).length = 15 ∧
      [] ∈ lines report ∧ 2 ≤ (lines report).countP ("Block root: ".toList.isPrefixOf ·) := by
  intro bs
  have hcount : (labels .phase0 (inscribed bs) [] false).length = 13 ∧
      (freeText .phase0 (inscribed bs)).count 10 = 2 := by decide
  obtain ⟨hadmits, facts, htext⟩ := text_inscribed bs rfl
  obtain ⟨-, -, -, hlength⟩ := text_faithful_iff htext
  rw [hcount.1, hcount.2] at hlength
  have hitems := (framed_items facts .phase0 (inscribed bs) [] false).labelled.length_eq
  rw [hcount.1] at hitems
  -- The free text makes three lines, the second empty and the third like a root.
  have hshown : (graffiti bs).isEmpty = false := by decide
  have hfree : ("Graffiti: " ++ graffiti bs).toList.splitOn '\n'
      = ["Graffiti: ".toList, [], "Block root: 0x00".toList] := by decide
  have hroot : (bytes "Block root" facts.root).toList
      = rootLabel ++ (Hex.marked facts.root).toList := String.toList_append
  have hunbroken : '\n' ∉ (bytes "Block root" facts.root).toList := by
    rw [hroot]
    exact newline_not_mem (printable_append.mpr ⟨by decide, Hex.printable_marked _⟩)
  have hne := items_ne_nil facts .phase0 (inscribed bs) [] false
  have hlines := (sublist_items facts .phase0 (inscribed bs) [] false hshown).flatMap
    fun item => item.toList.splitOn '\n'
  rw [← lines_ofItems _ hne, List.flatMap_cons, List.flatMap_singleton,
    List.splitOn_eq_singleton hunbroken] at hlines
  change ([_] ++ ("Graffiti: " ++ graffiti bs).toList.splitOn '\n').Sublist _ at hlines
  rw [hfree, hroot] at hlines
  have hforged : ["Graffiti: ".toList, [], "Block root: 0x00".toList].countP
      (rootLabel.isPrefixOf ·) = 1 := by decide
  have hroots : ([rootLabel ++ (Hex.marked facts.root).toList]
      ++ ["Graffiti: ".toList, [], "Block root: 0x00".toList]).countP (rootLabel.isPrefixOf ·)
        = 2 := by
    rw [List.countP_append, hforged, List.countP_singleton,
      List.isPrefixOf_iff_prefix.mpr (List.prefix_append _ _)]
    rfl
  refine ⟨hadmits, facts, _, htext, hitems.symm, hlength, hlines.subset ?_, ?_⟩
  · exact List.mem_cons_of_mem _ (List.mem_cons_of_mem _ List.mem_cons_self)
  · exact hroots ▸ hlines.countP_le

end Report

end Beacon
