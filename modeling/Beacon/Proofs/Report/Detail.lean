import Beacon.Proofs.Report.Lines
import Beacon.Proofs.Ssz.Blank

/-!
# Reports with Details

A verbose report says everything that a plain one says, in the same order, and more.

Both depend on the same facts, so that one can be written if and only if the other can.
A section of a report is made of items that it always has and of items that only give
details, and how many of these there are depends on the block: some come with the fork,
and others one for each of a list. Two sections of which the second has more items
(`Report.Adds`) make such a section together.

Cutting a report at its line feeds keeps this. The free text of the proposer may be cut
in several lines, but it stands in both reports.

There are reports to say this of: on a signed block of any fork a report can be written
if its slot starts at a time that a clock shows, in detail or not.

## Main definitions

* `Report.Adds`: Some items, and so many more among them.
* `Report.details`: How many items only a verbose report has.
* `Report.detailed`: A block with details of every kind.

## Theorems

* `Report.adds_items`: The items of a verbose report are those of a plain one and the
  details.
* `Report.exists_text_iff`: When a report can be written.
* `Report.text_verbose`: A verbose report can be written if and only if a plain one can,
  and has the lines of that in order and one for each detail.
-/

namespace Beacon

namespace Report

/-- Some items, and so many more among them. -/
structure Adds (n : Nat) (plain verbose : List String) : Prop where
  /-- The items stand among the others in order. -/
  sublist : plain.Sublist verbose
  /-- The others are so many more. -/
  length_eq : verbose.length = plain.length + n

theorem adds_same (items : List String) : Adds 0 items items := ⟨List.Sublist.refl _, rfl⟩

theorem adds_append {m n : Nat} {plain verbose plainMore verboseMore : List String}
    (h : Adds m plain verbose) (hmore : Adds n plainMore verboseMore) :
    Adds (m + n) (plain ++ plainMore) (verbose ++ verboseMore) := by
  refine ⟨h.sublist.append hmore.sublist, ?_⟩
  rw [List.length_append, List.length_append, h.length_eq, hmore.length_eq]
  omega

theorem adds_inDetail (items : List String) :
    Adds items.length (inDetail false items) (inDetail true items) :=
  ⟨List.nil_sublist _, (Nat.zero_add _).symm⟩

theorem adds_since (fork first : Fork) {n : Nat} {plain verbose : List String}
    (h : Adds n plain verbose) :
    Adds (if fork.atLeast first then n else 0) (since fork first plain)
      (since fork first verbose) := by
  unfold since
  split
  · exact h
  · exact adds_same []

theorem adds_congr {m n : Nat} {plain verbose : List String} (h : Adds m plain verbose)
    (hmn : m = n) : Adds n plain verbose := hmn ▸ h

/-! ### Sections -/

/-- The details on every block, without its signature. -/
def phase0Details (body : Typed) : Nat :=
  4 + (body.items ["attestations"]).length + (body.items ["voluntary_exits"]).length

/-- The details on withdrawals and changes of credentials. -/
def capellaDetails (body : Typed) : Nat :=
  (body.items ["execution_payload", "withdrawals"]).length
    + (body.items ["bls_to_execution_changes"]).length

/-- The details on blobs. -/
def denebDetails (body : Typed) (sidecars : List Value) : Nat :=
  (body.items ["blob_kzg_commitments"]).length + sidecars.length

theorem adds_phase0 (facts : Facts) (message : Typed) :
    Adds (phase0Details (message.part ["body"])) (phase0Items facts message false)
      (phase0Items facts message true) := by
  refine adds_congr (adds_append (adds_append (adds_append (adds_append (adds_append (adds_append
    (adds_same _) (adds_same _)) (adds_inDetail _)) (adds_same _)) (adds_inDetail _))
    (adds_same _)) (adds_inDetail _)) ?_
  rw [phase0Details, List.length_map, List.length_map, List.length_zipIdx]
  rfl

theorem adds_altair (body : Typed) : Adds 1 (altairItems body false) (altairItems body true) :=
  adds_congr (adds_append (adds_same _) (adds_inDetail _)) rfl

theorem adds_bellatrix (body : Typed) :
    Adds 2 (bellatrixItems body false) (bellatrixItems body true) :=
  adds_congr (adds_append (adds_append (adds_same _) (adds_inDetail _)) (adds_same _)) rfl

theorem adds_capella (body : Typed) :
    Adds (capellaDetails body) (capellaItems body false) (capellaItems body true) := by
  refine adds_congr (adds_append (adds_append (adds_append (adds_same _) (adds_inDetail _))
    (adds_same _)) (adds_inDetail _)) ?_
  rw [capellaDetails, List.length_map, List.length_map, Nat.zero_add]
  rfl

theorem adds_deneb (body : Typed) (sidecars : List Value) :
    Adds (denebDetails body sidecars) (denebItems body sidecars false)
      (denebItems body sidecars true) := by
  refine adds_congr (adds_append (adds_append (adds_append (adds_append (adds_same _)
    (adds_inDetail _)) (adds_same _)) (adds_inDetail _)) (adds_same _)) ?_
  rw [denebDetails, List.length_map, List.length_map, List.length_zipIdx, Nat.zero_add]
  rfl

/-- How many items only a verbose report on a signed block of a fork has. -/
def details (fork : Fork) (signed : Value) (sidecars : List Value) : Nat :=
  let block : Typed := ⟨fork.signedBlock, signed⟩
  let body := block.part ["message", "body"]
  1 + phase0Details ((block.part ["message"]).part ["body"])
  + (if fork.atLeast .altair then 1 else 0)
  + (if fork.atLeast .bellatrix then 2 else 0)
  + (if fork.atLeast .capella then capellaDetails body else 0)
  + (if fork.atLeast .deneb then denebDetails body sidecars else 0)

/-- The items of a verbose report are those of a plain one and the details. -/
theorem adds_items (facts : Facts) (fork : Fork) (signed : Value) (sidecars : List Value) :
    Adds (details fork signed sidecars) (items facts fork signed sidecars false)
      (items facts fork signed sidecars true) := by
  refine adds_congr (adds_append (adds_append (adds_append (adds_append (adds_append
    (adds_phase0 _ _) (adds_since _ _ (adds_altair _))) (adds_since _ _ (adds_bellatrix _)))
    (adds_since _ _ (adds_capella _))) (adds_since _ _ (adds_deneb _ _))) (adds_inDetail _)) ?_
  rw [details, List.length_singleton]
  omega

/-! ### Reports -/

/-- What a report breaks down on is what cannot be found out, in every mode of detail. -/
theorem text_eq_error_iff {z : Zone} {timing : Timing} {verbose : Bool} {fork : Fork}
    {signed : Value} {sidecars : List Value} {breakdown : Breakdown} :
    text z timing verbose fork signed sidecars = .error breakdown ↔
      findOut z timing ((Typed.mk fork.signedBlock signed).part ["message"])
        = .error breakdown := by
  simp only [text]
  cases findOut z timing ((Typed.mk fork.signedBlock signed).part ["message"]) with
  | error other => simp only [Except.map, Except.error.injEq]
  | ok facts => simp only [Except.map, reduceCtorEq]

/-- A report on a signed block can be written if its slot starts at a time that a clock
    shows, and whether it is verbose makes no difference to that. -/
theorem exists_text_iff {z : Zone} {timing : Timing} {fork : Fork} {signed : Value}
    {sidecars : List Value} (verbose : Bool) (h : fork.signedBlock.Admits signed) :
    (∃ report, text z timing verbose fork signed sidecars = .ok report) ↔
      ∃ start, timing.localStart z ((Typed.mk fork.signedBlock signed).number ["message", "slot"])
        = .ok start := by
  obtain ⟨message, hmessage, hpart, hslot⟩ := Block.message_eq fork signed h
  rw [← hslot]
  cases hstart : timing.localStart z ((Typed.mk fork.block message).number ["slot"]) with
  | ok start =>
      obtain ⟨facts, hfacts⟩ := findOut_ok z timing fork message start hmessage hstart
      exact iff_of_true ⟨_, text_eq_ok_iff.mpr ⟨facts, hpart ▸ hfacts, rfl⟩⟩ ⟨start, rfl⟩
  | error fault =>
      have herror : text z timing verbose fork signed sidecars = .error (.clock fault) :=
        text_eq_error_iff.mpr (hpart ▸ findOut_error z timing _ fault hstart)
      rw [herror]
      exact iff_of_false (by simp only [reduceCtorEq, exists_false, not_false_eq_true])
        (by simp only [reduceCtorEq, exists_false, not_false_eq_true])

/-- A verbose report can be written if and only if a plain one can, and otherwise both
    break down in the same way. On a signed block of the fork both can be written exactly
    if the slot of the block starts at a time that a clock shows. The lines of the plain
    one are among those of the verbose one in order, and there is one more for each
    detail. -/
theorem text_verbose (z : Zone) (timing : Timing) (fork : Fork) (signed : Value)
    (sidecars : List Value) :
    (∀ breakdown, text z timing true fork signed sidecars = .error breakdown ↔
      text z timing false fork signed sidecars = .error breakdown) ∧
    ((∃ report, text z timing true fork signed sidecars = .ok report) ↔
      ∃ report, text z timing false fork signed sidecars = .ok report) ∧
    (fork.signedBlock.Admits signed →
      ((∃ plain verbose, text z timing false fork signed sidecars = .ok plain ∧
        text z timing true fork signed sidecars = .ok verbose) ↔
      ∃ start, timing.localStart z ((Typed.mk fork.signedBlock signed).number ["message", "slot"])
        = .ok start)) ∧
    ∀ plain verbose, text z timing false fork signed sidecars = .ok plain →
      text z timing true fork signed sidecars = .ok verbose →
      (∃ facts, plain = ofItems (items facts fork signed sidecars false) ∧
        verbose = ofItems (items facts fork signed sidecars true) ∧
        (items facts fork signed sidecars false).Sublist (items facts fork signed sidecars true)) ∧
      (lines plain).Sublist (lines verbose) ∧
      (lines verbose).length = (lines plain).length + details fork signed sidecars := by
  have hok (verbose : Bool) : (∃ report, text z timing verbose fork signed sidecars = .ok report) ↔
      ∃ facts, findOut z timing ((Typed.mk fork.signedBlock signed).part ["message"])
        = .ok facts := by
    simp only [text_eq_ok_iff]
    exact ⟨fun ⟨_, facts, hfacts, _⟩ => ⟨facts, hfacts⟩,
      fun ⟨facts, hfacts⟩ => ⟨_, facts, hfacts, rfl⟩⟩
  refine ⟨fun _ => text_eq_error_iff.trans text_eq_error_iff.symm,
    (hok true).trans (hok false).symm, fun hadmits => ?_, fun plain verbose hplain hverbose => ?_⟩
  · constructor
    · rintro ⟨plain, -, hplain, -⟩
      exact (exists_text_iff false hadmits).mp ⟨plain, hplain⟩
    · intro hstart
      obtain ⟨plain, hplain⟩ := (exists_text_iff false hadmits).mpr hstart
      obtain ⟨verbose, hverbose⟩ := (exists_text_iff true hadmits).mpr hstart
      exact ⟨plain, verbose, hplain, hverbose⟩
  obtain ⟨facts, hfacts, rfl⟩ := text_eq_ok_iff.mp hplain
  obtain ⟨others, hothers, rfl⟩ := text_eq_ok_iff.mp hverbose
  obtain rfl := Except.ok.inj (hfacts.symm.trans hothers)
  obtain ⟨hsublist, hlength⟩ := adds_items facts fork signed sidecars
  have hne := items_ne_nil facts fork signed sidecars
  refine ⟨⟨facts, rfl, rfl, hsublist⟩, ?_, ?_⟩
  · rw [lines_ofItems _ (hne false), lines_ofItems _ (hne true)]
    exact hsublist.flatMap _
  · -- The line feeds are those of the free text in both.
    rw [length_lines _ (hne false), length_lines _ (hne true), hlength,
      (framed_items facts fork signed sidecars false).feeds_eq,
      (framed_items facts fork signed sidecars true).feeds_eq]
    omega

/-- A signed block of the last fork that is blank but for one of everything that a verbose
    report gives details of, and two of the exits. -/
def detailed : Value :=
  let payload := Value.row (Schema.blanks Fork.bellatrixPayload.fields
    ++ [.row [Operation.withdrawal.blank], .uint 0, .uint 0])
  let exit := Operation.signedVoluntaryExit.blank
  let body := Value.row [Schema.bytes96.blank, Operation.eth1Data.blank, Schema.bytes32.blank,
    .row [], .row [], .row [Operation.attestation.blank], .row [], .row [exit, exit],
    Operation.syncAggregate.blank, payload, .row [Operation.signedCredentialChange.blank],
    .row [Schema.bytes48.blank]]
  .row [.row [.uint 7, .uint 0, Schema.bytes32.blank, Schema.bytes32.blank, body],
    Schema.bytes96.blank]

/-- The reports on that block and a sidecar: twenty-five lines, and fifteen more in
    detail. -/
theorem text_verbose_detailed :
    let timing : Timing := ⟨0, 12, 32, by decide, by decide⟩
    let sidecars := [Operation.blobSidecar.blank]
    Fork.deneb.signedBlock.Admits detailed ∧ timing.localStart .universal 7 = .ok (.ofSeconds 84) ∧
      ∃ plain verbose, text .universal timing false .deneb detailed sidecars = .ok plain ∧
        text .universal timing true .deneb detailed sidecars = .ok verbose ∧
        (lines plain).Sublist (lines verbose) ∧ (lines plain).length = 25 ∧
        (lines verbose).length = 40 := by
  intro timing sidecars
  have hadmits : Fork.deneb.signedBlock.Admits detailed := by decide +kernel
  have hstart : timing.localStart .universal 7 = .ok (.ofSeconds 84) := by decide
  have hdetails : details .deneb detailed sidecars = 15 := by decide
  have hlabels : (labels .deneb detailed sidecars false).length = 25 ∧
      (freeText .deneb detailed).count 10 = 0 := by decide
  obtain ⟨-, -, hwritten, hlines⟩ := text_verbose .universal timing .deneb detailed sidecars
  obtain ⟨plain, verbose, hplain, hverbose⟩ := (hwritten hadmits).mpr ⟨_, hstart⟩
  obtain ⟨⟨facts, hitems, -, -⟩, hsublist, hlength⟩ := hlines plain verbose hplain hverbose
  obtain ⟨hlabelled, hfeeds⟩ := framed_items facts .deneb detailed sidecars false
  have hcount : (lines plain).length = 25 := by
    rw [hitems, length_lines _ (items_ne_nil _ _ _ _ _), hfeeds, ← hlabelled.length_eq, hlabels.1,
      hlabels.2]
  exact ⟨hadmits, hstart, plain, verbose, hplain, hverbose, hsublist, hcount,
    by rw [hlength, hcount, hdetails]⟩

end Report

end Beacon
