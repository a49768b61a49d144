import Beacon.Proofs.Report.Breakdown
import Beacon.Proofs.Ssz.Blank
import Beacon.Proofs.Ssz.Printable
import Beacon.Proofs.Ssz.RoundTrip

/-!
# Streams of Lines

What is written in JSON or in the binary form can be cut into lines again, and each
line be read back to its block.

A reader of such a stream knows nothing but the line breaks, so it depends on every
block being one line. A line is not empty and has no break inside, because it is
printable, and the break at its end is the only thing that a rendering adds. What is
in the line is the signed block and nothing else: the sidecars that a block holds do
not get into the two forms that are meant for machines.

## Main definitions

* `Mode.Writes`: A block that a mode writes in one line.
* `Mode.readBack`: The block that a line is read to.
* `Renderer.IsLine`: The line of a block.

## Theorems

* `Hex.readDigits_chars`: Bytes are read back from their digits.
* `Renderer.exists_line`: A block has a line.
* `Renderer.splitOn_lines`: Lines are found again between the breaks after them.
* `Renderer.render_stream`: The lines of a stream are those of its blocks.
* `Renderer.map_signed_eq_of_stream_eq`: Different signed blocks have different streams.
-/

namespace Beacon

open Ascii Outcome

namespace Mode

/-- A block of its fork's schema that a mode writes in one line. The binary form is
    offered from the second fork on, and the block has to have an encoding. -/
def Writes (mode : Mode) (b : Block) : Prop :=
  b.fork.signedBlock.Admits b.signed ∧
    match mode with
    | .json => True
    | .ssz => b.fork ≠ .phase0 ∧ ∃ bs, b.fork.signedBlock.encode b.signed = .ok bs
    | .text => False

/-- The block of a fork, without sidecars, that a line is read to. -/
def readBack (mode : Mode) (fork : Fork) (line : String) : Option Block :=
  match mode with
  | .json => (Datum.parse line).toOption.bind fun d => (Block.read fork.name d).toOption
  | .ssz => (Hex.readDigits line.toList).toOption.bind fun bs =>
      (fork.signedBlock.decode bs).toOption.map (Block.ofFork fork)
  | .text => none

end Mode

namespace Hex

/-- Bytes are read back from their digits. -/
theorem readDigits_chars (bs : Bytes) : readDigits (chars bs) = .ok bs := by
  have h := read_marked bs
  rwa [read, marked, String.toList_ofList, unmarked] at h

end Hex

namespace Schema

/-- A signed block does not take up no bytes at all. -/
theorem signedBlock_decode_nil (fork : Fork) (v : Value) : fork.signedBlock.decode [] ≠ .ok v := by
  have hfails : (fork.signedBlock.decode []).isOk = false := by
    cases fork <;> decide
  intro h
  rw [h] at hfails
  exact Bool.noConfusion hfails

end Schema

namespace Renderer

/-- The line of a block in a mode. -/
structure IsLine (r : Renderer) (mode : Mode) (b : Block) (line : String) : Prop where
  /-- The block is rendered to the line and a break. -/
  rendered : r.render b mode = .ok (line ++ "\n")
  /-- There is something in the line. -/
  filled : line ≠ ""
  /-- The line is printable. -/
  printable : Printable line.toList
  /-- The line is read to the block without its sidecars. -/
  readBack : mode.readBack b.fork line = some (Block.ofFork b.fork b.signed)

theorem isLine_json (r : Renderer) (b : Block) (h : b.fork.signedBlock.Admits b.signed) :
    r.IsLine .json b (b.fork.signedBlock.json b.signed) := by
  have htextual := Schema.textual_present b.fork.signedBlock b.signed Datum.maxDepth
    (Schema.signedBlock_readable b.fork) h (Schema.signedBlock_nesting b.fork)
  refine ⟨render_json r b, ?_, Schema.printable_json b.fork b.signed h, ?_⟩
  -- The text of any datum starts with a quote or a bracket.
  · obtain ⟨c, cs, hwrite, -⟩ := Datum.write_eq_cons htextual
    rw [Schema.json, Datum.compact, hwrite, ne_eq, String.ofList_eq_empty_iff]
    exact List.cons_ne_nil c cs
  · have hparse := Datum.parseWithin_compact htextual
    have hvalue := Schema.read_present b.fork.signedBlock b.signed
      (Schema.signedBlock_readable b.fork) h
    rw [← Datum.parse_eq_parseWithin] at hparse
    have hblock : Block.read b.fork.name (b.fork.signedBlock.present b.signed)
        = .ok (Block.ofFork b.fork b.signed) := by
      rw [Block.read, Text.legible_ofString, Fork.ofName?_name]
      simp only [hvalue]
    rw [Mode.readBack, Schema.json, hparse, Except.toOption, Option.bind_some, hblock]
    rfl

theorem isLine_ssz (r : Renderer) (b : Block) (bs : Bytes)
    (h : b.fork.signedBlock.Admits b.signed) (hfork : b.fork ≠ .phase0)
    (hencode : b.fork.signedBlock.encode b.signed = .ok bs) :
    r.IsLine .ssz b (Hex.text bs) := by
  have hdecode := Schema.decode_of_encode b.fork.signedBlock b.signed bs
    (Schema.signedBlock_wellFormed b.fork) (Schema.signedBlock_dense b.fork) h hencode
  have hchars : (Hex.text bs).toList = Hex.chars bs := by
    rw [Hex.text, String.toList_ofList]
  refine ⟨render_ssz_ok r b bs hfork hencode, ?_, ?_, ?_⟩
  -- No digits would be no bytes, and these are no block.
  · intro hempty
    cases bs with
    | nil => exact Schema.signedBlock_decode_nil b.fork b.signed hdecode
    | cons byte rest =>
        rw [hempty] at hchars
        exact absurd hchars (by simp [Hex.chars, Hex.ofByte])
  · rw [hchars]
    exact Hex.printable_chars bs
  · rw [Mode.readBack, hchars, Hex.readDigits_chars, Except.toOption, Option.bind_some, hdecode]
    rfl

/-- A block that is written in one line has a line. -/
theorem exists_line (r : Renderer) (mode : Mode) (b : Block) (h : mode.Writes b) :
    ∃ line, r.IsLine mode b line := by
  obtain ⟨hadmits, hmode⟩ := h
  cases mode with
  | json => exact ⟨_, isLine_json r b hadmits⟩
  | ssz =>
      obtain ⟨hfork, bs, hencode⟩ := hmode
      exact ⟨_, isLine_ssz r b bs hadmits hfork hencode⟩
  | text => exact hmode.elim

/-- Lines are found again between the breaks after them. Nothing follows the last
    break. -/
theorem splitOn_lines (lines : List String) (h : ∀ line ∈ lines, '\n' ∉ line.toList) :
    (String.join (lines.map (· ++ "\n"))).toList.splitOn '\n'
      = lines.map String.toList ++ [[]] := by
  induction lines with
  | nil => rfl
  | cons line lines ih =>
      rw [List.forall_mem_cons] at h
      have hbreak : "\n".toList = ['\n'] := rfl
      rw [List.map_cons, String.join_cons, String.toList_append, String.toList_append, hbreak,
        List.append_assoc, List.singleton_append, List.splitOn_append_cons_self_of_not_mem h.1,
        ih h.2, List.map_cons, List.cons_append]

theorem ascii_of_mem_lines (lines : List String) (h : ∀ line ∈ lines, Printable line.toList) :
    ∀ c ∈ (String.join (lines.map (· ++ "\n"))).toList, c.toNat < 128 ∧ (c = '\n' ∨ 32 ≤ c.toNat) := by
  intro c hc
  rw [String.toList_join, List.mem_flatMap] at hc
  obtain ⟨text, htext, hc⟩ := hc
  obtain ⟨line, hline, rfl⟩ := List.mem_map.mp htext
  rw [String.toList_append, List.mem_append] at hc
  rcases hc with hc | hc
  · obtain ⟨hlow, hhigh⟩ := h line hline c hc
    exact ⟨by omega, .inr hlow⟩
  · have hbreak : c = '\n' := List.mem_singleton.mp hc
    rw [hbreak]
    exact ⟨by decide, .inl rfl⟩

/-- Blocks that are written in one line each have their lines in order. -/
theorem exists_lines (r : Renderer) (mode : Mode) (blocks : List Block)
    (h : ∀ b ∈ blocks, mode.Writes b) :
    ∃ lines, List.Forall₂ (r.IsLine mode) blocks lines ∧
      ∀ line ∈ lines, line ≠ "" ∧ Printable line.toList := by
  induction blocks with
  | nil => exact ⟨[], .nil, fun _ hline => absurd hline List.not_mem_nil⟩
  | cons b blocks ih =>
      rw [List.forall_mem_cons] at h
      obtain ⟨line, hline⟩ := exists_line r mode b h.1
      obtain ⟨lines, hlines, hprintable⟩ := ih h.2
      exact ⟨line :: lines, .cons hline hlines,
        List.forall_mem_cons.mpr ⟨⟨hline.filled, hline.printable⟩, hprintable⟩⟩

theorem mapM_of_isLine {r : Renderer} {mode : Mode} {blocks : List Block} {lines : List String}
    (h : List.Forall₂ (r.IsLine mode) blocks lines) :
    blocks.mapM (r.render · mode) = .ok (lines.map (· ++ "\n")) := by
  rw [mapM_eq_ok_iff, List.forall₂_map_right_iff]
  exact h.imp fun _ _ hline => hline.rendered

/-- Blocks that are written in one line each make a stream of printable lines with a
    break after each. Cut at the breaks, the stream has one line for each block, and
    after the last break nothing. No line is empty, and each is read to its block. -/
theorem render_stream (r : Renderer) (mode : Mode) (blocks : List Block)
    (h : ∀ b ∈ blocks, mode.Writes b) :
    ∃ texts lines : List String, blocks.mapM (r.render · mode) = .ok texts ∧
      texts = lines.map (· ++ "\n") ∧
      (∀ c ∈ (String.join texts).toList, c.toNat < 128 ∧ (c = '\n' ∨ 32 ≤ c.toNat)) ∧
      (String.join texts).toList.splitOn '\n' = lines.map String.toList ++ [[]] ∧
      lines.length = blocks.length ∧
      (∀ line ∈ lines, line ≠ "" ∧ '\n' ∉ line.toList) ∧
      List.Forall₂ (fun b line =>
        mode.readBack b.fork line = some (Block.ofFork b.fork b.signed)) blocks lines := by
  obtain ⟨lines, hlines, hprintable⟩ := exists_lines r mode blocks h
  have hbreaks : ∀ line ∈ lines, '\n' ∉ line.toList := fun line hline =>
    newline_not_mem (hprintable line hline).2
  exact ⟨_, lines, mapM_of_isLine hlines, rfl,
    ascii_of_mem_lines lines fun line hline => (hprintable line hline).2,
    splitOn_lines lines hbreaks, hlines.length_eq.symm,
    fun line hline => ⟨(hprintable line hline).1, hbreaks line hline⟩,
    hlines.imp fun _ _ hline => hline.readBack⟩

/-- Blank blocks of two forks in each of the two forms, the second block with sidecars.
    There are two lines, and no sidecars come back. -/
theorem render_stream_blank :
    let r : Renderer := ⟨.universal, ⟨0, 12, 32, by decide, by decide⟩, true⟩
    let sidecar := Operation.blobSidecar.blank
    let phase0 := Block.phase0 Fork.phase0.signedBlock.blank
    let altair := Block.altair Fork.altair.signedBlock.blank
    let deneb := Block.deneb Fork.deneb.signedBlock.blank [sidecar, sidecar]
    let bare := Block.deneb Fork.deneb.signedBlock.blank []
    (∀ b ∈ [phase0, deneb], Mode.json.Writes b) ∧ (∀ b ∈ [altair, deneb], Mode.ssz.Writes b) ∧
      (∃ line next : String,
        [phase0, deneb].mapM (r.render · .json) = .ok [line ++ "\n", next ++ "\n"] ∧
        (String.join [line ++ "\n", next ++ "\n"]).toList.splitOn '\n'
          = [line.toList, next.toList, []] ∧ line ≠ "" ∧ next ≠ "" ∧
        Mode.json.readBack .phase0 line = some phase0 ∧
        Mode.json.readBack .deneb next = some bare) ∧
      ∃ line next : String,
        [altair, deneb].mapM (r.render · .ssz) = .ok [line ++ "\n", next ++ "\n"] ∧
        (String.join [line ++ "\n", next ++ "\n"]).toList.splitOn '\n'
          = [line.toList, next.toList, []] ∧ line ≠ "" ∧ next ≠ "" ∧
        Mode.ssz.readBack .altair line = some altair ∧
        Mode.ssz.readBack .deneb next = some bare := by
  intro r sidecar phase0 altair deneb bare
  have hblank : ∀ fork : Fork, fork.signedBlock.Admits fork.signedBlock.blank := fun fork =>
    Schema.blank_admitted _ (Schema.signedBlock_wellFormed fork)
  have hencode : ∀ fork : Fork, ∃ bs, fork.signedBlock.encode fork.signedBlock.blank = .ok bs := by
    intro fork
    have hisOk : (fork.signedBlock.encode fork.signedBlock.blank).isOk = true := by
      cases fork <;> decide +kernel
    cases hbytes : fork.signedBlock.encode fork.signedBlock.blank with
    | error fault =>
        rw [hbytes] at hisOk
        exact Bool.noConfusion hisOk
    | ok bs => exact ⟨bs, rfl⟩
  have hpair : ∀ (mode : Mode) (b c : Block), (∀ other ∈ [b, c], mode.Writes other) →
      ∃ line next : String,
        [b, c].mapM (r.render · mode) = .ok [line ++ "\n", next ++ "\n"] ∧
        (String.join [line ++ "\n", next ++ "\n"]).toList.splitOn '\n'
          = [line.toList, next.toList, []] ∧ line ≠ "" ∧ next ≠ "" ∧
        mode.readBack b.fork line = some (Block.ofFork b.fork b.signed) ∧
        mode.readBack c.fork next = some (Block.ofFork c.fork c.signed) := by
    intro mode b c h
    obtain ⟨texts, lines, hrender, rfl, -, hcut, -, hfilled, hread⟩ :=
      render_stream r mode [b, c] h
    rcases hread with _ | ⟨hline, _ | ⟨hnext, ⟨⟩⟩⟩
    exact ⟨_, _, hrender, hcut, (hfilled _ List.mem_cons_self).1,
      (hfilled _ (List.mem_cons_of_mem _ List.mem_cons_self)).1, hline, hnext⟩
  have hjson : ∀ b ∈ [phase0, deneb], Mode.json.Writes b := by
    simp only [List.forall_mem_cons]
    exact ⟨⟨hblank .phase0, trivial⟩, ⟨hblank .deneb, trivial⟩, fun _ h => absurd h List.not_mem_nil⟩
  have hssz : ∀ b ∈ [altair, deneb], Mode.ssz.Writes b := by
    simp only [List.forall_mem_cons]
    exact ⟨⟨hblank .altair, by decide, hencode .altair⟩, ⟨hblank .deneb, by decide, hencode .deneb⟩,
      fun _ h => absurd h List.not_mem_nil⟩
  exact ⟨hjson, hssz, hpair .json phase0 deneb hjson, hpair .ssz altair deneb hssz⟩

theorem map_signed_eq_of_isLine {r : Renderer} {mode : Mode} {blocks others : List Block}
    {lines : List String} (hblocks : List.Forall₂ (r.IsLine mode) blocks lines)
    (hothers : List.Forall₂ (r.IsLine mode) others lines)
    (hforks : blocks.map Block.fork = others.map Block.fork) :
    blocks.map Block.signed = others.map Block.signed := by
  induction hblocks generalizing others with
  | nil =>
      rw [List.forall₂_nil_right_iff.mp hothers]
  | @cons b line blocks lines hline _ ih =>
      obtain ⟨other, others, hother, hrest, rfl⟩ := List.forall₂_cons_right_iff.mp hothers
      obtain ⟨hfork, hforks⟩ := List.cons.inj hforks
      have hread := hline.readBack.symm.trans (hfork ▸ hother.readBack)
      have hsigned := congrArg Block.signed (Option.some.inj hread)
      rw [Block.signed_ofFork, Block.signed_ofFork] at hsigned
      rw [List.map_cons, List.map_cons, hsigned, ih hrest hforks]

/-- Streams of blocks of the same forks are different if the signed blocks are. -/
theorem map_signed_eq_of_stream_eq (r : Renderer) (mode : Mode) (blocks others : List Block)
    (h : ∀ b ∈ blocks, mode.Writes b) (hother : ∀ b ∈ others, mode.Writes b)
    (hforks : blocks.map Block.fork = others.map Block.fork)
    (hstream : (blocks.mapM (r.render · mode)).map String.join
      = (others.mapM (r.render · mode)).map String.join) :
    blocks.map Block.signed = others.map Block.signed := by
  obtain ⟨lines, hlines, hprintable⟩ := exists_lines r mode blocks h
  obtain ⟨otherLines, hotherLines, hotherPrintable⟩ := exists_lines r mode others hother
  rw [mapM_of_isLine hlines, mapM_of_isLine hotherLines] at hstream
  -- The lines are told by the stream, and by each line its block.
  have hcut := congrArg (fun stream => stream.toList.splitOn '\n') (Except.ok.inj hstream)
  simp only [splitOn_lines lines fun line hline => newline_not_mem (hprintable line hline).2,
    splitOn_lines otherLines fun line hline => newline_not_mem (hotherPrintable line hline).2]
    at hcut
  have hsame : lines = otherLines :=
    List.map_injective_iff.mpr (fun _ _ => String.toList_injective) (List.append_cancel_right hcut)
  exact map_signed_eq_of_isLine hlines (hsame ▸ hotherLines) hforks

end Renderer

end Beacon
