import Beacon.Proofs.Report.Heading
import Beacon.Proofs.Ssz.NodeForm
import Beacon.Proofs.Time.Expression
import Mathlib.Data.Rat.Floor

/-!
# The Slot of a Moment

However a moment is written, it is resolved to the slot it lies in, and the start of
a slot is resolved to the slot.

An expression matters only through the seconds it names, so the first statement is
about the three forms naming the same seconds. A datetime that is read determines a
number that fits in 64 bits, because its year can be counted, and then the numerals
of this number are read as well. That this number is the right one says the clock of
`Time.Calendar`, which goes from the start of 1970 to the datetime tick by tick.

For the second statement the start of a slot is turned into a local time and the
local time back into seconds. The two conversions check their ranges differently,
but where both succeed the second undoes the first, and the quotient of a whole
number of slots by the length of a slot is this number, before genesis too.

## Main definitions

* `DateTime.expressionOf`: The expression of a date and time as it is reported.

## Theorems

* `Timing.slotAt_eq_floor`: The slot of a moment is the rounded quotient.
* `Timing.slotAt_startOf`: The start of a slot lies in the slot.
* `Timing.resolve_spellings`: All forms of a moment are resolved to its slot.
* `Timing.resolve_isoText`: The text of a slot's start is resolved to the slot.
* `Timing.resolve_localStart`: The same, and so is the time in a report.
-/

namespace Beacon

namespace Timing

/-- The slot of a moment is the quotient rounded down. -/
theorem slotAt_eq_floor (timing : Timing) (t : Int) :
    timing.slotAt t = ⌊((t - timing.genesisTime : Int) : ℚ) / timing.secondsPerSlot⌋ := by
  rw [slotAt, Int.fdiv_eq_ediv_of_nonneg _ (Int.natCast_nonneg _), Rat.floor_intCast_div_natCast]

/-- The start of a slot lies in the slot. -/
theorem slotAt_startOf (timing : Timing) (slot : Int) :
    timing.slotAt (timing.startOf slot) = slot := by
  have hpos := timing.secondsPerSlot_pos
  rw [slotAt, startOf, add_sub_cancel_left, Int.mul_fdiv_cancel]
  omega

/-- An expression is resolved to the slot of the seconds that it names. -/
theorem resolve_of_parse (timing : Timing) (z : Zone) (expression : Text) (t : Int)
    (h : Time.parse z expression = .ok t) :
    (timing.resolve z expression).map Resolution.identifier
      = .ok (Decimal.signed (timing.slotAt t)) := by
  rw [resolve, h]
  rfl

/-- Whatever datetime is read is the ISO text of a local time, which the clock shows
    so many seconds after the start of 1970 as are read and the zone is ahead. The
    numeral and the hexadecimal digits of these seconds are read to them too, and all
    three are resolved to the seconds' slot. -/
theorem resolve_spellings (timing : Timing) (z : Zone) (expression : Text) (t : Int)
    (hform : TimeForm.of expression.chars = .datetime)
    (hparse : Time.parse z expression = .ok t) :
    (∃ d : DateTime, d.isValid = true ∧ 1 ≤ d.date.year ∧ d.date.year ≤ 9999 ∧
      expression = ↑d.isoText ∧ DateTime.epoch.Elapsed (t + z.offset) d) ∧
    (∀ other, Time.Spells t other → Time.parse z other = .ok t) ∧
    ∀ other, other = expression ∨ Time.Spells t other →
      (timing.resolve z other).map Resolution.identifier
        = .ok (Decimal.signed ⌊((t - timing.genesisTime : Int) : ℚ) / timing.secondsPerSlot⌋) := by
  obtain ⟨d, htext, hlocal⟩ := Time.isoText_of_parse z expression t hform hparse
  obtain ⟨hvalid, hfirst, hlast, ht, -⟩ := Zone.ofLocal?_eq_some hlocal
  have hspelled : ∀ other, Time.Spells t other → Time.parse z other = .ok t :=
    fun other => Time.parse_of_spells z t other (Zone.fits_of_ofLocal? hlocal)
  refine ⟨⟨d, hvalid, hfirst, hlast, htext, ?_⟩, hspelled, ?_⟩
  -- What is read is the count of the local time less the offset, and the count is the ticks.
  · have hstart : DateTime.epoch.toSeconds = 0 := by decide
    rw [DateTime.elapsed_iff _ d _ (by decide) hvalid, hstart]
    omega
  · intro other hother
    rw [← slotAt_eq_floor]
    rcases hother with rfl | hother
    · exact resolve_of_parse timing z other t hparse
    · exact resolve_of_parse timing z other t (hspelled other hother)

/-- Half an hour into the first of March 1900 it is still February an hour further
    west. The day before is the twenty-eighth, because 1900 is no leap year. -/
theorem resolve_spellings_century :
    let timing : Timing := ⟨1606824023, 12, 32, by decide, by decide⟩
    let z : Zone := ⟨3600⟩
    let slot : Except TimeFault String := .ok "-317559752"
    TimeForm.of (Text.ofString "1900-03-01T00:30:00").chars = .datetime ∧
      Time.parse z "1900-03-01T00:30:00" = .ok (-2203893000) ∧
      (∃ d : DateTime, Text.ofString "1900-03-01T00:30:00" = ↑d.isoText ∧
        DateTime.epoch.Elapsed (-2203889400) d) ∧
      Time.parse z "-2203893000" = .ok (-2203893000) ∧
      Time.parse z "0x-835cBD08" = .ok (-2203893000) ∧
      (timing.resolve z "1900-03-01T00:30:00").map Resolution.identifier = slot ∧
      (timing.resolve z "-2203893000").map Resolution.identifier = slot ∧
      (timing.resolve z "0x-835cBD08").map Resolution.identifier = slot := by
  intro timing z slot
  have hform : TimeForm.of (Text.ofString "1900-03-01T00:30:00").chars = .datetime := by decide
  have hparse : Time.parse z "1900-03-01T00:30:00" = .ok (-2203893000) := by decide
  obtain ⟨⟨d, -, -, -, htext, helapsed⟩, hspelled, hresolved⟩ :=
    resolve_spellings timing z "1900-03-01T00:30:00" (-2203893000) hform hparse
  have hdecimal : Time.Spells (-2203893000) "-2203893000" := .inl (by decide)
  have hhex : Time.Spells (-2203893000) "0x-835cBD08" :=
    .inr ⟨['8', '3', '5', 'c', 'B', 'D', '0', '8'], by decide, by decide⟩
  have hslot : ∀ other, other = Text.ofString "1900-03-01T00:30:00" ∨
      Time.Spells (-2203893000) other →
        (timing.resolve z other).map Resolution.identifier = slot := by
    intro other hother
    rw [hresolved other hother, ← slotAt_eq_floor]
    rfl
  exact ⟨hform, hparse, ⟨d, htext, helapsed⟩, hspelled _ hdecimal, hspelled _ hhex,
    hslot _ (.inl rfl), hslot _ (.inr hdecimal), hslot _ (.inr hhex)⟩

end Timing

namespace DateTime

/-- The expression of a date and time as it is reported. -/
def expressionOf (reported : String) : String := reported.map fun c => if c = ' ' then 'T' else c

theorem expressionOf_text (d : DateTime) : expressionOf d.text = d.isoText := by
  have hpadded : ∀ width n, (padded width n).map (fun c => if c = ' ' then 'T' else c)
      = padded width n := by
    intro width n
    refine (List.map_congr_left fun c hc => ?_).trans (List.map_id _)
    have hdigit := isDigit_of_mem_padded width n c hc
    refine if_neg ?_
    rintro rfl
    exact absurd hdigit (by decide)
  rw [← String.toList_inj, expressionOf, String.toList_map, text, isoText, String.toList_ofList,
    String.toList_ofList]
  simp only [chars, List.map_append, List.map_cons, hpadded, Char.reduceEq, if_true, if_false]

end DateTime

namespace Timing

/-- The ISO text of the local time at which a slot starts is resolved to the slot. -/
theorem resolve_isoText (timing : Timing) (z : Zone) (slot : Int) (start : DateTime) (t : Int)
    (hstart : timing.localStart z slot = .ok start) (hparse : Time.parse z ↑start.isoText = .ok t) :
    (timing.resolve z ↑start.isoText).map Resolution.identifier = .ok (Decimal.signed slot) := by
  obtain ⟨hof, hfirst, hlast⟩ := Zone.toLocal_eq_ok hstart
  have hvalid : start.isValid = true := hof ▸ (DateTime.ofSeconds_spec _).1
  have hlocal := (Time.parse_isoText_iff z start t hvalid hfirst hlast).mp hparse
  -- The moment that is read is the one the slot starts at.
  rw [resolve_of_parse timing z _ t hparse, Zone.eq_of_ofLocal? hstart hlocal, slotAt_startOf]

/-- The expression of a local time at which a slot starts, if it is read, is resolved
    to the slot. The time in the report on a block is such a local time. -/
theorem resolve_localStart (timing : Timing) (z : Zone) :
    (∀ (slot : Int) (start : DateTime) (t : Int), timing.localStart z slot = .ok start →
      Time.parse z ↑start.isoText = .ok t →
        (timing.resolve z ↑start.isoText).map Resolution.identifier = .ok (Decimal.signed slot)) ∧
    ∀ (verbose : Bool) (b : Block) (report : String), b.fork.signedBlock.Admits b.signed →
      (Renderer.mk z timing verbose).render b .text = .ok report →
        ∃ start after, timing.localStart z b.slot = .ok start ∧
          report = "Slot: " ++ Decimal.text b.slot
            ++ "\nEpoch: " ++ Decimal.signed (timing.epochOf b.slot)
            ++ "\nTimestamp: " ++ start.text ++ "\n" ++ after ∧
          ∀ t, Time.parse z ↑(DateTime.expressionOf start.text) = .ok t →
            (timing.resolve z ↑(DateTime.expressionOf start.text)).map Resolution.identifier
              = .ok (Decimal.text b.slot) := by
  refine ⟨resolve_isoText timing z, fun verbose b report hadmits hrender => ?_⟩
  obtain ⟨start, after, hstart, hreport⟩ := Report.text_eq hadmits hrender
  refine ⟨start, after, hstart, hreport, fun t hparse => ?_⟩
  rw [DateTime.expressionOf_text] at hparse ⊢
  exact resolve_isoText timing z b.slot start t hstart hparse

/-- A slot long before genesis that starts on the last evening of 1903, and a slot
    after it that is reported to start on a leap day. -/
theorem resolve_localStart_leap :
    let timing : Timing := ⟨951780000, 12, 32, by decide, by decide⟩
    let z : Zone := ⟨-18000⟩
    let block := Block.phase0 (Schema.blankBlock 3600)
    timing.localStart z (-252885400) = .ok ⟨⟨1903, 12, 31⟩, 19, 0, 0⟩ ∧
      Time.parse z "1903-12-31T19:00:00" = .ok (-2082844800) ∧
      (timing.resolve z "1903-12-31T19:00:00").map Resolution.identifier = .ok "-252885400" ∧
      block.fork.signedBlock.Admits block.signed ∧
      ∃ report after, (Renderer.mk z timing true).render block .text = .ok report ∧
        report = "Slot: 3600\nEpoch: 112\nTimestamp: 2000-02-29 06:20:00\n" ++ after ∧
        Time.parse z "2000-02-29T06:20:00" = .ok 951823200 ∧
        (timing.resolve z "2000-02-29T06:20:00").map Resolution.identifier = .ok "3600" := by
  intro timing z block
  have hearly : timing.localStart z (-252885400) = .ok ⟨⟨1903, 12, 31⟩, 19, 0, 0⟩ := by decide
  have hread : Time.parse z "1903-12-31T19:00:00" = .ok (-2082844800) := by decide
  have hearlyText : DateTime.isoText ⟨⟨1903, 12, 31⟩, 19, 0, 0⟩ = "1903-12-31T19:00:00" := by decide
  have hearlySlot := (resolve_localStart timing z).1 _ _ (-2082844800) hearly
  rw [hearlyText] at hearlySlot
  have hslot : block.slot = 3600 := Schema.slot_blankBlock 3600
  have hlate : timing.localStart z block.slot = .ok ⟨⟨2000, 2, 29⟩, 6, 20, 0⟩ := by
    rw [hslot]
    decide
  have hreread : Time.parse z "2000-02-29T06:20:00" = .ok 951823200 := by decide
  have hlateText : DateTime.isoText ⟨⟨2000, 2, 29⟩, 6, 20, 0⟩ = "2000-02-29T06:20:00" := by decide
  have hadmits : block.fork.signedBlock.Admits block.signed :=
    Schema.blankBlock_admitted 3600 (by decide)
  obtain ⟨report, hreport⟩ :=
    Renderer.render_text_ok (Renderer.mk z timing true) block _ hadmits hlate
  obtain ⟨start, after, hstart, htext, hresolved⟩ :=
    (resolve_localStart timing z).2 true block report hadmits hreport
  obtain rfl : (⟨⟨2000, 2, 29⟩, 6, 20, 0⟩ : DateTime) = start :=
    Except.ok.inj (hlate.symm.trans hstart)
  rw [hslot, DateTime.expressionOf_text, hlateText] at hresolved
  have hhead : "Slot: " ++ Decimal.text 3600 ++ "\nEpoch: " ++ Decimal.signed (timing.epochOf 3600)
      ++ "\nTimestamp: " ++ DateTime.text ⟨⟨2000, 2, 29⟩, 6, 20, 0⟩ ++ "\n"
        = "Slot: 3600\nEpoch: 112\nTimestamp: 2000-02-29 06:20:00\n" := by decide
  rw [hslot, Nat.cast_ofNat, hhead] at htext
  exact ⟨hearly, hread, hearlySlot hread, hadmits, report, after, hreport, htext, hreread,
    hresolved 951823200 hreread⟩

end Timing

end Beacon
