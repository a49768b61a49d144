import Beacon.Proofs.Report.Breakdown
import Beacon.Proofs.Service.Streaming

/-!
# Streams at Their Best

Under the policy that goes on, a stream is meant to outlive every head event that
cannot be written out. It outlives failures, and a breakdown ends it. So how good
the effort is depends on what can break down.

Reading the data of a head event cannot, and fetching a block from a steady node
cannot either. Rendering can: a report of a block whose slot starts beyond every
year that a date can name, and the binary form of a block that is too large for
its own offsets. Both are blocks of a fork's schema. `Session.Sound` excludes just
these, and it is exactly what a stream needs.

## Main definitions

* `Holdings.Admitted`: Every block that is held is one of its fork's schema.
* `Session.Sound`: No head event announces a block that rendering breaks down on.

## Theorems

* `Session.forgiving_iff_sound`: What a stream can forgive is what does not break.
* `stream_iff_sound`: A stream goes through all its events exactly if they are
  sound.
-/

namespace Beacon

namespace Service

namespace Holdings

/-- Every block that is held is a value of its fork's schema. -/
def Admitted (holdings : Holdings) : Prop :=
  ∀ blockId block, holdings.block blockId = .ok (some block) →
    block.fork.signedBlock.Admits block.signed

/-- Attaching sidecars to a block does not take it out of its fork's schema. -/
theorem admits_of_fetched {holdings : Holdings} (h : holdings.Admitted) {blockId : Text}
    {block : Block} (hfetched : holdings.fetched blockId = .ok (some block)) :
    block.fork.signedBlock.Admits block.signed := by
  unfold fetched at hfetched
  rcases hblock : holdings.block blockId with failure | _ | held <;> rw [hblock] at hfetched
  · exact absurd hfetched (by simp only [reduceCtorEq, not_false_eq_true])
  · exact absurd hfetched (by simp only [Except.ok.injEq, reduceCtorEq, not_false_eq_true])
  · have hheld := h blockId held hblock
    cases held with
    | phase0 | altair | bellatrix | capella =>
        rw [← Option.some.inj (Except.ok.inj hfetched)]
        exact hheld
    | deneb signed sidecars =>
        obtain ⟨attached, -, hattached⟩ := Outcome.map_eq_ok_iff.mp hfetched
        rw [← Option.some.inj hattached]
        exact hheld

/-- A node may hold a blank block under every identifier. -/
theorem blank_admitted (slot : Nat) (h : slot < Nat.pow 2 64) :
    Admitted ⟨fun _ => .ok (some (.phase0 (Schema.blankBlock slot))), fun _ => .ok []⟩ := by
  intro blockId block hblock
  rw [← Option.some.inj (Except.ok.inj hblock)]
  exact Schema.blankBlock_admitted slot h

end Holdings

end Service

namespace Session

open Service

/-- No head event announces a block that rendering breaks down on. -/
def Sound (session : Session) (zone : Zone) (holdings : Holdings) (heads : List Datum) : Prop :=
  ∀ data ∈ heads, ∀ head block, HeadEvent.read data = .ok head →
    holdings.fetched head.blockId = .ok (some block) →
    ¬(session.renderer zone).Breaks session.mode block

/-- Nothing worse than a failure goes wrong with a head event unless it announces
    a block that rendering breaks down on. -/
theorem shown_breakdown_iff (session : Session) (zone : Zone) {holdings : Holdings}
    (hadmitted : holdings.Admitted) (data : Datum) :
    (∃ breakdown, session.shown zone holdings data = .error (.breakdown breakdown)) ↔
      ∃ head block, HeadEvent.read data = .ok head ∧
        holdings.fetched head.blockId = .ok (some block) ∧
        (session.renderer zone).Breaks session.mode block := by
  unfold shown Service.head
  cases hread : HeadEvent.read data with
  | error fault =>
      -- The data has problems, and these are a failure.
      obtain ⟨details, rfl⟩ := HeadEvent.failsIn_read data fault hread
      constructor
      · rintro ⟨breakdown, hbreak⟩
        exact absurd hbreak (by simp only [Except.error.injEq, reduceCtorEq, not_false_eq_true])
      · rintro ⟨head, block, hhead, -⟩
        exact absurd hhead (by simp only [reduceCtorEq, not_false_eq_true])
  | ok head =>
      simp only [shownAt, Except.ok.injEq, exists_and_left, exists_eq_left']
      rcases hfetched : holdings.fetched head.blockId with failure | _ | block
      · simp only [Except.error.injEq, reduceCtorEq, exists_false, false_and]
      · simp only [Except.error.injEq, Except.ok.injEq, reduceCtorEq, exists_false, false_and]
      · simp only [Except.ok.injEq, Option.some.injEq, exists_eq_left']
        exact Renderer.breakdown_iff _ _ block (holdings.admits_of_fetched hadmitted hfetched)

/-- What a stream can forgive is what rendering does not break down on. -/
theorem forgiving_iff_sound (session : Session) (zone : Zone) {holdings : Holdings}
    (hadmitted : holdings.Admitted) (heads : List Datum) :
    session.Forgiving zone holdings heads ↔ session.Sound zone holdings heads := by
  constructor
  · intro hforgiving data hdata head block hread hfetched hbreaks
    obtain ⟨breakdown, hshown⟩ := (shown_breakdown_iff session zone hadmitted data).mpr
      ⟨head, block, hread, hfetched, hbreaks⟩
    obtain ⟨failure, hfailure⟩ := hforgiving data hdata _ hshown
    exact absurd hfailure (by simp only [reduceCtorEq, not_false_eq_true])
  · intro hsound data hdata t ht
    cases t with
    | failure failure => exact ⟨failure, rfl⟩
    | breakdown breakdown =>
        obtain ⟨head, block, hread, hfetched, hbreaks⟩ :=
          (shown_breakdown_iff session zone hadmitted data).mp ⟨breakdown, ht⟩
        exact absurd hbreaks (hsound data hdata head block hread hfetched)

end Session

namespace Service

open Effect Schema

variable {service : Service} {holdings : Holdings} {events : List Event}

/-- Under the policy that goes on, a stream over a steady node whose blocks are
    values of their forks' schemas goes through all its head events exactly if they
    are sound: then each is written out or warned of, and the stream ends when the
    events do. Otherwise it ends with the breakdown of the first one that is not
    sound, and only the events before that are dealt with. -/
theorem stream_iff_sound (hnode : Holds service.node holdings)
    (hevents : ∀ before, Delivers (service.node.events before [↑HeadEvent.topic]) events)
    (hadmitted : holdings.Admitted) (hpolicy : service.policy = .logAndContinue)
    (session : Session) (s : State) :
    let written := session.written service.zone holdings
    let troubles := session.troubles service.zone holdings
    (session.Sound service.zone holdings (heads events) →
      ∃ s', carry (service.stream session) s = (.ok (), s') ∧ s'.running = false ∧
        s'.output = s.output ++
          String.join ((written (heads events)).map (· ++ session.separator)) ∧
        s'.rendered = s.rendered + (written (heads events)).length ∧
        s'.warnings = s.warnings ++ (troubles (heads events)).map Session.warning) ∧
    (¬session.Sound service.zone holdings (heads events) →
      ∃ before data after breakdown s', heads events = before ++ data :: after ∧
        session.shown service.zone holdings data = .error (.breakdown breakdown) ∧
        carry (service.stream session) s = (.error (.breakdown breakdown), s') ∧
        s'.running = false ∧
        s'.output = s.output ++ String.join ((written before).map (· ++ session.separator)) ∧
        s'.rendered = s.rendered + (written before).length ∧
        s'.warnings = s.warnings ++ (troubles before).map Session.warning) := by
  intro written troubles
  rw [← session.forgiving_iff_sound service.zone hadmitted]
  constructor
  -- Sound events all have their turn, and their reactions are what is left behind.
  · intro hforgiving
    have hstream := rests_stream (does_subscribe hevents fun hfeed =>
      does_follow hnode hpolicy session hfeed hforgiving)
    obtain ⟨s', hs', hlead⟩ := hstream s
    rw [Session.inTurn_reactions] at hlead
    simp only [andThen, ofCalls, nothing, List.nil_append, String.empty_append, Nat.zero_add]
      at hlead
    exact ⟨s', hs', hlead.running, hlead.output, hlead.rendered, hlead.warnings⟩
  -- Otherwise there is a first event that is not, and the stream gets as far as it.
  · intro hbroken
    obtain ⟨before, data, after, breakdown, hheads, hbefore, hdata⟩ :=
      session.exists_breakdown service.zone holdings (heads events) hbroken
    have hstream := rests_stream (does_subscribe hevents fun hfeed =>
      does_follow_breakdown hnode hpolicy session hfeed hheads hbefore hdata)
    obtain ⟨s', hs', hlead⟩ := hstream s
    rw [Session.inTurn_reactions] at hlead
    simp only [andThen, ofCalls, nothing, List.nil_append, List.append_nil, String.empty_append,
      String.append_empty, Nat.zero_add, Nat.add_zero] at hlead
    exact ⟨before, data, after, breakdown, s', hheads, hdata, hs', hlead.running, hlead.output,
      hlead.rendered, hlead.warnings⟩

/-- A blank block and data that says nothing, on a stream of reports. -/
theorem stream_iff_sound_blank :
    let root := Bytes.zeros 32
    let holdings : Holdings := ⟨fun _ => .ok (some (.phase0 (blankBlock 7))), fun _ => .ok []⟩
    let head : HeadEvent := ⟨7, root, root, false⟩
    let service : Service := ⟨steady .null .null holdings [⟨"head", head.datum⟩, ⟨"head", .null⟩],
      .universal, .logAndContinue⟩
    let session : Session := ⟨⟨.identifier "7", false, false, true, false, false⟩,
      ⟨0, 12, 32, by decide, by decide⟩, "7"⟩
    session.mode = .text ∧ holdings.Admitted ∧
      session.Sound service.zone holdings [head.datum, .null] ∧
      ∃ s', carry (service.stream session) .fresh = (.ok (), s') ∧ s'.running = false ∧
        s'.rendered + s'.warnings.length = 2 := by
  intro root holdings head service session
  have hadmitted : holdings.Admitted := Holdings.blank_admitted 7 (by decide)
  have hsound : session.Sound service.zone holdings [head.datum, .null] := by
    intro data _ announced block _ hfetched
    have hblock : some (Block.phase0 (blankBlock 7)) = some block := Except.ok.inj hfetched
    rw [← Option.some.inj hblock]
    have hstart : session.timing.localStart .universal 7 = .ok (.ofSeconds 84) := by decide
    rintro ⟨fault, hfault⟩
    rw [slot_blankBlock] at hfault
    exact absurd (hstart.symm.trans hfault) (by simp only [reduceCtorEq, not_false_eq_true])
  have hserves : Serves service.node _ _ holdings _ := serves_steady .null .null holdings _
  have hheads : heads [⟨"head", head.datum⟩, ⟨"head", .null⟩] = [head.datum, .null] := rfl
  obtain ⟨s', hs', hrest, -, hrendered, hwarnings⟩ :=
    (stream_iff_sound hserves.toHolds hserves.events hadmitted rfl session .fresh).1 hsound
  rw [hheads] at hrendered hwarnings
  refine ⟨rfl, hadmitted, hsound, s', hs', hrest, ?_⟩
  have hcount := session.length_written_add_troubles .universal holdings [head.datum, .null]
  have hfresh : State.fresh.rendered = 0 ∧ State.fresh.warnings = [] := ⟨rfl, rfl⟩
  rw [hrendered, hwarnings, hfresh.1, hfresh.2, List.nil_append, List.length_map, Nat.zero_add]
  exact hcount

/-- A block at the last slot there is starts at a time that no clock shows. Its
    report ends the stream, although the block is one of its fork's schema and the
    policy is to go on: there is no warning, and the data after it, which would
    have one, has no turn. -/
theorem stream_ends_at_last_slot :
    let root := Bytes.zeros 32
    let holdings : Holdings :=
      ⟨fun _ => .ok (some (.phase0 (blankBlock (2 ^ 64 - 1)))), fun _ => .ok []⟩
    let head : HeadEvent := ⟨2 ^ 64 - 1, root, root, false⟩
    let service : Service := ⟨steady .null .null holdings [⟨"head", head.datum⟩, ⟨"head", .null⟩],
      .universal, .logAndContinue⟩
    let session : Session := ⟨⟨.identifier "head", false, false, true, false, false⟩,
      ⟨0, 12, 32, by decide, by decide⟩, "head"⟩
    session.mode = .text ∧ holdings.Admitted ∧
      ∃ s', carry (service.stream session) .fresh = (.error (.breakdown (.clock .outOfRange)), s') ∧
        s'.running = false ∧ s'.rendered = 0 ∧ s'.warnings = [] := by
  intro root holdings head service session
  have hadmitted : holdings.Admitted := Holdings.blank_admitted (2 ^ 64 - 1) (by decide)
  have hread : HeadEvent.read head.datum = .ok head :=
    head.read_datum (by decide) (by decide) (by decide)
  have hstart : session.timing.localStart .universal (2 ^ 64 - 1) = .error .outOfRange := by decide
  have hrender := Renderer.render_text_error (session.renderer .universal)
    (.phase0 (blankBlock (2 ^ 64 - 1))) .outOfRange (blankBlock_admitted (2 ^ 64 - 1) (by decide))
    hstart
  have hshown : session.shown service.zone holdings head.datum
      = .error (.breakdown (.clock .outOfRange)) := by
    rw [Session.shown, Service.head, hread]
    exact hrender
  have hserves : Serves service.node _ _ holdings _ := serves_steady .null .null holdings _
  have hheads : heads [⟨"head", head.datum⟩, ⟨"head", .null⟩] = [] ++ head.datum :: [.null] := rfl
  have hstream : Rests (service.stream session) _ _ :=
    rests_stream (does_subscribe hserves.events fun hfeed =>
      does_follow_breakdown hserves.toHolds rfl session hfeed hheads
        (fun _ hdata => absurd hdata List.not_mem_nil) hshown)
  obtain ⟨s', hs', hlead⟩ := hstream .fresh
  exact ⟨rfl, hadmitted, s', hs', hlead.running, hlead.rendered, hlead.warnings⟩

end Service

end Beacon
