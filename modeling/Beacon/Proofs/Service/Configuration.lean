import Beacon.Proofs.Service.Changing
import Beacon.Proofs.Ssz.Reading

/-!
# The Timing out of Arbitrary Data

What a service makes of a node's configuration and its genesis when nothing is known
of them.

Three values are looked up by name, and each of them may be missing, of a wrong kind,
out of range or zero. All of that is reported as a failure to configure, and so is a
failure to fetch either of the two. What is not foreseen is that the data may have no
names at all: `null`, a list or a text where a record is due. Looking up a name in it
is a breakdown. The order of the steps matters here, because data that the lookups do
not come to does no harm: the genesis is looked at first, and the configuration only
if the genesis has what is looked up in it.

## Main definitions

* `Datum.Lists`: A record lists a number under a name.
* `Timing.Supplied`: The two answers supply the parameters of a timing.
* `Timing.Nameless`: A name is looked up in data without names.

## Theorems

* `Timing.ofNode_eq_ok_iff`, `Timing.ofNode_unnamed_iff`: When there is a timing, and
  when there is a breakdown.
* `Service.carry_timing`: What reading the timing comes to.
* `Service.timing_or_config`: There is a timing as supplied, or a failure to configure,
  or a breakdown exactly if a name is looked up in data without names.
-/

namespace Beacon

open Outcome

/-- A record lists a number under a name, one of the width that parameters have. -/
def Datum.Lists (d : Datum) (key : String) (n : Nat) : Prop :=
  ∃ fields e, d = .record fields ∧ fields.lookup ↑key = some e ∧ e.States n ∧
    n < Nat.pow 2 Timing.bits

namespace Timing

/-- The configuration and the genesis supply the parameters of a timing. -/
structure Supplied (spec genesis : Datum) (t : Timing) : Prop where
  genesisTime : genesis.Lists "genesis_time" t.genesisTime
  secondsPerSlot : spec.Lists "SECONDS_PER_SLOT" t.secondsPerSlot
  slotsPerEpoch : spec.Lists "SLOTS_PER_EPOCH" t.slotsPerEpoch

/-- A name is looked up in data without names: in the genesis, or in the configuration
    after the genesis time was found. -/
inductive Nameless (spec genesis : Datum) : Datum → Prop
  | genesis (h : ∀ fields, genesis ≠ .record fields) : Nameless spec genesis genesis
  | spec {fields : List (Text × Datum)} {e : Datum} (hgenesis : genesis = .record fields)
      (hfound : fields.lookup ↑"genesis_time" = some e) (h : ∀ fields, spec ≠ .record fields) :
      Nameless spec genesis spec

/-! ### Looking up -/

theorem lookUp_eq_ok_iff {key : String} {d e : Datum} :
    lookUp key d = .ok e ↔ ∃ fields, d = .record fields ∧ fields.lookup ↑key = some e := by
  cases d with
  | record fields =>
      simp only [lookUp, Datum.record.injEq, exists_eq_left']
      cases fields.lookup ↑key <;> simp only [reduceCtorEq, Except.ok.injEq, Option.some.injEq]
  | null | bool | int | real | text | bytes | list | tuple =>
      simp only [lookUp, reduceCtorEq, false_and, exists_false]

theorem lookUp_unnamed_iff {key : String} {d given : Datum} :
    lookUp key d = .error (.unnamed given) ↔ d = given ∧ ∀ fields, d ≠ .record fields := by
  cases d with
  | record fields =>
      rw [lookUp]
      refine iff_of_false ?_ fun h => h.2 fields rfl
      split <;> simp only [reduceCtorEq, not_false_eq_true, Except.error.injEq]
  | null | bool | int | real | text | bytes | list | tuple =>
      simp only [lookUp, Except.error.injEq, TimingFault.unnamed.injEq, ne_eq, reduceCtorEq,
        not_false_eq_true, implies_true, and_true]

/-! ### Checking -/

theorem positive_eq_ok_iff {d : Datum} {n : { n : Nat // 0 < n }} :
    positive d = .ok n ↔ number d = .ok n.1 := by
  unfold positive
  rw [bind_eq_ok_iff]
  constructor
  · rintro ⟨m, hm, h⟩
    split at h
    · rw [← Except.ok.inj h, hm]
    · exact absurd h (by simp only [reduceCtorEq, not_false_eq_true])
  · intro h
    exact ⟨n.1, h, dif_pos n.2⟩

/-- The three values make a timing exactly if they are its numbers. That the divisors
    are positive is part of a timing. -/
theorem ofFields_eq_ok_iff {a b c : Datum} {t : Timing} :
    ofFields [("genesis_time", a), ("seconds_per_slot", b), ("slots_per_epoch", c)] = .ok t ↔
      number a = .ok t.genesisTime ∧ number b = .ok t.secondsPerSlot ∧
        number c = .ok t.slotsPerEpoch := by
  constructor
  · intro h
    obtain ⟨genesis, divisors, hgenesis, hdivisors, rfl⟩ :=
      Fault.collect_eq_ok (Fault.closed_eq_ok h).1
    obtain ⟨perSlot, perEpoch, hperSlot, hperEpoch, rfl⟩ := Fault.collect_eq_ok hdivisors
    exact ⟨Fault.under_eq_ok hgenesis, positive_eq_ok_iff.mp (Fault.under_eq_ok hperSlot),
      positive_eq_ok_iff.mp (Fault.under_eq_ok hperEpoch)⟩
  · rintro ⟨ha, hb, hc⟩
    have hperSlot := positive_eq_ok_iff.mpr
      (show number b = .ok (Subtype.mk t.secondsPerSlot t.secondsPerSlot_pos).1 from hb)
    have hperEpoch := positive_eq_ok_iff.mpr
      (show number c = .ok (Subtype.mk t.slotsPerEpoch t.slotsPerEpoch_pos).1 from hc)
    change Fault.closed names _ (Fault.collect _ (Fault.under _ (number a))
      (Fault.collect _ (Fault.under _ (positive b)) (Fault.under _ (positive c)))) = _
    rw [ha, hperSlot, hperEpoch]
    rfl

theorem lists_of_number {d e : Datum} {key : String} {n : Nat} {fields : List (Text × Datum)}
    (hd : d = .record fields) (he : fields.lookup ↑key = some e) (h : number e = .ok n) :
    d.Lists key n := by
  obtain ⟨hstates, hn⟩ := Number.read_eq_ok_iff.mp h
  exact ⟨fields, e, hd, he, hstates, hn⟩

/-- There is a timing exactly if the two answers supply its parameters. -/
theorem ofNode_eq_ok_iff {spec genesis : Datum} {t : Timing} :
    ofNode spec genesis = .ok t ↔ Supplied spec genesis t := by
  unfold ofNode
  simp only [bind_eq_ok_iff, lookUp_eq_ok_iff]
  constructor
  · rintro ⟨a, ⟨gs, hgs, ha⟩, b, ⟨cs, hcs, hb⟩, c, ⟨cs', hcs', hc⟩, h⟩
    split at h
    · rename_i t' hfields
      obtain rfl := Except.ok.inj h
      obtain ⟨hna, hnb, hnc⟩ := ofFields_eq_ok_iff.mp hfields
      exact ⟨lists_of_number hgs ha hna, lists_of_number hcs hb hnb, lists_of_number hcs' hc hnc⟩
    · exact absurd h (by simp only [reduceCtorEq, not_false_eq_true])
  · rintro ⟨⟨gs, a, hgs, ha, hsa, hla⟩, ⟨cs, b, hcs, hb, hsb, hlb⟩, ⟨cs', c, hcs', hc, hsc, hlc⟩⟩
    refine ⟨a, ⟨gs, hgs, ha⟩, b, ⟨cs, hcs, hb⟩, c, ⟨cs', hcs', hc⟩, ?_⟩
    have hfields := ofFields_eq_ok_iff.mpr ⟨Number.read_eq_ok_iff.mpr ⟨hsa, hla⟩,
      Number.read_eq_ok_iff.mpr ⟨hsb, hlb⟩, Number.read_eq_ok_iff.mpr ⟨hsc, hlc⟩⟩
    rw [hfields]
    rfl

/-- Reading a timing breaks down exactly if a name is looked up in data without
    names. -/
theorem ofNode_unnamed_iff {spec genesis given : Datum} :
    ofNode spec genesis = .error (.unnamed given) ↔ Nameless spec genesis given := by
  unfold ofNode
  simp only [bind_eq_error_iff, lookUp_unnamed_iff, lookUp_eq_ok_iff]
  constructor
  · rintro (⟨rfl, hgenesis⟩ | ⟨a, ⟨gs, hgs, ha⟩, ⟨rfl, hspec⟩ | ⟨b, ⟨cs, hcs, -⟩, h⟩⟩)
    · exact .genesis hgenesis
    · exact .spec hgs ha hspec
    -- Once something was found in the configuration, it has names.
    · rcases h with ⟨rfl, hspec⟩ | ⟨c, -, h⟩
      · exact absurd hcs (hspec cs)
      · split at h <;> exact absurd h (by simp only [pure, Except.pure, reduceCtorEq,
          Except.error.injEq, not_false_eq_true])
  · rintro (hgenesis | ⟨hgs, ha, hspec⟩)
    · exact .inl ⟨rfl, hgenesis⟩
    · exact .inr ⟨_, ⟨_, hgs, ha⟩, .inl ⟨rfl, hspec⟩⟩

/-- What is not a breakdown of this sort is a failure to configure. -/
theorem trouble_of_ofNode {spec genesis : Datum} {fault : TimingFault}
    (h : ofNode spec genesis = .error fault) :
    (∃ reason, fault.trouble = .failure (.config reason)) ∨
      ∃ given, Nameless spec genesis given ∧ fault.trouble = .breakdown (.unnamed given) := by
  cases fault with
  | lacks key => exact .inl ⟨_, rfl⟩
  | invalid details => exact .inl ⟨_, rfl⟩
  | unnamed given => exact .inr ⟨given, ofNode_unnamed_iff.mp h, rfl⟩

end Timing

namespace Service

/-- The timing is made of the replies to two questions, and failures to fetch are
    reworded on the way. -/
theorem carry_timing (service : Service) (s : State) :
    (carry service.timing s).1 = (do
      let spec ← (service.node.spec s.calls).result.mapError
        (Trouble.reworded (untimed "configuration"))
      let genesis ← (service.node.genesis (s.calls ++ [.spec])).result.mapError
        (Trouble.reworded (untimed "genesis"))
      (Timing.ofNode spec genesis).mapError TimingFault.trouble) := by
  unfold Service.timing
  rw [carry_bind, carry_onFetchFault, carry_ask]
  cases (service.node.spec s.calls).result with
  | error t => rfl
  | ok spec =>
      have hcalls : (s.asked .spec (service.node.spec s.calls)).calls = s.calls ++ [.spec] := rfl
      simp only [Except.mapError, ok_bind]
      rw [carry_bind, carry_onFetchFault, carry_ask, hcalls]
      cases (service.node.genesis (s.calls ++ [.spec])).result with
      | error t => rfl
      | ok genesis =>
          simp only [Except.mapError, ok_bind]
          cases Timing.ofNode spec genesis <;> rfl

/-- Whatever a node's configuration and its genesis are, and whichever of them cannot
    be fetched, there are three ways in which reading the timing can end. There is a
    timing exactly if the two supply its parameters, and it is the one they supply: its
    three numbers are the numbers that were listed, all of them in range, and the two
    divisors are positive. There is a breakdown exactly if a name is looked up in data
    without names. In all other cases there is a failure to configure. -/
theorem timing_or_config (service : Service) (s : State) (spec genesis : Except FetchFault Datum)
    (hspec : (service.node.spec s.calls).result
      = spec.mapError fun fault => .failure (.fetch fault))
    (hgenesis : (service.node.genesis (s.calls ++ [.spec])).result
      = genesis.mapError fun fault => .failure (.fetch fault)) :
    (∀ timing, (carry service.timing s).1 = .ok timing ↔
      ∃ c g, spec = .ok c ∧ genesis = .ok g ∧ Timing.Supplied c g timing) ∧
    (∀ t, (carry service.timing s).1 = .error t →
      (∃ fault, t = .failure (.config fault)) ∨
        ∃ c g given, spec = .ok c ∧ genesis = .ok g ∧ Timing.Nameless c g given ∧
          t = .breakdown (.unnamed given)) ∧
    ∀ c g given, spec = .ok c → genesis = .ok g → Timing.Nameless c g given →
      (carry service.timing s).1 = .error (.breakdown (.unnamed given)) := by
  have hresult := carry_timing service s
  rw [hspec, hgenesis] at hresult
  rw [hresult]
  refine ⟨fun timing => ?_, fun t ht => ?_, ?_⟩
  · simp only [bind_eq_ok_iff, mapError_eq_ok_iff, Timing.ofNode_eq_ok_iff]
    constructor
    · rintro ⟨c, hc, g, hg, hsupplied⟩
      exact ⟨c, g, hc, hg, hsupplied⟩
    · rintro ⟨c, g, hc, hg, hsupplied⟩
      exact ⟨c, hc, g, hg, hsupplied⟩
  -- One of the two was not fetched, or they were looked into.
  · simp only [bind_eq_error_iff, mapError_eq_error_iff, mapError_eq_ok_iff] at ht
    rcases ht with ⟨_, ⟨fault, -, rfl⟩, rfl⟩ | ⟨c, hc, ⟨_, ⟨fault, -, rfl⟩, rfl⟩ |
      ⟨g, hg, fault, hfault, rfl⟩⟩
    · exact .inl ⟨_, rfl⟩
    · exact .inl ⟨_, rfl⟩
    · refine (Timing.trouble_of_ofNode hfault).imp_right ?_
      rintro ⟨given, hnameless, htrouble⟩
      exact ⟨c, g, given, hc, hg, hnameless, htrouble⟩
  · rintro c g given rfl rfl hnameless
    have hfault := Timing.ofNode_unnamed_iff.mpr hnameless
    exact mapError_eq_error_iff.mpr ⟨_, hfault, rfl⟩

/-- A configuration with a number in place of a numeral, and a genesis with zeros in
    front of its numeral. -/
theorem timing_or_config_zeros :
    let spec : Datum := .record [("SLOTS_PER_EPOCH", .int 32), ("SECONDS_PER_SLOT", .text "12")]
    let genesis : Datum := .record [("genesis_time", .text "007")]
    let node := steady spec genesis ⟨fun _ => .ok none, fun _ => .ok []⟩ []
    let service : Service := ⟨node, .universal, .logAndContinue⟩
    let timing : Timing := ⟨7, 12, 32, by decide, by decide⟩
    (service.node.spec []).result = .ok spec ∧ (service.node.genesis [.spec]).result = .ok genesis ∧
      Timing.Supplied spec genesis timing ∧ (carry service.timing .fresh).1 = .ok timing := by
  intro spec genesis node service timing
  have hspec : (service.node.spec []).result = .ok spec := rfl
  have hgenesis : (service.node.genesis [.spec]).result = .ok genesis := rfl
  have htiming : (carry service.timing .fresh).1 = .ok timing := rfl
  have hways := timing_or_config service .fresh (.ok spec) (.ok genesis) hspec hgenesis
  obtain ⟨c, g, hc, hg, hsupplied⟩ := (hways.1 timing).mp htiming
  obtain rfl := Except.ok.inj hc
  obtain rfl := Except.ok.inj hg
  exact ⟨hspec, hgenesis, hsupplied, htiming⟩

/-- The genesis is `null`. That is no failure to configure but a breakdown. -/
theorem timing_null_genesis :
    let spec : Datum := .record [("SECONDS_PER_SLOT", .text "12"), ("SLOTS_PER_EPOCH", .text "32")]
    let node := steady spec .null ⟨fun _ => .ok none, fun _ => .ok []⟩ []
    let result := (carry (Service.timing ⟨node, .universal, .logAndContinue⟩) .fresh).1
    result = .error (.breakdown (.unnamed .null)) ∧ (∀ timing, result ≠ .ok timing) ∧
      ∀ fault, result ≠ .error (.failure (.config fault)) := by
  intro spec node result
  have hresult : result = .error (.breakdown (.unnamed .null)) := rfl
  rw [hresult]
  simp only [ne_eq, reduceCtorEq, not_false_eq_true, implies_true, Except.error.injEq, and_self]

end Service

end Beacon
