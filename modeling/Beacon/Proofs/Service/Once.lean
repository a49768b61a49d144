import Beacon.Proofs.Service.Changing

/-!
# Runs without a Stream

How a run that does not stream can go, whatever its node does. It begins a session,
fetches one block and, unless it is quiet, writes the block out. `Once` lists the
ways, each with how the run ends, what is asked of the node and what is written.

There is one way in which something is written, and it is the last step of a run
that ends well. All the other ways write nothing, because every step that can fail
stands before the writing.

## Main definitions

* `Once`: How a run without a stream can go.

## Theorems

* `carry_run_once`: A run without a stream goes in one of the ways that are listed.
* `Once.quiet_cases`: A quiet run ends as the fetching of its block does.
-/

namespace Beacon

namespace Service

/-- How a run without a stream can go after some questions: how it ends, what is
    asked on the way, and what is written. -/
inductive Once (service : Service) (request : Request) (asked : List Call) :
    Except Trouble Outcome → List Call → String → Prop
  /-- There is no session. -/
  | unopened {t : Trouble} {opening : List Call}
      (hopen : Opens service request asked (.error t) opening) :
      Once service request asked (.error t) opening ""
  /-- The block cannot be fetched. -/
  | unfetched {session : Session} {t : Trouble} {opening fetching : List Call}
      (hopen : Opens service request asked (.ok session) opening)
      (hfetch : Fetches service session.blockId (!request.quiet) (asked ++ opening) (.error t)
        fetching) :
      Once service request asked (.error t) (opening ++ fetching) ""
  /-- Whether there is a block is all that is wanted. -/
  | told {session : Session} {block? : Option Block} {opening fetching : List Call}
      (hquiet : request.quiet = true) (hopen : Opens service request asked (.ok session) opening)
      (hfetch : Fetches service session.blockId (!request.quiet) (asked ++ opening) (.ok block?)
        fetching) :
      Once service request asked (.ok (if block?.isSome then .present else .absent))
        (opening ++ fetching) ""
  /-- There is no block to write out. -/
  | missing {session : Session} {opening fetching : List Call} (hquiet : request.quiet = false)
      (hopen : Opens service request asked (.ok session) opening)
      (hfetch : Fetches service session.blockId (!request.quiet) (asked ++ opening) (.ok none)
        fetching) :
      Once service request asked (.error (.failure (.empty (some session.blockId))))
        (opening ++ fetching) ""
  /-- The block cannot be rendered. -/
  | unrendered {session : Session} {block : Block} {t : Trouble} {opening fetching : List Call}
      (hquiet : request.quiet = false) (hopen : Opens service request asked (.ok session) opening)
      (hfetch : Fetches service session.blockId (!request.quiet) (asked ++ opening)
        (.ok (some block)) fetching)
      (hrender : (session.renderer service.zone).render block session.mode = .error t) :
      Once service request asked (.error t) (opening ++ fetching) ""
  /-- The block is written out. -/
  | rendered {session : Session} {block : Block} {text : String} {opening fetching : List Call}
      (hquiet : request.quiet = false) (hopen : Opens service request asked (.ok session) opening)
      (hfetch : Fetches service session.blockId (!request.quiet) (asked ++ opening)
        (.ok (some block)) fetching)
      (hrender : (session.renderer service.zone).render block session.mode = .ok text) :
      Once service request asked (.ok .rendered) (opening ++ fetching) text

/-- What writing a block out comes to. -/
theorem carry_write (service : Service) (session : Session) (block : Block) (s : State) :
    ∃ s', carry (service.write session block) s
        = (((session.renderer service.zone).render block session.mode).map fun _ => (), s') ∧
      s'.calls = s.calls ∧
      s'.output = s.output
        ++ (((session.renderer service.zone).render block session.mode).toOption.getD "") := by
  unfold write
  rw [carry_bind, say, carry_modify]
  simp only []
  rw [carry_bind, carry_settle]
  cases (session.renderer service.zone).render block session.mode with
  | error t => exact ⟨_, rfl, rfl, String.append_empty.symm⟩
  | ok text => exact ⟨_, rfl, rfl, rfl⟩

/-- A run without a stream goes in one of the ways that are listed. -/
theorem carry_run_once (service : Service) {request : Request}
    (honce : request.quiet = true ∨ request.stream = false) (s : State) :
    ∃ ended added text s', carry (service.run request) s = (ended, s') ∧
      s'.calls = s.calls ++ added ∧ s'.output = s.output ++ text ∧
      Once service request s.calls ended added text := by
  obtain ⟨opened, opening, s₁, hopened, hopening, hopen⟩ := carry_session service request s
  unfold run
  rw [carry_bind, hopened]
  cases opened with
  | error t =>
      have houtput : s₁.output = s.output ++ "" := by rw [hopening.output, String.append_empty]
      exact ⟨_, _, _, s₁, rfl, hopening.calls, houtput, .unopened hopen⟩
  | ok session =>
      obtain ⟨found, fetching, s₂, hfound, hfetching, hfetch⟩ :=
        carry_fetch service session.blockId (!request.quiet) s₁
      have hasks := hopening.trans hfetching
      have houtput : s₂.output = s.output ++ "" := by rw [hasks.output, String.append_empty]
      rw [hopening.calls] at hfetch
      -- Whether something is to be written is decided when the block is there.
      simp only []
      rw [carry_bind, hfound]
      cases hquiet : request.quiet with
      | true =>
          rcases found with t | block?
          · exact ⟨_, _, _, s₂, rfl, hasks.calls, houtput, .unfetched hopen hfetch⟩
          · exact ⟨_, _, _, s₂, rfl, hasks.calls, houtput, .told hquiet hopen hfetch⟩
      | false =>
          have hstream : request.stream = false := honce.resolve_left (by rw [hquiet]; decide)
          rcases found with t | _ | block
          · exact ⟨_, _, _, s₂, rfl, hasks.calls, houtput, .unfetched hopen hfetch⟩
          · exact ⟨_, _, _, s₂, rfl, hasks.calls, houtput, .missing hquiet hopen hfetch⟩
          · obtain ⟨s₃, hs₃, hcalls, hwritten⟩ := carry_write service session block s₂
            simp only [hstream, Bool.false_eq_true, if_false]
            rw [carry_bind, hs₃]
            rw [hasks.output] at hwritten
            rw [hasks.calls] at hcalls
            cases hrender : (session.renderer service.zone).render block session.mode with
            | error t =>
                rw [hrender] at hwritten
                exact ⟨_, _, _, s₃, rfl, hcalls, hwritten, .unrendered hquiet hopen hfetch hrender⟩
            | ok text =>
                rw [hrender] at hwritten
                exact ⟨_, _, _, s₃, rfl, hcalls, hwritten, .rendered hquiet hopen hfetch hrender⟩

/-- A quiet run begins no session, or it ends as the fetching of its block does.
    Either way it writes nothing. -/
theorem Once.quiet_cases {service : Service} {request : Request} {asked added : List Call}
    {ended : Except Trouble Outcome} {text : String}
    (h : Once service request asked ended added text) (hquiet : request.quiet = true) :
    text = "" ∧ ((∃ t, ended = .error t ∧ Opens service request asked (.error t) added) ∨
      ∃ session found opening fetching, Opens service request asked (.ok session) opening ∧
        Fetches service session.blockId false (asked ++ opening) found fetching ∧
        added = opening ++ fetching ∧
        ended = found.map fun block? => if block?.isSome then .present else .absent) := by
  have hloud (h : request.quiet = false) : False := Bool.false_ne_true (h.symm.trans hquiet)
  have hbare : (!request.quiet) = false := by rw [hquiet, Bool.not_true]
  cases h with
  | unopened hopen => exact ⟨rfl, Or.inl ⟨_, rfl, hopen⟩⟩
  | unfetched hopen hfetch =>
      rw [hbare] at hfetch
      exact ⟨rfl, Or.inr ⟨_, _, _, _, hopen, hfetch, rfl, rfl⟩⟩
  | told _ hopen hfetch =>
      rw [hbare] at hfetch
      exact ⟨rfl, Or.inr ⟨_, _, _, _, hopen, hfetch, rfl, rfl⟩⟩
  -- In the other ways something was to be written.
  | missing hquiet' => exact (hloud hquiet').elim
  | unrendered hquiet' => exact (hloud hquiet').elim
  | rendered hquiet' => exact (hloud hquiet').elim

end Service

end Beacon
