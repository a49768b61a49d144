import Beacon.Service.State

/-!
# What Work Adds

A piece of work only ever adds to what a service holds: calls, text, events that
were written out, and things that were said. Against a node that never changes,
what it adds does not even depend on what is held already. Such work is described
by how it ends and by its `Effect`, and the description of a whole is put
together from the descriptions of its steps, with the state nowhere in sight.

Of what is said only the warnings of the service itself are part of an effect.
They are what a user is told about events that could not be written out, while
the rest is for those who look into the program's work.

Whether the service is running is the one thing that work reads back. A
description is therefore made for one of the two cases, and effects leave it as
it is; the few steps that change it are not described but carried out.

## Main definitions

* `Quiet`: Nothing that is said is a warning of the service itself.
* `Effect`: What work adds.
* `Effect.Leads`: Two states between which an effect makes the difference.
* `Does`: How work ends, and what it adds.

## Theorems

* `Effect.Leads.trans`: Effects add up along a chain of states.
* `does_bind`, `does_bind_error`: Two steps one after the other.
* `does_catch`, `does_catch_error`: A step whose trouble is caught.
* `does_ask`: A question to the node.
-/

namespace Beacon

namespace Service

/-- Whether a record is a warning of the service itself. -/
def isOwnWarning (r : Log.Record) : Bool := r.source = .service && r.level = .warning

/-- No record is a warning of the service itself. -/
def Quiet (records : List Log.Record) : Prop := ∀ r ∈ records, isOwnWarning r = false

theorem quiet_nil : Quiet [] := fun _ hr => absurd hr List.not_mem_nil

theorem quiet_singleton {r : Log.Record} (h : isOwnWarning r = false) : Quiet [r] := by
  intro r' hr'
  rw [List.mem_singleton.mp hr']
  exact h

/-- The warnings that a service has given. -/
def State.warnings (s : State) : List Log.Record := s.logs.filter isOwnWarning

/-- What a piece of work adds to what a service holds. -/
structure Effect where
  /-- What is asked of the node. -/
  calls : List Call
  /-- What is written. -/
  output : String
  /-- How many events are written out. -/
  rendered : Nat
  /-- The warnings that are given. -/
  warnings : List Log.Record
  deriving DecidableEq, Repr

namespace Effect

/-- Nothing is added. -/
def nothing : Effect := ⟨[], "", 0, []⟩

/-- One effect and then another. -/
def andThen (e f : Effect) : Effect :=
  ⟨e.calls ++ f.calls, e.output ++ f.output, e.rendered + f.rendered, e.warnings ++ f.warnings⟩

/-- Effects one after the other. -/
def inTurn : List Effect → Effect
  | [] => nothing
  | e :: rest => e.andThen (inTurn rest)

/-- The node is asked. -/
def ofCalls (calls : List Call) : Effect := { nothing with calls := calls }

/-- A text is written. -/
def ofOutput (text : String) : Effect := { nothing with output := text }

/-- Of what is said, the warnings of the service are given. -/
def ofLogs (records : List Log.Record) : Effect :=
  { nothing with warnings := records.filter isOwnWarning }

/-- An effect makes the difference between two states. -/
structure Leads (e : Effect) (s s' : State) : Prop where
  running : s'.running = s.running
  calls : s'.calls = s.calls ++ e.calls
  output : s'.output = s.output ++ e.output
  rendered : s'.rendered = s.rendered + e.rendered
  warnings : s'.warnings = s.warnings ++ e.warnings

theorem nothing_andThen (e : Effect) : nothing.andThen e = e := by
  simp only [nothing, andThen, List.nil_append, String.empty_append, Nat.zero_add]

theorem andThen_nothing (e : Effect) : e.andThen nothing = e := by
  simp only [nothing, andThen, List.append_nil, String.append_empty, Nat.add_zero]

theorem andThen_assoc (e f g : Effect) : (e.andThen f).andThen g = e.andThen (f.andThen g) := by
  simp only [andThen, List.append_assoc, String.append_assoc, Nat.add_assoc]

theorem ofCalls_append (calls more : List Call) :
    ofCalls (calls ++ more) = (ofCalls calls).andThen (ofCalls more) := by
  simp only [ofCalls, nothing, andThen, List.append_nil, String.append_empty, Nat.add_zero]

theorem ofOutput_append (text more : String) :
    ofOutput (text ++ more) = (ofOutput text).andThen (ofOutput more) := by
  simp only [ofOutput, nothing, andThen, List.append_nil, Nat.add_zero]

theorem leads_nothing (s : State) : nothing.Leads s s where
  running := rfl
  calls := (List.append_nil _).symm
  output := String.append_empty.symm
  rendered := rfl
  warnings := (List.append_nil _).symm

/-- Effects add up along a chain of states. -/
theorem Leads.trans {e f : Effect} {s t u : State} (hst : e.Leads s t) (htu : f.Leads t u) :
    (e.andThen f).Leads s u where
  running := htu.running.trans hst.running
  calls := by rw [htu.calls, hst.calls, andThen, List.append_assoc]
  output := by rw [htu.output, hst.output, andThen, String.append_assoc]
  rendered := by rw [htu.rendered, hst.rendered, andThen, Nat.add_assoc]
  warnings := by rw [htu.warnings, hst.warnings, andThen, List.append_assoc]

/-- An effect has nothing to do with whether the service is running. -/
theorem Leads.atRest {e : Effect} {s s' : State} (h : e.Leads s s') :
    e.Leads { s with running := false } { s' with running := false } where
  running := rfl
  calls := h.calls
  output := h.output
  rendered := h.rendered
  warnings := h.warnings

end Effect

open Effect

/-- A piece of work that is begun in a state. -/
def carry {α : Type} (act : Act α) (s : State) : Except Trouble α × State := act.run.run s

variable {α β : Type} {running : Bool}

/-- Whenever work is begun with the service running or not, as is said, it ends
    in a certain way and adds a certain effect. -/
def Does (running : Bool) (act : Act α) (result : Except Trouble α) (e : Effect) : Prop :=
  ∀ s : State, s.running = running → ∃ s', carry act s = (result, s') ∧ e.Leads s s'

/-! ### Carrying out a step -/

theorem carry_bind (act : Act α) (next : α → Act β) (s : State) :
    carry (act >>= next) s = match carry act s with
      | (.ok a, s') => carry (next a) s'
      | (.error t, s') => (.error t, s') := by
  unfold carry
  simp only [bind, ExceptT.bind, ExceptT.mk, ExceptT.run, StateT.run, StateT.bind]
  rcases act s with ⟨_ | _, s'⟩ <;> rfl

theorem carry_tryCatch (act : Act α) (rescue : Trouble → Act α) (s : State) :
    carry (tryCatch act rescue) s = match carry act s with
      | (.ok a, s') => (.ok a, s')
      | (.error t, s') => carry (rescue t) s' := by
  unfold carry
  simp only [tryCatch, tryCatchThe, MonadExceptOf.tryCatch, ExceptT.tryCatch, ExceptT.mk,
    ExceptT.run, StateT.run, bind, StateT.bind]
  rcases act s with ⟨_ | _, s'⟩ <;> rfl

/-! ### Describing two steps -/

theorem does_pure (a : α) : Does running (pure a) (.ok a) nothing :=
  fun s _ => ⟨s, rfl, leads_nothing s⟩

theorem does_throw (t : Trouble) : Does running (throw t : Act α) (.error t) nothing :=
  fun s _ => ⟨s, rfl, leads_nothing s⟩

theorem does_settle (result : Except Trouble α) : Does running (settle result) result nothing := by
  cases result with
  | error t => exact does_throw t
  | ok a => exact does_pure a

/-- A step that succeeds is followed by the next one. -/
theorem does_bind {act : Act α} {next : α → Act β} {a : α} {result : Except Trouble β}
    {e f : Effect} (hact : Does running act (.ok a) e) (hnext : Does running (next a) result f) :
    Does running (act >>= next) result (e.andThen f) := by
  intro s hs
  obtain ⟨t, ht, hst⟩ := hact s hs
  obtain ⟨u, hu, htu⟩ := hnext t (hst.running.trans hs)
  refine ⟨u, ?_, hst.trans htu⟩
  rw [carry_bind, ht]
  exact hu

/-- A step that adds nothing leaves it to the next one. -/
theorem does_bind_quiet {act : Act α} {next : α → Act β} {a : α} {result : Except Trouble β}
    {e : Effect} (hact : Does running act (.ok a) nothing)
    (hnext : Does running (next a) result e) : Does running (act >>= next) result e := by
  rw [← nothing_andThen e]
  exact does_bind hact hnext

/-- A step that ends in a trouble is not followed by the next one. -/
theorem does_bind_error {act : Act α} {next : α → Act β} {t : Trouble} {e : Effect}
    (hact : Does running act (.error t) e) : Does running (act >>= next) (.error t) e := by
  intro s hs
  obtain ⟨s', hs', hlead⟩ := hact s hs
  refine ⟨s', ?_, hlead⟩
  rw [carry_bind, hs']

/-- Nothing is caught of a step that succeeds. -/
theorem does_catch {act : Act α} {rescue : Trouble → Act α} {a : α} {e : Effect}
    (hact : Does running act (.ok a) e) : Does running (tryCatch act rescue) (.ok a) e := by
  intro s hs
  obtain ⟨s', hs', hlead⟩ := hact s hs
  refine ⟨s', ?_, hlead⟩
  rw [carry_tryCatch, hs']

/-- What a step adds before it ends in a trouble stays when the trouble is
    caught. -/
theorem does_catch_error {act : Act α} {rescue : Trouble → Act α} {t : Trouble}
    {result : Except Trouble α} {e f : Effect} (hact : Does running act (.error t) e)
    (hrescue : Does running (rescue t) result f) :
    Does running (tryCatch act rescue) result (e.andThen f) := by
  intro s hs
  obtain ⟨u, hu, hsu⟩ := hact s hs
  obtain ⟨v, hv, huv⟩ := hrescue u (hsu.running.trans hs)
  refine ⟨v, ?_, hsu.trans huv⟩
  rw [carry_tryCatch, hu]
  exact hv

/-! ### Describing the steps -/

theorem does_say (records : List Log.Record) :
    Does running (say records) (.ok ()) (ofLogs records) := by
  intro s _
  refine ⟨_, rfl, ⟨rfl, (List.append_nil _).symm, String.append_empty.symm, rfl, ?_⟩⟩
  exact List.filter_append s.logs records

/-- Saying something without a warning adds nothing. -/
theorem does_say_quiet {records : List Log.Record} (h : Quiet records) :
    Does running (say records) (.ok ()) nothing := by
  have hnone : records.filter isOwnWarning = [] := by
    rw [List.filter_eq_nil_iff]
    intro r hr
    rw [h r hr]
    exact Bool.false_ne_true
  have hsay : Does running (say records) (.ok ()) (ofLogs records) := does_say records
  rw [ofLogs, hnone] at hsay
  exact hsay

theorem does_emit (text : String) : Does running (emit text) (.ok ()) (ofOutput text) :=
  fun _ _ => ⟨_, rfl, ⟨rfl, (List.append_nil _).symm, rfl, rfl, (List.append_nil _).symm⟩⟩

theorem does_note (call : Call) : Does running (note call) (.ok ()) (ofCalls [call]) :=
  fun _ _ => ⟨_, rfl, ⟨rfl, rfl, String.append_empty.symm, rfl, (List.append_nil _).symm⟩⟩

/-- Work may look at the state it is begun in. -/
theorem does_get {next : State → Act α} {result : Except Trouble α} {e : Effect}
    (h : ∀ s : State, s.running = running → Does running (next s) result e) :
    Does running (get >>= next) result e := by
  intro s hs
  obtain ⟨s', hs', hlead⟩ := h s hs s hs
  refine ⟨s', ?_, hlead⟩
  rw [carry_bind]
  exact hs'

/-- A reply holds a result, does not stop the service and is not got with
    warnings of the service. -/
structure Gives (reply : Reply α) (result : Except Trouble α) : Prop where
  result : reply.result = result
  stops : reply.stops = false
  quiet : Quiet reply.logs

/-- A question that always has the same answer is answered, and noted. -/
theorem does_ask {call : Call} {answer : List Call → Reply α} {result : Except Trouble α}
    (h : ∀ before, Gives (answer before) result) :
    Does running (ask call answer) result (ofCalls [call]) := by
  rw [← andThen_nothing (ofCalls [call])]
  unfold ask
  refine does_get fun s _ => ?_
  obtain ⟨hresult, hstops, hquiet⟩ := h s.calls
  simp only [hresult, hstops]
  refine does_bind (does_note call) (does_bind_quiet (does_say_quiet hquiet) ?_)
  exact does_settle result

end Service

end Beacon
