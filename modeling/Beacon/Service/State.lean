import Beacon.Node.Basic

/-!
# The State of a Service

What a service holds while it works, and the steps its work is made of. Every
step may change the state and may end in a trouble, and what it changed stays
changed when it does: calls that were made and text that was written cannot be
taken back.

## Main definitions

* `Service.State`: What a service holds.
* `Service.Act`: A piece of work.
* `Service.ask`, `Service.say`, `Service.emit`: The steps.
-/

namespace Beacon

namespace Service

/-- What a service holds. -/
structure State where
  /-- Whether it waits for events and goes on doing so. -/
  running : Bool
  /-- How many events it has written out, over its whole life. -/
  rendered : Nat
  /-- What it has asked of its node, in order. -/
  calls : List Call
  /-- What it has written. -/
  output : String
  /-- What was said about its work, in order. -/
  logs : List Log.Record
  deriving DecidableEq, Repr

/-- A service that has done nothing yet. -/
def State.fresh : State := ⟨false, 0, [], "", []⟩

/-- A piece of work. It ends in a result or in a trouble, and either way in the
    state it has reached. -/
abbrev Act : Type → Type := ExceptT Trouble (StateM State)

/-- The work that only has a result. -/
def settle {α : Type} : Except Trouble α → Act α
  | .ok a => pure a
  | .error t => throw t

/-- Says something about the work. -/
def say (records : List Log.Record) : Act Unit :=
  modify fun s => { s with logs := s.logs ++ records }

/-- Writes a text. -/
def emit (text : String) : Act Unit := modify fun s => { s with output := s.output ++ text }

/-- Notes something that passes between the service and its node. -/
def note (call : Call) : Act Unit := modify fun s => { s with calls := s.calls ++ [call] }

/-- Sets whether the service waits for events. -/
def setRunning (running : Bool) : Act Unit := modify fun s => { s with running := running }

/-- Signals the service to stop: an event that arrives from now on is not
    handled any more. -/
def stop : Act Unit := setRunning false

/-- Asks the node something, the answer depending on all that was asked before.
    Whoever stops the service while it waits does stop it. -/
def ask {α : Type} (call : Call) (answer : List Call → Reply α) : Act α := do
  let reply := answer (← get).calls
  note call
  say reply.logs
  if reply.stops then stop
  settle reply.result

/-- Turns a failure to fetch into another failure. -/
def onFetchFault {α : Type} (act : Act α) (wrap : FetchFault → Failure) : Act α :=
  tryCatch act fun
    | .failure (.fetch fault) => throw (.failure (wrap fault))
    | t => throw t

end Service

end Beacon
