import Beacon.Command.Options
import Beacon.Log.Line
import Beacon.Node.Client
import Beacon.Service.Stream

/-!
# Runs of the Command

What the command does: it makes a request of its options, asks the node that
they name, and writes what the service writes. How that ends is its status. A
block that is not there has a status of its own, so that a script can ask
whether there is one; an interruption is a normal end, since nothing else ends
a stream.

A failure has a text for the user, which a quiet run withholds. A breakdown has
no status: it ends the program as it is.

## Main definitions

* `Command.Result`: What a run comes to.
* `Command.run`: The run of options against a node.
* `Command.Result.errors`: What the user is told beside the output.
-/

namespace Beacon

namespace Command

/-- The name of the command. -/
def name : String := "blockinfo"

/-- The status of success. -/
def success : Nat := 0

/-- The status of a block that is not there. -/
def absence : Nat := 1

/-- The status of every other failure. -/
def failure : Nat := 2

/-- What a run comes to. -/
structure Result where
  /-- The status, or the breakdown in its place. -/
  status : Except Breakdown Nat
  /-- What was written. -/
  output : String
  /-- What was said about the work, in order. -/
  logs : List Log.Record
  /-- What the user is told in the end, if anything. -/
  complaint : Option Text
  /-- The connection that was opened, if one was. -/
  opened : Option Connection
  /-- The requests that were sent, in order. -/
  requests : List Http.Request

/-- The status that an end of a run has. -/
def statusOf : Except Trouble Outcome → Except Breakdown Nat
  | .ok .absent => .ok absence
  | .ok _ => .ok success
  | .error (.failure f) => .ok (if f.kind.isA .empty then absence else failure)
  | .error (.breakdown b) => if b.kind = .interrupt then .ok success else .error b

/-- What the user is told about an end of a run. -/
def complaintOf : Except Trouble Outcome → Option Text
  | .error (.failure f) => some f.message
  | _ => none

/-- What is said about an end of a run. -/
def remarksOf : Except Trouble Outcome → List Log.Record
  | .error (.breakdown b) =>
    if b.kind = .interrupt then [Log.info .command "Shutting down..."] else []
  | _ => []

/-- The client for a connection. -/
def Connection.client (connection : Connection) (transport : Http.Transport) :
    Except UrlFault Client := Client.make connection.address transport

/-- The result of a run that ended before it asked anything. -/
def Result.early (o : Options) (trouble : Trouble) (opened : Option Connection) : Result where
  status := statusOf (.error trouble)
  output := ""
  logs := []
  complaint := if o.quiet then none else complaintOf (.error trouble)
  opened := opened
  requests := []

/-- The result of a run whose service ended in a state. -/
def Result.late (o : Options) (client : Client) (ended : Except Trouble Outcome)
    (state : Service.State) : Result where
  status := statusOf ended
  output := state.output
  logs := state.logs ++ remarksOf ended
  complaint := if o.quiet then none else complaintOf ended
  opened := some o.connection
  requests := client.requests state.calls

/-- The run of options against the node that a transport reaches, the local
    zone being `zone`. -/
def run (o : Options) (zone : Zone) (transport : Http.Transport) : Result :=
  match o.request with
  | .error fault => .early o (.failure (.usage fault)) none
  | .ok request => match o.connection.client transport with
    | .error fault => .early o (.breakdown (.location fault)) (some o.connection)
    | .ok client =>
      let service : Service := ⟨client.node, zone, .logAndContinue⟩
      let (ended, state) := (service.run request).run.run Service.State.fresh
      .late o client ended state

/-- The lines for the user beside the output: the log from the level on that
    the options ask for, and the complaint. Every record was made at the same
    time. -/
def Result.errors (o : Options) (time : String) (r : Result) : List Text :=
  (Log.atLeast o.level r.logs).map (fun record => record.line o.color time)
    ++ r.complaint.toList

/-- The last line that a refused command line is answered with. -/
def Refusal.line (refusal : Refusal) : Text := s!"{name}: error: " ++ refusal.message

end Command

end Beacon
