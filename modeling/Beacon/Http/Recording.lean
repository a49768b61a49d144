import Beacon.Datum.Writer
import Beacon.Http.Exchange

/-!
# Recorded Nodes

A node whose responses were laid down beforehand. For each path, escapes being
resolved, there are one or more of them, which are used in turn; the last one
is used again and again. At every other path there is nothing.

A recording is itself data. Under its path stands a response or a list of them,
and a response is a record of a status, which is success unless it is given,
and a body: as JSON under `json`, as text or bytes under `body`, or in pieces
under `chunks`. A record with `raise` and `message` stands for a fault, either
instead of a response or instead of the rest of its body.

## Main definitions

* `Recording`: Responses by path.
* `Recording.transport`: The node that a recording stands for.
* `Recording.read`: A recording from data.
-/

namespace Beacon

namespace Http

/-- Responses by path. -/
abbrev Recording := List (Text × List (Except Fault Response))

namespace Recording

/-- What is answered where nothing was recorded. -/
def nothing : Response := ⟨404, Utf8.encode "not found", none⟩

/-- The response to a request, `count` requests for the same path having gone
    before. -/
def respond (count : Nat) (responses : List (Except Fault Response)) : Except Fault Response :=
  match responses.drop count with
  | response :: _ => response
  | [] => responses.getLast?.getD (.ok nothing)

/-- The node that a recording stands for. -/
def transport (recording : Recording) : Transport := fun before request =>
  let place := request.url.place
  respond (before.countP fun r => r.url.place = place) ((recording.lookup ↑place).getD [])

/-- The bytes of a text or of bytes. -/
def content : Datum → Bytes
  | .text t => Utf8.encode t.legible
  | .bytes bs => bs
  | _ => []

/-- The text of a field, or nothing. -/
def textOf (name : String) (d : Datum) : Text :=
  match d.field? name with
  | some (.text t) => t
  | _ => []

/-- The fault that a record stands for, if it does. -/
def fault? (d : Datum) : Option Fault :=
  match d.field? "raise" with
  | some (.text name) => some (.ofName name.legible (textOf "message" d))
  | _ => none

/-- The bytes of pieces of a body up to the first fault, and that fault. -/
def ofPieces : List Datum → Bytes × Option Fault
  | [] => ([], none)
  | piece :: rest => match fault? piece with
    | some fault => ([], some fault)
    | none =>
      let (bs, fault) := ofPieces rest
      (content piece ++ bs, fault)

/-- The body that a record describes. -/
def bodyOf (d : Datum) : Bytes × Option Fault :=
  match d.field? "json", d.field? "chunks" with
  | some json, _ => (Utf8.encode json.compact, none)
  | none, some chunks => ofPieces (chunks.items?.getD [])
  | none, none => (content ((d.field? "body").getD .null), none)

/-- The response that a record describes. -/
def responseOf (d : Datum) : Except Fault Response :=
  match fault? d with
  | some fault => .error fault
  | none =>
    let (body, broken) := bodyOf d
    .ok ⟨match d.field? "status" with
      | some (.int n) => n.toNat
      | _ => 200, body, broken⟩

/-- A recording from data. -/
def read : Datum → Recording
  | .record fields => fields.map fun (path, d) => (path, match d with
    | .list responses => responses.map responseOf
    | d => [responseOf d])
  | _ => []

end Recording

end Http

end Beacon
