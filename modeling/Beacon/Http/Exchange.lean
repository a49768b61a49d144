import Beacon.Failure.Kind
import Beacon.Http.Url

/-!
# Requests and Responses

One exchange with a node over HTTP. A request reads something at a location and
says which kind of answer it can use. A response has a status and a body; it is
the same whether the body came in one piece or in many, except that the last
piece may never come. A transport may also give no response at all.

Responses have no headers here. What a header could change is how a body is turned
into text, by the charset that it names, and bodies are read as UTF-8: that is the
charset of JSON and of a stream of events. A response that names another charset, or
one that nobody knows, is outside of what is described.

A node changes while it is asked, so a transport is a function of the requests
that were sent before.

## Main definitions

* `Http.Request`, `Http.Response`: What is sent and what comes back.
* `Http.Fault`: Why a response is missing or cut off.
* `Http.Transport`: The responses of a node.
-/

namespace Beacon

namespace Http

/-- A request to read what is at a location. -/
structure Request where
  /-- The location. -/
  url : Url
  /-- The kind of answer that can be used. -/
  accept : String
  deriving DecidableEq, Repr

/-- The method of every request. -/
def Request.method : String := "GET"

/-- Why a response is missing or cut off. -/
inductive Fault
  /-- The network failed, with this message. -/
  | network (message : Text)
  /-- Something else failed. -/
  | other (kind : Kind) (message : Text)
  /-- Someone interrupted the program. -/
  | interrupted
  deriving DecidableEq, Repr

/-- The fault of a name with a message. -/
def Fault.ofName (name : String) (message : Text) : Fault :=
  match Kind.ofName name with
  | .interrupt => .interrupted
  | .location => .other .location message
  | _ => .network message

/-- What comes back, without its headers. -/
structure Response where
  /-- The status. -/
  status : Nat
  /-- The body, as far as it came. -/
  body : Bytes
  /-- Why the body is cut off, if it is. -/
  broken : Option Fault
  deriving DecidableEq, Repr

namespace Response

/-- Whether a status means success. -/
def isSuccess (r : Response) : Bool := 200 ≤ r.status && r.status < 300

/-- Whether a status means an error. -/
def isError (r : Response) : Bool := 400 ≤ r.status && r.status < 600

/-- Whether a status means that there is nothing at the location. -/
def isAbsent (r : Response) : Bool := r.status = 404

end Response

/-- The responses of a node, each a function of the requests before. -/
abbrev Transport := List Request → Request → Except Fault Response

end Http

end Beacon
