import Beacon.Chain.Timing
import Beacon.Datum.Reader
import Beacon.Datum.Shown
import Beacon.Failure.Kind
import Beacon.Http.Url
import Beacon.Time.Expression

/-!
# Failures of the Tool

What can go wrong between a request and its output. A `Failure` is foreseen: it
has a text for the user, and a stream goes on after it. A `Breakdown` is
anything else that ends an activity, and it is not handled on the way: a fault
of a value that nothing turned into a failure, a time that no clock shows, an
interruption from outside. A `Trouble` is either.

Where a message reports the problems of a record, the problems are handed over
beside the message, and in the message a word stands for them; the same holds
for the complaints of the JSON reader.

## Main definitions

* `Failure`, `Breakdown`, `Trouble`: What goes wrong.
* `Trouble.kind`, `Trouble.message`, `Trouble.particulars`, `Trouble.details`:
  What is reported about it.
-/

namespace Beacon

/-- What is wrong with a request. -/
inductive UsageFault
  /-- It names no block, neither by identifier nor by time. -/
  | nothingNamed
  /-- It names a block in both ways. -/
  | bothNamed
  deriving DecidableEq, Repr

/-- The text of a fault. -/
def UsageFault.message : UsageFault → String
  | .nothingNamed => "no block ID or block time"
  | .bothNamed => "only one of block ID and block time may be given"

/-- What stands in a message for the problems of a record. -/
def problemsWord : String := "<validation>"

/-- What stands in a message for the complaint of the JSON reader. -/
def jsonWord : String := "<json>"

/-- Why the timing of a network could not be had. -/
inductive ConfigFault
  /-- A request for the named information failed, with this message. -/
  | unreachable (information : String) (message : Text)
  /-- A name is not there. -/
  | lacks (key : String)
  /-- The values were refused. -/
  | invalid (details : List Detail)
  /-- Something with a text of its own. -/
  | stated (message : Text)
  deriving DecidableEq, Repr

/-- The text of a fault. -/
def ConfigFault.message : ConfigFault → Text
  | .unreachable information message =>
    s!"failed to connect to obtain {information} information: " ++ message
  | .lacks key => s!"beacon node configuration lacks {key}"
  | .invalid _ => s!"invalid beacon node configuration: {problemsWord}"
  | .stated message => message

/-- Why a request to the node failed, or why its answer cannot be used. -/
inductive FetchFault
  /-- The node could not be reached at a location. -/
  | network (url message : Text)
  /-- The node answered with a status that is no success. -/
  | status (code : Nat) (text : Text)
  /-- The answer is not JSON. -/
  | notJson (path : Text)
  /-- The answer has no data. -/
  | noData (path : Text)
  /-- The answer names no fork. -/
  | noVersion (path : Text)
  /-- The data is no block of its fork. -/
  | block (version path : Text) (fault : Fault)
  /-- The data is no list of sidecars. -/
  | sidecars (path : Text) (fault : Fault)
  /-- A subscription was answered with an error status. -/
  | subscription (code : Nat) (topics : Text)
  /-- A subscription broke. -/
  | broken (message : Text)
  /-- The sidecars of a block could not be fetched. -/
  | blobs (message : Text)
  /-- The data of a head event was refused. -/
  | headEvent (details : List Detail)
  /-- Something with a text of its own. -/
  | stated (message : Text)
  deriving DecidableEq, Repr

/-- The text of a fault inside a longer message. -/
def Fault.inner : Fault → Text
  | .invalid _ => problemsWord
  | fault => fault.message

/-- The problems that were found with a record, if that is what a fault is. -/
def Fault.problems : Fault → List Detail
  | .invalid details => details
  | _ => []

namespace FetchFault

/-- The text of a fault. -/
def message : FetchFault → Text
  | .network url message => "Network error while connecting to " ++ url ++ ": " ++ message
  | .status code text => s!"HTTP error {code}: " ++ text
  | .notJson path => "Invalid JSON from " ++ path ++ ": " ++ jsonWord
  | .noData path => "Response from " ++ path ++ " has no data field"
  | .noVersion path => "Response from " ++ path ++ " has no version field"
  | .block version path fault =>
    "Invalid " ++ version ++ " block from " ++ path ++ ": " ++ fault.inner
  | .sidecars path fault => "Invalid blob sidecars from " ++ path ++ ": " ++ fault.inner
  | .subscription code topics => s!"HTTP error {code} subscribing to " ++ topics
  | .broken message => "Event stream failed: " ++ message
  | .blobs message => "failed to obtain blobs: " ++ message
  | .headEvent _ => s!"invalid head event: {problemsWord}"
  | .stated message => message

/-- The problems of a record that a fault reports. -/
def details : FetchFault → List Detail
  | .block _ _ fault => fault.problems
  | .sidecars _ fault => fault.problems
  | .headEvent details => details
  | _ => []

end FetchFault

/-- A failure that the tool foresees. -/
inductive Failure
  | usage (fault : UsageFault)
  | config (fault : ConfigFault)
  /-- A time expression is not of the form it was taken to be of. -/
  | parse (form expression : Text)
  | fetch (fault : FetchFault)
  /-- There is no block of this identifier. -/
  | empty (blockId : Option Text)
  /-- A block has no encoding. -/
  | encode (fault : Fault)
  /-- An output mode is not offered for a fork. -/
  | unsupported (version mode : Text)
  /-- A fork of this name is not known. -/
  | unknownVersion (version : Datum)
  /-- Something of a kind with a text of its own. -/
  | stated (kind : Kind) (message : Text)
  deriving Repr

namespace Failure

/-- The kind of a failure. -/
def kind : Failure → Kind
  | .usage _ => .usage
  | .config _ => .config
  | .parse _ _ => .parse
  | .fetch _ => .fetch
  | .empty _ => .empty
  | .encode _ => .encode
  | .unsupported _ _ => .unsupported
  | .unknownVersion _ => .unknownVersion
  | .stated kind _ => kind

/-- The text of a failure. -/
def message : Failure → Text
  | .usage fault => fault.message
  | .config fault => fault.message
  | .parse form expression =>
    "failed to parse block time as " ++ form ++ ": " ++ Quoted.text expression
  | .fetch fault => fault.message
  | .empty _ => "empty beacon block"
  | .encode fault => "failed to generate SSZ: " ++ fault.message
  | .unsupported version mode => mode ++ " output is not supported for " ++ version ++ " blocks"
  | .unknownVersion version => s!"unknown block version {version.shown}"
  | .stated _ message => message

/-- The particulars of a failure by name. -/
def particulars : Failure → List (Text × Datum)
  | .parse form expression => [("form", .text form), ("value", .text expression)]
  | .empty blockId => [("block_id", blockId.elim .null .text)]
  | .unsupported version mode => [("version", .text version), ("mode", .text mode)]
  | .unknownVersion version => [("version", version)]
  | _ => []

/-- The problems of a record that a failure reports. -/
def details : Failure → List Detail
  | .config (.invalid details) => details
  | .fetch fault => fault.details
  | _ => []

end Failure

/-- What ends an activity without being foreseen. -/
inductive Breakdown
  /-- A fault of a value. -/
  | fault (fault : Fault)
  /-- A fault of a root. -/
  | root (fault : RootFault)
  /-- A time that no clock shows. -/
  | clock (fault : ClockFault)
  /-- A numeral with more digits than are read. -/
  | digits (count : Nat)
  /-- JSON is nested too deep. -/
  | nesting (opened : Nesting)
  /-- A name was looked up in a value that has no names. -/
  | unnamed (given : Datum)
  /-- A text is no location. -/
  | location (fault : UrlFault)
  /-- Someone interrupted the program. -/
  | interrupted
  /-- Something of a kind with a text of its own. -/
  | stated (kind : Kind) (message : Text)
  deriving Repr

namespace Breakdown

/-- The kind of a breakdown. -/
def kind : Breakdown → Kind
  | .fault f => f.kind
  | .root f => f.kind
  | .clock .outOfRange => .overflow
  | .clock .yearTooWide => .system
  | .clock (.yearOutOfRange _) => .value
  | .digits _ => .value
  | .nesting _ => .nesting
  | .unnamed _ => .type
  | .location f => f.kind
  | .interrupted => .interrupt
  | .stated kind _ => kind

/-- The text of a breakdown. -/
def message : Breakdown → Text
  | .fault f => f.message
  | .root f => f.message
  | .clock f => f.message
  | .digits count => (Cause.tooManyDigits count).message
  | .nesting opened =>
    "maximum recursion depth exceeded while decoding a JSON "
      ++ s!"{opened.name} from a unicode string"
  | .unnamed (.list _) => "list indices must be integers or slices, not str"
  | .unnamed (.tuple _) => "tuple indices must be integers or slices, not str"
  | .unnamed (.bytes _) => "byte indices must be integers or slices, not str"
  | .unnamed (.text _) => "string indices must be integers, not 'str'"
  | .unnamed d => s!"'{d.kind}' object is not subscriptable"
  | .location f => f.message
  | .interrupted => ""
  | .stated _ message => message

/-- The particulars of a breakdown by name. -/
def particulars : Breakdown → List (Text × Datum)
  | .fault f => f.particulars
  | .root (.encoding f) => f.particulars
  | _ => []

/-- The problems of a record that a breakdown reports. -/
def details : Breakdown → List Detail
  | .fault f => f.details
  | .root (.encoding f) => f.details
  | _ => []

end Breakdown

/-- Anything that ends an activity. -/
inductive Trouble
  | failure (f : Failure)
  | breakdown (b : Breakdown)
  deriving Repr

namespace Trouble

/-- The kind of a trouble. -/
def kind : Trouble → Kind
  | .failure f => f.kind
  | .breakdown b => b.kind

/-- The text of a trouble. -/
def message : Trouble → Text
  | .failure f => f.message
  | .breakdown b => b.message

/-- The particulars of a trouble by name. -/
def particulars : Trouble → List (Text × Datum)
  | .failure f => f.particulars
  | .breakdown b => b.particulars

/-- The problems of a record that a trouble reports. -/
def details : Trouble → List Detail
  | .failure f => f.details
  | .breakdown b => b.details

end Trouble

/-- The trouble with a text that names no moment. -/
def TimeFault.trouble : TimeFault → Trouble
  | .unreadable form expression => .failure (.parse form.name expression)
  | .tooManyDigits count => .breakdown (.digits count)

/-- The trouble with a node's answers that give no timing. -/
def TimingFault.trouble : TimingFault → Trouble
  | .lacks key => .failure (.config (.lacks key))
  | .invalid details => .failure (.config (.invalid details))
  | .unnamed given => .breakdown (.unnamed given)

end Beacon
