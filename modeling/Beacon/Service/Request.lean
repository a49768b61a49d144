import Beacon.Failure.Basic
import Beacon.Report.Mode

/-!
# Requests

What a caller asks for: one block, named either by an identifier or by a time,
and what is to be done with it. Naming it in neither way or in both ways is
refused when the request is made, so that a request that exists always names
one block in one way. An empty text names nothing.

## Main definitions

* `Target`: What names the block.
* `Request`: What is asked for.
* `Request.make`: A request from what a caller gave.
-/

namespace Beacon

/-- What names the block that is asked for. -/
inductive Target
  /-- A slot number, a root, or a name such as `head`. -/
  | identifier (blockId : Text)
  /-- A time expression, whose slot is the one that is asked for. -/
  | moment (expression : Text)
  deriving DecidableEq, Repr

/-- What a caller asks for. -/
structure Request where
  /-- What names the block. -/
  target : Target
  /-- Whether JSON is asked for. -/
  json : Bool
  /-- Whether the binary form is asked for. -/
  ssz : Bool
  /-- Whether every new head is to be written out after the block. -/
  stream : Bool
  /-- Whether the block is only looked for and not written out. -/
  quiet : Bool
  /-- Whether reports go into detail. -/
  verbose : Bool
  deriving DecidableEq, Repr

/-- A text that was given and is not empty. -/
def Target.given (text : Option Text) : Option Text := text.filter fun t => !t.isEmpty

/-- What names the block, from the two ways in which a caller may name it. -/
def Target.make (blockId blockTime : Option Text) : Except UsageFault Target :=
  match given blockId, given blockTime with
  | none, none => .error .nothingNamed
  | some blockId, none => .ok (.identifier blockId)
  | none, some expression => .ok (.moment expression)
  | some _, some _ => .error .bothNamed

namespace Request

/-- A request from what a caller gave. -/
def make (blockId blockTime : Option Text) (json ssz stream quiet verbose : Bool) :
    Except UsageFault Request :=
  (Target.make blockId blockTime).map fun target => ⟨target, json, ssz, stream, quiet, verbose⟩

/-- The output mode that is asked for. -/
def mode (r : Request) : Mode := Mode.ofFlags r.json r.ssz

end Request

end Beacon
