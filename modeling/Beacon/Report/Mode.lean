/-!
# Output Modes

The three ways to write a block out, of which exactly one applies. JSON wins
over the binary form when both are asked for, and the report for people is what
is written when neither is.

Reports on a stream are followed by an empty line, because a report has many
lines; the other two forms have exactly one.
-/

namespace Beacon

/-- A way to write a block out. -/
inductive Mode
  /-- One line of JSON in the form of the node API. -/
  | json
  /-- One line of hex of the block's encoding. -/
  | ssz
  /-- A report for people. -/
  | text
  deriving DecidableEq, Repr

namespace Mode

/-- The name of a mode. -/
def name : Mode → String
  | .json => "json"
  | .ssz => "ssz"
  | .text => "text"

/-- The mode that is asked for. -/
def ofFlags (json ssz : Bool) : Mode :=
  if json then .json else if ssz then .ssz else .text

/-- Whether a streamed block is followed by an empty line. -/
def separates (m : Mode) : Bool := m = .text

end Mode

end Beacon
