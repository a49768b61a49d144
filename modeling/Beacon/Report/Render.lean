import Beacon.Report.Mode
import Beacon.Report.Text

/-!
# Rendering

A block written out in a mode, as one complete text that ends in a newline. A
block of the genesis fork has no binary form.

A block that has no encoding is a foreseen failure, unless what fails is a
number too wide for its bytes: that is no fault of the block's types, and it
breaks the rendering.

## Main definitions

* `Renderer`: What blocks are rendered against.
* `Renderer.render`: A block in a mode.
* `Renderer.refuse`: A value that is no block of any fork.
* `Renderer.log`: What is said about a rendering.
-/

namespace Beacon

/-- What blocks are rendered against. -/
structure Renderer where
  /-- The local zone. -/
  zone : Zone
  /-- The timing of the network. -/
  timing : Timing
  /-- Whether reports go into detail. -/
  verbose : Bool
  deriving DecidableEq, Repr

namespace Renderer

/-- Whether a mode is offered for a fork. -/
def offers (fork : Fork) (mode : Mode) : Bool := !(fork = .phase0 && mode = .ssz)

/-- A fault of an encoding as a trouble of rendering. -/
def encodingTrouble (fault : Fault) : Trouble :=
  if fault.kind.isA .ssz || fault.kind.isA .value || fault.kind.isA .type then
    .failure (.encode fault)
  else .breakdown (.fault fault)

/-- A block in a mode. -/
def render (r : Renderer) (b : Block) (mode : Mode) : Except Trouble String :=
  if !offers b.fork mode then .error (.failure (.unsupported b.fork.name mode.name))
  else match mode with
    | .json => .ok (b.fork.signedBlock.json b.signed ++ "\n")
    | .ssz => match b.fork.signedBlock.encode b.signed with
      | .ok bs => .ok (Hex.text bs ++ "\n")
      | .error fault => .error (encodingTrouble fault)
    | .text =>
      (Report.text r.zone r.timing r.verbose b.fork b.signed b.sidecars).mapError .breakdown

/-- The failure to render a value that is no block of any fork. -/
def refuse (t : Typed) : Trouble := .failure (.unknownVersion (.text t.type.name))

/-- What is said about a rendering. -/
def log (b : Block) (mode : Mode) : List Log.Record :=
  if offers b.fork mode then
    [Log.debug .renderer
      s!"Rendering {b.fork.name} block at slot {Decimal.text b.slot} as {mode.name}"]
  else []

end Renderer

end Beacon
