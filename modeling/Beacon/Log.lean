import Beacon.Text.Basic

/-!
# Log Records

What the program says about its work besides its output. A record has a level,
the part of the program that speaks, and a message. Which records reach a
reader is decided where they are written, so every activity hands over all of
its records, in the order in which they were made.

## Main definitions

* `Log.Level`, `Log.Source`, `Log.Record`: A record and what it is made of.
* `Log.atLeast`: The records of a level or above.
-/

namespace Beacon

namespace Log

/-- How much a record matters. -/
inductive Level
  | debug
  | info
  | warning
  | error
  deriving DecidableEq, Repr

/-- The name of a level. -/
def Level.name : Level → String
  | .debug => "DEBUG"
  | .info => "INFO"
  | .warning => "WARNING"
  | .error => "ERROR"

/-- The rank of a level among the levels. -/
def Level.rank : Level → Nat
  | .debug => 0
  | .info => 1
  | .warning => 2
  | .error => 3

/-- The part of the program that speaks. -/
inductive Source
  | resolver
  | events
  | client
  | renderer
  | service
  | command
  deriving DecidableEq, Repr

/-- The name a part of the program speaks under. -/
def Source.name : Source → String
  | .resolver => "blockinfo.chain.resolver"
  | .events => "blockinfo.api.events"
  | .client => "blockinfo.api.client"
  | .renderer => "blockinfo.render.renderer"
  | .service => "blockinfo.info.service"
  | .command => "blockinfo.__main__"

/-- One record. -/
structure Record where
  /-- How much it matters. -/
  level : Level
  /-- Who speaks. -/
  source : Source
  /-- What is said. -/
  message : Text
  deriving DecidableEq, Repr

/-- A record for those who look into the program's work. -/
def debug (source : Source) (message : Text) : Record := ⟨.debug, source, message⟩

/-- A record that is of interest in every run. -/
def info (source : Source) (message : Text) : Record := ⟨.info, source, message⟩

/-- A record that something is not as it should be. -/
def warning (source : Source) (message : Text) : Record := ⟨.warning, source, message⟩

/-- The records of a level or above. -/
def atLeast (level : Level) (records : List Record) : List Record :=
  records.filter fun r => level.rank ≤ r.level.rank

end Log

end Beacon
