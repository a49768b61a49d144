import Beacon.Log

/-!
# Log Lines

A record as one line for a reader: the time, the level in a column of its own,
the part of the program that speaks, and the message. On a terminal the first
three are told apart by colors, and the color of the level tells how much the
record matters.

When a record was made is not part of it, so the text of the time is given to
whoever writes the line.

## Main definitions

* `Log.Record.plainLine`, `Log.Record.coloredLine`: A record as a line.
-/

namespace Beacon

namespace Log

/-- The width of the column of levels. -/
def levelWidth : Nat := 8

/-- The name of a level, with blanks after it to the width of its column. -/
def Level.column (level : Level) : String :=
  level.name ++ String.ofList (List.replicate (levelWidth - level.name.length) ' ')

/-- The number of the color of a level among those of a terminal. -/
def Level.color : Level → Nat
  | .debug => 244
  | .info => 40
  | .warning => 220
  | .error => 196

/-- The number of the color of times. -/
def timeColor : Nat := 51

/-- The number of the color of the parts of the program. -/
def sourceColor : Nat := 39

/-- A text in a color of a terminal. -/
def colored (color : Nat) (text : String) : String :=
  "\x1b[38;5;" ++ toString color ++ "m" ++ text ++ "\x1b[0m"

/-- A record made at a time, as a line without colors. -/
def Record.plainLine (r : Record) (time : String) : Text :=
  s!"{time} {r.level.column} {r.source.name}: " ++ r.message

/-- A record made at a time, as a line with colors. -/
def Record.coloredLine (r : Record) (time : String) : Text :=
  let level := colored r.level.color r.level.column
  let source := colored sourceColor r.source.name
  s!"{colored timeColor time} {level} {source}: " ++ r.message

/-- A record made at a time, as a line with or without colors. -/
def Record.line (r : Record) (inColor : Bool) (time : String) : Text :=
  if inColor then r.coloredLine time else r.plainLine time

end Log

end Beacon
