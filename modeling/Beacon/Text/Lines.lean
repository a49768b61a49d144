/-!
# Lines of a Stream

Cutting text into lines when it comes in pieces. A line ends at any of the
characters that end lines, and a carriage return with a line feed after it is
one end and not two. Because of that pair, a line whose carriage return came
last is held back until the next character or the end of the stream shows what
the return was.

## Main definitions

* `Lines.endsLine`: The characters that end lines.
* `Lines.State`: A line that is open or held back.
* `Lines.feed`: The lines that characters complete.
* `Lines.flush`: The line that the end of the stream completes.
-/

namespace Beacon

namespace Lines

/-- The characters that end lines. -/
def endsLine (c : Char) : Bool :=
  c = '\n' || c = '\r' || c = '\x0b' || c = '\x0c' || c = '\x1c' || c = '\x1d' || c = '\x1e'
    || c = '\x85' || c = '\u2028' || c = '\u2029'

/-- A line that is open or held back. -/
structure State where
  /-- Its characters, last first. -/
  line : List Char
  /-- Whether a carriage return has ended it. -/
  held : Bool

/-- No line is open. -/
def State.start : State := ⟨[], false⟩

/-- A line from its characters, last first. -/
def close (line : List Char) : String := String.ofList line.reverse

/-- The lines that a character completes, last first in front of `done`, and
    the state after it. -/
def step (done : List String) (s : State) (c : Char) : List String × State :=
  if s.held && c = '\n' then (close s.line :: done, .start)
  else
    let (done, line) := if s.held then (close s.line :: done, []) else (done, s.line)
    if c = '\r' then (done, ⟨line, true⟩)
    else if endsLine c then (close line :: done, .start)
    else (done, ⟨c :: line, false⟩)

/-- The lines that characters complete, and the state after them. -/
def feed (s : State) (cs : List Char) : List String × State :=
  let (done, s) := cs.foldl (fun (done, s) c => step done s c) ([], s)
  (done.reverse, s)

/-- The line that the end of the stream completes. -/
def flush (s : State) : List String :=
  if s.held || !s.line.isEmpty then [close s.line] else []

end Lines

end Beacon
