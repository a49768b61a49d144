import Beacon.Datum.Reader
import Beacon.Event.Basic

/-!
# Event Frames

How events are written on a stream of lines. A frame is a run of lines without
an empty one; each line is a field name, a colon and a value, and one blank
after the colon does not count. The topic is the value of the last `event`
field, and the data are the values of the `data` fields, one to a line, as
JSON. A line that starts with a colon is a comment, and other fields are passed
over.

A frame whose data is not JSON is passed over with a warning, so that it never
takes later frames with it. Data with a number of too many digits or with
brackets too deep is another matter and breaks the stream. The carriage returns at the end of a line do not
count. When the lines end, the frame that is open counts as complete; when they
break off, it is lost.

## Main definitions

* `Frame.field`: The name and value of a line.
* `Frame.item?`: What the lines of a frame deliver.
* `Frame.runs`: The runs of lines that are frames.
* `Frame.feed`: What a stream of lines delivers.
-/

namespace Beacon

namespace Frame

/-- The colon between the name and the value of a line. -/
def colon : CodePoint := .char ':'

/-- The name and the value of a line. -/
def field (line : Text) : Text × Text :=
  match (line.dropWhile (· ≠ colon)).drop 1 with
  | .char ' ' :: value => (line.takeWhile (· ≠ colon), value)
  | value => (line.takeWhile (· ≠ colon), value)

/-- Whether a line is passed over: it is empty, or a comment. -/
def isIdle : Text → Bool
  | [] => true
  | p :: _ => p = colon

/-- The fields of a frame. -/
def fields (lines : List Text) : List (Text × Text) :=
  (lines.filter fun line => !isIdle line).map field

/-- The values of the fields of a name. -/
def values (name : String) (fields : List (Text × Text)) : List Text :=
  (fields.filter fun (n, _) => n = name).map Prod.snd

/-- What the lines of a frame deliver: an event, a warning, or the trouble of
    a number too long or of brackets too deep. Without data there is nothing. -/
def item? (lines : List Text) : Option Feed.Item :=
  let fields := fields lines
  match values "data" fields with
  | [] => none
  | data =>
    let data := Text.join "\n" data
    match Datum.parse data with
    | .ok d => some (.event ⟨((values "event" fields).getLast?).getD ↑"message", d⟩)
    | .error .malformed =>
      some (.log (Log.warning .events ("Failed to parse SSE data: " ++ data)))
    | .error (.tooManyDigits count) => some (.trouble (.breakdown (.digits count)))
    | .error (.tooDeep opened) => some (.trouble (.breakdown (.nesting opened)))

/-- A line without the carriage returns at its end. -/
def trimmed (line : Text) : Text := (line.reverse.dropWhile (· = .char '\r')).reverse

/-- The runs of lines without an empty one, `run` being the one that is open,
    last line first. The second part is the run that is open at the end. -/
def runsFrom (run : List Text) : List Text → List (List Text) × List Text
  | [] => ([], run.reverse)
  | line :: rest =>
    if line.isEmpty then
      let (runs, last) := runsFrom [] rest
      (if run.isEmpty then runs else run.reverse :: runs, last)
    else runsFrom (line :: run) rest

/-- The runs of lines without an empty one, and the one that is open at the
    end. -/
def runs (lines : List Text) : List (List Text) × List Text :=
  runsFrom [] (lines.map trimmed)

/-- What a stream of lines delivers, `broken` being the trouble that breaks it
    off after them. -/
def feed (lines : List Text) (broken : Option Trouble) : Feed :=
  let (closed, last) := runs lines
  closed.filterMap item? ++ match broken with
    | none => (item? last).toList
    | some t => [.trouble t]

end Frame

end Beacon
