import Beacon.Command.Settings
import Beacon.Command.Word
import Beacon.Log
import Beacon.Service.Request

/-!
# Command Lines

What a command line asks for. Its words are acted upon one after the other: a
flag is raised, a field takes its value from the word that says it or from the
next one, and what was said later replaces what was said before. A request for
help ends the reading at once. Short flags may be written together after one
dash, and what is left of the word from the first letter on that is no flag
counts as a word of its own.

Words that belong to no option are collected and refused together, once
everything else has been accepted.

## Main definitions

* `Connection`: How the node is reached.
* `Options`: What is asked for.
* `Options.read`: The options of a command line.
* `Options.request`: The request that they make.
-/

namespace Beacon

namespace Command

/-- How the node is reached. -/
structure Connection where
  /-- The address. -/
  address : Text
  /-- How many seconds to wait. -/
  timeout : Binary64
  deriving DecidableEq, Repr

/-- What is asked for on the command line. -/
structure Options where
  /-- The identifier of a block. -/
  blockId : Option Text
  /-- The time of a block. -/
  time : Option Text
  /-- Whether the block is to be written as JSON. -/
  json : Bool
  /-- Whether the block is to be written in its binary form. -/
  ssz : Bool
  /-- Whether every new head block is to follow. -/
  stream : Bool
  /-- Whether nothing is to be written. -/
  quiet : Bool
  /-- Whether reports are to go into detail. -/
  verbose : Bool
  /-- Whether the log is to go into detail. -/
  debug : Bool
  /-- Whether the log is to have colors. -/
  color : Bool
  /-- How the node is to be reached. -/
  connection : Connection
  deriving DecidableEq, Repr

/-- Why there are no options to act upon. -/
inductive Halt
  /-- Help was asked for. -/
  | help
  /-- The command line is not accepted. -/
  | refused (refusal : Refusal)
  deriving DecidableEq, Repr

namespace Options

/-- The options of an empty command line. -/
def initial (settings : Settings) : Options where
  blockId := none
  time := none
  json := false
  ssz := false
  stream := false
  quiet := false
  verbose := false
  debug := false
  color := true
  connection := ⟨settings.url, settings.timeout⟩

/-- Raises a flag. -/
def raise (o : Options) : Flag → Except Halt Options
  | .help => .error .help
  | .json => .ok { o with json := true }
  | .ssz => .ok { o with ssz := true }
  | .stream => .ok { o with stream := true }
  | .quiet => .ok { o with quiet := true }
  | .verbose => .ok { o with verbose := true }
  | .debug => .ok { o with debug := true }
  | .noColor => .ok { o with color := false }

/-- Gives a field a value. -/
def give (o : Options) (value : Text) : Field → Except Halt Options
  | .blockId => .ok { o with blockId := some value }
  | .time => .ok { o with time := some value }
  | .connection => .ok { o with connection := { o.connection with address := value } }
  | .timeout => match Binary64.ofText? value.legible with
    | some seconds => .ok { o with connection := { o.connection with timeout := seconds } }
    | none => .error (.refused (.notNumber .timeout value))

/-- The flags that are written together after one dash, `flag` being the first
    and the rest of the word following it, and the words that are left over. -/
def together (flag : Flag) (assigned : Bool) :
    Text → Except Refusal (List Flag × List Text)
  | [] => .error (.attached flag "")
  | p :: rest =>
    if assigned || p = .char '-' then .error (.attached flag (p :: rest))
    else match Opt.find? [.char '-', p], rest with
      | some (.flag next), [] => .ok ([flag, next], [])
      | some (.flag next), .char '=' :: value =>
        (together next true value).map fun (flags, left) => (flag :: flags, left)
      | some (.flag next), more =>
        (together next false more).map fun (flags, left) => (flag :: flags, left)
      | _, _ => .ok ([flag], [.char '-' :: p :: rest])

/-- Acts upon words, one after the other, `extras` being those before that
    belong to no option. -/
def follow (o : Options) (extras : List Text) : List Word → Except Halt (Options × List Text)
  | [] => .ok (o, extras)
  | .plain text :: rest => follow o (extras ++ [text]) rest
  | .stray text :: rest => follow o (extras ++ [text]) rest
  | .flag flag none :: rest => do
    let o ← o.raise flag
    follow o extras rest
  | .flag flag (some attached) :: _ =>
    .error (.refused (.attached flag attached))
  | .short flag assigned attached :: rest => do
    let (flags, left) ← (together flag assigned attached).mapError Halt.refused
    let o ← flags.foldlM raise o
    follow o (extras ++ left) rest
  | .field field (some value) :: rest => do
    let o ← o.give value field
    follow o extras rest
  | .field field none :: .plain text :: rest => do
    let o ← o.give text field
    follow o extras rest
  | .field field none :: _ => .error (.refused (.noValue field))

/-- The options of a command line. -/
def read (settings : Settings) (words : List Text) : Except Halt Options := do
  let words ← (Word.readAll words).mapError Halt.refused
  let (o, extras) ← (initial settings).follow [] words
  if extras.isEmpty then pure o else .error (.refused (.unrecognized extras))

/-- The request that options make. -/
def request (o : Options) : Except UsageFault Request :=
  Request.make o.blockId o.time o.json o.ssz o.stream o.quiet o.verbose

/-- The level from which on the log is shown. -/
def level (o : Options) : Log.Level :=
  if o.debug then .debug else if o.quiet then .error else .info

end Options

end Command

end Beacon
