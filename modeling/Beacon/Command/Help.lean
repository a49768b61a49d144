import Beacon.Command.Run

/-!
# Help

What the command says about itself: how it is called, what each option means,
and what its status tells.

## Main definitions

* `Command.usage`: How the command is called, on one line.
* `Command.help`: The help as a whole.
-/

namespace Beacon

namespace Command

/-- What stands for the value of a field. -/
def Field.placeholder : Field → String
  | .blockId => "BLOCKID"
  | .time => "BLOCK_TIME"
  | .connection => "CONNECTION"
  | .timeout => "TIMEOUT"

/-- What a flag is for. -/
def Flag.purpose : Flag → String
  | .help => "show this help message and exit"
  | .json => "Print the block as JSON"
  | .ssz => "Print the block as SSZ hex"
  | .stream => "Print each new head block"
  | .quiet => "Print nothing; the exit status tells whether the block exists"
  | .verbose => "Add per-operation detail to the text report"
  | .debug => "Enable debug logging"
  | .noColor => "Disable colored logging output"

/-- What a field is for. -/
def Field.purpose : Field → String
  | .blockId => "Block identifier (slot, root or name)"
  | .time => "Block time"
  | .connection => "Beacon node URL"
  | .timeout => "HTTP timeout in seconds"

/-- What an option is for. -/
def Opt.purpose : Opt → String
  | .flag f => f.purpose
  | .field f => f.purpose

/-- The options, each once, in the order of their names. -/
def Opt.all : List Opt := (names.map Prod.snd).eraseDups

/-- The names of an option with what stands for its value. -/
def Opt.form (opt : Opt) : String :=
  match opt with
  | .flag _ => opt.label
  | .field f => opt.label ++ " " ++ f.placeholder

/-- How the command is called, on one line. -/
def usage : String :=
  let forms := Opt.all.map fun opt => "[" ++ opt.form ++ "]"
  s!"usage: {name} " ++ String.intercalate " " forms

/-- The values of the fields where the command line gives none. -/
def defaults (settings : Settings) : List String := [
    s!"Default beacon node URL: {settings.url.legible}",
    s!"Default HTTP timeout: {settings.timeout.text} seconds"
  ]

/-- What the statuses tell. -/
def statuses : List String := [
    "Exit status:",
    s!"  {success}  success, or the block exists (--quiet)",
    s!"  {absence}  no block at the identifier",
    s!"  {failure}  any other error"
  ]

/-- The help as a whole. -/
def help (settings : Settings) : String :=
  String.intercalate "\n" ([usage, "", "Obtain information about a beacon block", "", "Options:"]
    ++ Opt.all.map (fun opt => s!"  {opt.form}: {opt.purpose}")
    ++ [""] ++ defaults settings ++ [""] ++ statuses)

end Command

end Beacon
