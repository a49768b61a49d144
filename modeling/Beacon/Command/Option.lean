import Beacon.Text.Quoted

/-!
# Options of the Command Line

What can be said on the command line, and under which names. A flag is said or
not said; a field is said together with a value. Every option has a long name
after two dashes, and two flags have a short name after one.

The names stand in a fixed order, which is the order in which they are listed
whenever several of them are.

## Main definitions

* `Flag`, `Field`, `Opt`: The options.
* `Opt.names`: Their names in order.
* `Refusal`: Why a command line is not accepted.
-/

namespace Beacon

namespace Command

/-- An option that is said or not said. -/
inductive Flag
  /-- The help is asked for and nothing else. -/
  | help
  /-- The block is to be written as JSON. -/
  | json
  /-- The block is to be written in its binary form. -/
  | ssz
  /-- Every new head block is to follow. -/
  | stream
  /-- Nothing is to be written. -/
  | quiet
  /-- Reports are to go into detail. -/
  | verbose
  /-- The log is to go into detail. -/
  | debug
  /-- The log is to have no colors. -/
  | noColor
  deriving DecidableEq, Repr

/-- An option that is said with a value. -/
inductive Field
  /-- The identifier of a block. -/
  | blockId
  /-- The time of a block. -/
  | time
  /-- The address of the node. -/
  | connection
  /-- How many seconds to wait for the node. -/
  | timeout
  deriving DecidableEq, Repr

/-- An option. -/
inductive Opt
  | flag (flag : Flag)
  | field (field : Field)
  deriving DecidableEq, Repr

namespace Opt

/-- The names of the options, in order. -/
def names : List (String × Opt) := [
    ("-h", .flag .help), ("--help", .flag .help),
    ("--blockid", .field .blockId), ("--time", .field .time),
    ("--json", .flag .json), ("--ssz", .flag .ssz), ("--stream", .flag .stream),
    ("--quiet", .flag .quiet), ("-v", .flag .verbose), ("--verbose", .flag .verbose),
    ("--debug", .flag .debug), ("--connection", .field .connection),
    ("--timeout", .field .timeout), ("--no-color", .flag .noColor)
  ]

/-- The option of a name. -/
def find? (name : Text) : Option Opt := (names.find? fun (n, _) => name = n).map Prod.snd

/-- All names of an option as one text. -/
def label (opt : Opt) : String :=
  String.intercalate "/" ((names.filter fun (_, o) => o = opt).map Prod.fst)

end Opt

/-- Why a command line is not accepted. -/
inductive Refusal
  /-- A shortened name is the beginning of several names. -/
  | ambiguous (word : Text) (names : List String)
  /-- A field has no value. -/
  | noValue (field : Field)
  /-- The value of a field is no number. -/
  | notNumber (field : Field) (text : Text)
  /-- Something is attached to a flag that is neither a value of it nor another
      flag. -/
  | attached (flag : Flag) (text : Text)
  /-- Words belong to no option. -/
  | unrecognized (words : List Text)
  deriving DecidableEq, Repr

namespace Refusal

/-- What is said about an option. -/
def about (opt : Opt) (complaint : String) : String := s!"argument {opt.label}: {complaint}"

/-- The text of a refusal. -/
def message : Refusal → Text
  | ambiguous word names =>
    "ambiguous option: " ++ word ++ " could match " ++ String.intercalate ", " names
  | noValue field => about (.field field) "expected one argument"
  | notNumber field text =>
    about (.field field) s!"invalid float value: {Quoted.text text}"
  | attached flag text =>
    about (.flag flag) s!"ignored explicit argument {Quoted.text text}"
  | unrecognized words => "unrecognized arguments: " ++ Text.join " " words

end Refusal

end Command

end Beacon
