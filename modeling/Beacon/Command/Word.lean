import Beacon.Command.Option
import Beacon.Text.Cut
import Beacon.Text.Numeric

/-!
# Words of the Command Line

What each word of a command line is, by itself. A word with a dash at its
beginning says an option, if it is the name of one: in full, or shortened at
its end as far as it stays the beginning of one name only. A value may be
attached to it after an equals sign, and to a short name directly. Every other
word is plain, and may be the value of a field before it.

A word with a dash that names no option is plain if it could be meant as a
value: a dash alone, a negative number, or a word with a blank in it. Otherwise
it is stray. After two dashes by themselves every word is plain.

All words are looked at before any of them is acted upon, so a shortened name
with two meanings is refused even after a request for help.

## Main definitions

* `Word`: What a word is.
* `Word.read`: What a word is, by itself.
* `Word.readAll`: The words of a command line.
-/

namespace Beacon

namespace Command

/-- What a word of a command line is. -/
inductive Word
  /-- It may be the value of a field. -/
  | plain (text : Text)
  /-- It is no option and no value. -/
  | stray (text : Text)
  /-- It says a flag, perhaps under its long name with something attached. -/
  | flag (flag : Flag) (attached : Option Text)
  /-- It says a flag under its short name with something attached, which stands
      after an equals sign or directly after the name. -/
  | short (flag : Flag) (assigned : Bool) (attached : Text)
  /-- It says a field, perhaps together with its value. -/
  | field (field : Field) (value : Option Text)
  deriving DecidableEq, Repr

namespace Word

/-- Whether a word begins with two dashes. -/
def isLong (text : Text) : Bool := text.take 2 = Text.ofString "--"

/-- The word that says an option under a name, perhaps with something attached
    after an equals sign. -/
def saying (name : Text) (opt : Opt) (attached : Option Text) : Word :=
  match opt, attached with
  | .field f, attached => .field f attached
  | .flag f, none => .flag f none
  | .flag f, some text =>
    if isLong name then .flag f (some text) else .short f true text

/-- The word that says an option under a short name with something attached
    directly after it. -/
def joined (opt : Opt) (attached : Text) : Word :=
  match opt with
  | .field f => .field f (some attached)
  | .flag f => .short f false attached

/-- Whether a character is a digit of any script. -/
def isDigit (c : Char) : Bool := (Text.digitValue? c).isSome

/-- Whether what follows a dash makes it a negative number: digits, or a point
    with digits after it and perhaps before it. A line break at the end does
    not count. -/
def isNumber (cs : List Char) : Bool :=
  let cs := if cs.getLast? = some '\n' then cs.dropLast else cs
  match cs.dropWhile isDigit with
  | [] => !cs.isEmpty
  | '.' :: rest => !rest.isEmpty && rest.all isDigit
  | _ => false

/-- Whether a word with a dash at its beginning that names no option could be
    meant as a value. -/
def isValue (text : Text) : Bool :=
  isNumber (Text.chars (text.drop 1)) || text.contains (.char ' ')

/-- The options that a word may say under a shortened name or with something
    attached to a short name, and their full names. -/
def candidates (text : Text) : List (String × Word) :=
  if isLong text then
    let (start, value) := Text.cutAt (.char '=') text
    (Opt.names.filter fun (name, _) => start.isPrefixOf (Text.ofString name)).map
      fun (name, opt) => (name, saying name opt value)
  else
    (Opt.names.filter fun (name, _) => text.take 2 = name).map fun (name, opt) =>
      (name, joined opt (text.drop 2))

/-- The option that a word says under a full name, with or without a value
    after an equals sign. -/
def exactly? (text : Text) : Option Word :=
  match Opt.find? text with
  | some opt => some (saying text opt none)
  | none => match Text.cutAt (.char '=') text with
    | (name, some value) => (Opt.find? name).map fun opt => saying name opt (some value)
    | (_, none) => none

/-- What a word with a dash at its beginning is. -/
def readDashed (text : Text) : Except Refusal Word :=
  match exactly? text with
  | some word => .ok word
  | none => match candidates text with
    | [(_, word)] => .ok word
    | [] => .ok (if isValue text then .plain text else .stray text)
    | several => .error (.ambiguous text (several.map Prod.fst))

/-- What a word is, by itself. -/
def read (text : Text) : Except Refusal Word :=
  match text with
  | .char '-' :: _ :: _ => readDashed text
  | _ => .ok (.plain text)

/-- What the words of a command line are. -/
def readAll : List Text → Except Refusal (List Word)
  | [] => .ok []
  | text :: rest =>
    if text = Text.ofString "--" then .ok (.stray text :: rest.map .plain)
    else do
      let word ← read text
      let words ← readAll rest
      pure (word :: words)

end Word

end Command

end Beacon
