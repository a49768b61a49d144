import Beacon.Datum.Basic
import Beacon.Bytes.Hex
import Beacon.Number.Spelling

/-!
# Reading JSON Text

The JSON that a node sends, read to a datum. It is JSON as its standard has
it, with two liberties that nodes and test servers take, the words `NaN` and
`Infinity`, and with two restrictions: a whole number of more digits than
`Decimal.maxDigits` is not read, and neither are lists and records nested more
than `Datum.maxDepth` deep. Each restriction is a fault of its own kind, found
where the number stands or where the bracket opens, so a text can have it
although it is malformed further on.

A field named twice keeps its first place and its last value. The halves of a
surrogate pair that are escaped one after the other are the character they
stand for; a half by itself stays one.

The reader recurses on a fuel that every step of it spends. `Datum.parse` gives
it twice the length of the text, which is enough: a value spends one unit, an
item or a field one more, and each of them takes at least one code point.

## Main definitions

* `JsonFault`: Why a text cannot be read.
* `Datum.parseValue`: The value at the head of a text, and the rest.
* `Datum.parse`: The value that a whole text holds.
-/

namespace Beacon

/-- What a bracket of JSON opens. -/
inductive Nesting
  | array
  | object
  deriving DecidableEq, Repr

/-- The name of what a bracket opens. -/
def Nesting.name : Nesting → String
  | .array => "array"
  | .object => "object"

/-- Why a JSON text cannot be read. -/
inductive JsonFault
  /-- The text is not JSON. -/
  | malformed
  /-- A whole number has this many digits, more than are read. -/
  | tooManyDigits (count : Nat)
  /-- A bracket opens too deep inside others. -/
  | tooDeep (nesting : Nesting)
  deriving DecidableEq, Repr

namespace Datum

/-- How many brackets may be open at a time. A reader that calls itself for what is
    inside a bracket goes as deep as its interpreter lets it, and the number stands for
    that: a limit of 1000 calls, less those that are open already where a response is
    read. With another limit, or read from elsewhere, it would be another number. -/
def maxDepth : Nat := 985

/-- The blanks between the tokens of JSON. -/
def isJsonBlank (c : Char) : Bool := c = ' ' || c = '\t' || c = '\n' || c = '\r'

/-- A text without the blanks it starts with. -/
def skipBlanks (t : Text) : Text := t.dropWhile (CodePoint.isA isJsonBlank)

/-- The number of a hexadecimal digit. -/
def digit? : CodePoint → Option Nat
  | .char c => Hex.value? c
  | .half _ => none

/-- The code unit that four hexadecimal digits name. -/
def codeUnit? : Text → Option (Nat × Text)
  | a :: b :: c :: d :: rest => do
    let a ← digit? a
    let b ← digit? b
    let c ← digit? c
    let d ← digit? d
    pure (((a * 16 + b) * 16 + c) * 16 + d, rest)
  | _ => none

/-- The code point of a code unit, and of the unit after it when the two are the
    halves of a pair. The result says how many code points of `rest`, which
    follows the first unit, belong to it: none, or the six of a second escape. -/
def pairUnits (unit : Nat) (rest : Text) : CodePoint × Nat :=
  if 0xd800 ≤ unit ∧ unit < 0xdc00 then
    match rest with
    | .char '\\' :: .char 'u' :: more =>
      match codeUnit? more with
      | some (low, _) =>
        if 0xdc00 ≤ low ∧ low < 0xe000 then
          (.ofNat (0x10000 + (unit - 0xd800) * 0x400 + (low - 0xdc00)), 6)
        else (.ofNat unit, 0)
      | none => (.ofNat unit, 0)
    | _ => (.ofNat unit, 0)
  else (.ofNat unit, 0)

/-- The character that a letter after a backslash stands for. -/
def escaped? (e : Char) : Option Char :=
  if e = '"' || e = '\\' || e = '/' then some e
  else if e = 'b' then some '\x08'
  else if e = 'f' then some '\x0c'
  else if e = 'n' then some '\n'
  else if e = 'r' then some '\r'
  else if e = 't' then some '\t'
  else none

/-- The text of a string up to its closing quote, and what follows it. The first
    argument counts the code points that an escape before them has already
    accounted for, and `done` holds those read, last first. -/
def stringFrom (skip : Nat) (done : Text) : Text → Option (Text × Text)
  | [] => none
  | p :: rest =>
    match skip with
    | skip + 1 => stringFrom skip done rest
    | 0 =>
      match p with
      | .half _ => stringFrom 0 (p :: done) rest
      | .char c =>
        if c = '"' then some (done.reverse, rest)
        else if c = '\\' then
          match rest with
          | .char 'u' :: more =>
            match codeUnit? more with
            | none => none
            | some (unit, after) =>
              let (point, used) := pairUnits unit after
              stringFrom (5 + used) (point :: done) rest
          | .char e :: _ =>
            match escaped? e with
            | some e => stringFrom 1 (.char e :: done) rest
            | none => none
          | _ => none
        else if c.toNat < 32 then none
        else stringFrom 0 (p :: done) rest

/-- The digits after a point, if a point with at least one digit follows. -/
def fraction? : Text → Option (List Char × Text)
  | .char '.' :: rest =>
    let (digits, rest) := Text.span Char.isDigit rest
    if digits.isEmpty then none else some (digits, rest)
  | _ => none

/-- A sign, if there is one, and what follows it. -/
def takeSign : Text → Bool × Text
  | .char '-' :: rest => (true, rest)
  | .char '+' :: rest => (false, rest)
  | t => (false, t)

/-- An exponent with at least one digit, if one follows. -/
def power? : Text → Option (Int × Text)
  | .char e :: rest =>
    if e = 'e' || e = 'E' then
      let (negative, rest) := takeSign rest
      let (digits, rest) := Text.span Char.isDigit rest
      if digits.isEmpty then none
      else
        let n := Int.ofNat (Decimal.value digits)
        some (if negative then -n else n, rest)
    else none
  | _ => none

/-- The number at the head of a text, after its sign. A zero that leads is the
    whole of the digits before the point. -/
def number (negative : Bool) (t : Text) : Except JsonFault (Datum × Text) :=
  let (whole, rest) := match t with
    | .char '0' :: rest => (['0'], rest)
    | _ => Text.span Char.isDigit t
  if whole.isEmpty then .error .malformed
  else
    let (fraction, afterFraction) := (fraction? rest).getD ([], rest)
    match power? afterFraction with
    | some (power, rest) => .ok (.real (Literal.mk negative whole fraction power).value, rest)
    | none =>
      if fraction.isEmpty then
        if Decimal.maxDigits < whole.length then .error (.tooManyDigits whole.length)
        else
          let n := Int.ofNat (Decimal.value whole)
          .ok (.int (if negative then -n else n), rest)
      else .ok (.real (Literal.mk negative whole fraction 0).value, afterFraction)

/-- What is left of a text after a word it starts with. -/
def after? (word t : Text) : Option Text :=
  if word.isPrefixOf t then some (t.drop word.length) else none

/-- A value that is one word or one number. -/
def scalar (t : Text) : Except JsonFault (Datum × Text) :=
  match after? "null" t with
  | some rest => .ok (.null, rest)
  | none => match after? "true" t with
    | some rest => .ok (.bool true, rest)
    | none => match after? "false" t with
      | some rest => .ok (.bool false, rest)
      | none => match after? "NaN" t with
        | some rest => .ok (.real .nan, rest)
        | none => match after? "Infinity" t with
          | some rest => .ok (.real (.infinite false), rest)
          | none => match after? "-Infinity" t with
            | some rest => .ok (.real (.infinite true), rest)
            | none => match t with
              | .char '-' :: rest => number true rest
              | _ => number false t

mutual

/-- The value at the head of a text, no blank before it, and what follows.
    Inside it, `room` brackets may be open at a time. -/
def parseValue : (fuel room : Nat) → Text → Except JsonFault (Datum × Text)
  | 0, _, _ => .error .malformed
  | fuel + 1, room, t =>
    match t with
    | .char '"' :: rest =>
      match stringFrom 0 [] rest with
      | some (s, rest) => .ok (.text s, rest)
      | none => .error .malformed
    | .char '[' :: rest =>
      match room with
      | 0 => .error (.tooDeep .array)
      | room + 1 => match skipBlanks rest with
        | .char ']' :: rest => .ok (.list [], rest)
        | rest => parseItems fuel room [] rest
    | .char '\x7b' :: rest =>
      match room with
      | 0 => .error (.tooDeep .object)
      | room + 1 => match skipBlanks rest with
        | .char '\x7d' :: rest => .ok (.record [], rest)
        | rest => parseFields fuel room [] rest
    | _ => scalar t

/-- The items of a list up to its closing bracket, `done` holding those before,
    last first. -/
def parseItems : (fuel room : Nat) → List Datum → Text → Except JsonFault (Datum × Text)
  | 0, _, _, _ => .error .malformed
  | fuel + 1, room, done, t =>
    match parseValue fuel room t with
    | .error fault => .error fault
    | .ok (d, rest) =>
      match skipBlanks rest with
      | .char ',' :: rest => parseItems fuel room (d :: done) (skipBlanks rest)
      | .char ']' :: rest => .ok (.list (d :: done).reverse, rest)
      | _ => .error .malformed

/-- The fields of a record up to its closing brace, `done` holding those
    before. -/
def parseFields : (fuel room : Nat) → List (Text × Datum) → Text →
    Except JsonFault (Datum × Text)
  | 0, _, _, _ => .error .malformed
  | fuel + 1, room, done, t =>
    match t with
    | .char '"' :: rest =>
      match stringFrom 0 [] rest with
      | none => .error .malformed
      | some (name, rest) =>
        match skipBlanks rest with
        | .char ':' :: rest =>
          match parseValue fuel room (skipBlanks rest) with
          | .error fault => .error fault
          | .ok (d, rest) =>
            let done := put name d done
            match skipBlanks rest with
            | .char ',' :: rest => parseFields fuel room done (skipBlanks rest)
            | .char '\x7d' :: rest => .ok (.record done, rest)
            | _ => .error .malformed
        | _ => .error .malformed
    | _ => .error .malformed

end

/-- The value that a whole text holds, blanks around it allowed. -/
def parse (t : Text) : Except JsonFault Datum :=
  match parseValue (2 * t.length + 2) maxDepth (skipBlanks t) with
  | .error fault => .error fault
  | .ok (d, rest) => if (skipBlanks rest).isEmpty then .ok d else .error .malformed

end Datum

end Beacon
