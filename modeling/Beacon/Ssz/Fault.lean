import Beacon.Number.Decimal
import Beacon.Datum.Basic

/-!
# Faults of Values and Encodings

Everything that can be wrong with a value, with the data it should be built
from, or with the bytes it should be decoded from.

The causes come in two layers. A `Cause` is one thing wrong with one piece of
data, and it can be raised by itself. When a whole record is checked, causes
are collected: every field is looked at, and what is wrong is reported as a
list of details, each with the place where it was found. The faults that are
not causes end such a check on the spot, whatever it had collected, because
they say that the data is not of a shape the check can go on with.

## Main definitions

* `DecodeFault`: Why bytes are no encoding of a type.
* `Cause`: What is wrong with one piece of data.
* `Step`, `Problem`, `Detail`: Where in a record something is wrong, and what.
* `Fault`: Why a value could not be built or encoded.
* `Fault.collect`, `Fault.under`: Checking two parts of a record, and placing
  what is wrong with one of them.
* `Fault.message`: The text of a fault.
-/

namespace Beacon

/-- Why bytes are no encoding of a type. -/
inductive DecodeFault
  /-- A type of fixed size is encoded in another number of bytes. -/
  | wrongSize (expected actual : Nat)
  /-- A whole number is encoded in another number of bytes. -/
  | wrongWidth (expected actual : Nat)
  /-- A bit list does not end in a byte with a bit set. -/
  | noDelimiter
  /-- A bit list or byte list is longer than its limit. -/
  | overLimit (length limit : Nat)
  /-- The first offset of a list is no multiple of four inside the bytes. -/
  | firstOffset (offset : Nat)
  /-- The bytes are not a whole number of elements. -/
  | indivisible (length size : Nat)
  /-- The bytes end inside the fixed part. -/
  | truncated (expected actual : Nat)
  /-- The bytes of a member of variable size do not lie after the fixed part,
      in order and inside the whole. -/
  | offsets (field : Text) (start stop : Nat)
  /-- Something with a text of its own. -/
  | stated (text : Text)
  deriving DecidableEq, Repr

namespace DecodeFault

/-- What was wrong with the bytes, without the type. -/
def detail : DecodeFault → Text
  | .wrongSize expected actual => s!"expected {expected} bytes, got {actual}"
  | .wrongWidth expected actual => s!"expected exactly {expected} bytes, got {actual}"
  | .noDelimiter => "has no delimiter bit"
  | .overLimit length limit => s!"length {length} exceeds limit {limit}"
  | .firstOffset offset => s!"invalid offset {offset}"
  | .indivisible length size => s!"{length} bytes not divisible by element size {size}"
  | .truncated expected actual => s!"expected {expected} bytes, got {actual}"
  | .offsets field start stop =>
    "invalid offsets for field '" ++ field ++ s!"' (start={start}, end={stop})"
  | .stated text => text

end DecodeFault

/-- What is wrong with one piece of data. -/
inductive Cause
  /-- A value of this type stands where a whole number is due. -/
  | notInteger (given : String)
  /-- A value of this type has no number in it at all. -/
  | notNumeric (given : String)
  /-- A number is negative or takes more bits than the type has. -/
  | outOfRange (type : String) (n : Int)
  /-- A text, shown as in messages, is no decimal numeral. -/
  | notDecimal (type shown : String)
  /-- A numeral has this many digits, more than are read. -/
  | tooManyDigits (count : Nat)
  /-- A text cannot be read as hex from this position on. -/
  | notHex (position : Nat)
  /-- A value of this type stands where bytes are due. -/
  | notBytes (given : String)
  /-- A byte string has another length than its type. -/
  | byteCount (type : String) (expected actual : Nat)
  /-- A byte list is longer than its limit. -/
  | byteLimit (type : String) (limit actual : Nat)
  /-- A bit, shown as in messages, is neither zero nor one. -/
  | badBit (shown : String)
  /-- A bit string has another length than its type. -/
  | bitCount (type : String) (expected actual : Nat)
  /-- A bit list is longer than its limit. -/
  | bitLimit (type : String) (limit actual : Nat)
  /-- A vector has another number of elements than its type. -/
  | elementCount (type : String) (expected actual : Nat)
  /-- A list has more elements than its limit. -/
  | elementLimit (type : String) (limit actual : Nat)
  /-- Bytes are no encoding of the type. -/
  | decode (type : Text) (fault : DecodeFault)
  /-- A number that must be positive is zero. -/
  | notPositive
  deriving DecidableEq, Repr

namespace Cause

/-- The text of a cause. -/
def message : Cause → Text
  | .notInteger given => s!"Expected int, got {given}"
  | .notNumeric given =>
    "int() argument must be a string, a bytes-like object or a real number, not '"
      ++ given ++ "'"
  | .outOfRange type n => s!"{Decimal.signed n} is out of range for {type}"
  | .notDecimal type shown => s!"{type} expects a decimal string, got {shown}"
  | .tooManyDigits count =>
    s!"Exceeds the limit ({Decimal.maxDigits} digits) for integer string conversion: value has "
      ++ s!"{count} digits; use sys.set_int_max_str_digits() to increase the limit"
  | .notHex position =>
    s!"non-hexadecimal number found in fromhex() arg at position {position}"
  | .notBytes given => s!"Expected bytes or hex string, got {given}"
  | .byteCount type expected actual => s!"{type} expects exactly {expected} bytes, got {actual}"
  | .byteLimit type limit actual => s!"{type} length {actual} exceeds limit {limit}"
  | .badBit shown => s!"A bit must be 0 or 1, got {shown}"
  | .bitCount type expected actual => s!"{type} requires exactly {expected} bits, got {actual}"
  | .bitLimit type limit actual => s!"{type} cannot exceed {limit} bits, got {actual}"
  | .elementCount type expected actual =>
    s!"{type} requires exactly {expected} elements, got {actual}"
  | .elementLimit type limit actual => s!"{type} exceeds limit of {limit}, got {actual}"
  | .decode type fault => "Failed to decode " ++ type ++ ": " ++ fault.detail
  | .notPositive => "must be positive"

end Cause

/-- One step of the way to a place in a record. -/
inductive Step
  | field (name : Text)
  | index (n : Nat)
  deriving DecidableEq, Repr

/-- What is wrong at one place of a record. -/
inductive Problem
  /-- A field that is required is not there. -/
  | missing
  /-- There is a field that the record does not have. -/
  | unknownField
  /-- Something else than a record of this type stands here. -/
  | notRecord (type : String)
  /-- Something else than a list stands here. -/
  | notList
  /-- Something that is never a truth value stands here. -/
  | notBool
  /-- A number or word stands here that says neither true nor false. -/
  | unclearBool
  /-- A text stands here that is no string, where only a string can be read. -/
  | brokenText
  /-- A field of a value that never changes was to be set. -/
  | frozen
  /-- The data here was refused. -/
  | refused (cause : Cause)
  deriving DecidableEq, Repr

namespace Problem

/-- The short name of a kind of problem. -/
def label : Problem → String
  | .missing => "missing"
  | .unknownField => "extra_forbidden"
  | .notRecord _ => "model_type"
  | .notList => "list_type"
  | .notBool => "bool_type"
  | .unclearBool => "bool_parsing"
  | .brokenText => "string_unicode"
  | .frozen => "frozen_instance"
  | .refused _ => "value_error"

/-- The text of a problem. -/
def message : Problem → Text
  | .missing => "Field required"
  | .unknownField => "Extra inputs are not permitted"
  | .notRecord type => s!"Input should be a valid dictionary or instance of {type}"
  | .notList => "Input should be a valid list"
  | .notBool => "Input should be a valid boolean"
  | .unclearBool => "Input should be a valid boolean, unable to interpret input"
  | .brokenText =>
    "Input should be a valid string, unable to parse raw data as a unicode string"
  | .frozen => "Instance is frozen"
  | .refused cause => "Value error, " ++ cause.message

end Problem

/-- A problem and the way to the place where it was found. -/
structure Detail where
  /-- The way from the record's top. -/
  place : List Step
  /-- What is wrong there. -/
  problem : Problem
  deriving DecidableEq, Repr

/-- Why a value could not be built, encoded or taken apart. -/
inductive Fault
  /-- One cause, raised by itself. -/
  | cause (c : Cause)
  /-- The type of this name lacks a part of its definition. -/
  | undefined (type lacks : String)
  /-- A part of the definition of a type was needed and is not there. Only a type
      of single values says its name. -/
  | lacking (type : Option String) (part : String)
  /-- A value of this type stands where a row of bits is due. -/
  | notBits (given : String)
  /-- A value of this type stands where a row of elements is due. -/
  | notIterable (given : String)
  /-- An element of this type is no value of the element type. The details say
      why, unless the element's own check ended early. -/
  | element (type given : String) (details : List Detail)
  /-- The type of this name has no fixed size. -/
  | variableSize (type : String)
  /-- A record was checked and has problems. -/
  | invalid (details : List Detail)
  /-- A number does not fit the bytes it is to be written in. -/
  | tooWide
  /-- A negative number cannot be written in bytes. -/
  | negative
  /-- Bytes cannot be cut into elements of no size. -/
  | sizelessElement
  /-- A bit was to be set beyond the bytes there are. -/
  | bitBeyond
  /-- A byte was to be read beyond the end. -/
  | byteBeyond
  /-- The value is not of the type of this name. -/
  | foreign (type : String)
  deriving DecidableEq, Repr

namespace Fault

/-- The details a fault carries. -/
def details : Fault → List Detail
  | .element _ _ details => details
  | .invalid details => details
  | _ => []

/-- The text of a fault. A record's problems have no text of their own, being
    listed one by one. -/
def message : Fault → Text
  | .cause c => c.message
  | .undefined type lacks => s!"{type} must define {lacks}"
  | .lacking (some type) part => s!"type object '{type}' has no attribute '{part}'"
  | .lacking none part => part
  | .notBits given => s!"Bits must be an iterable of bools, got {given}"
  | .notIterable given => s!"Expected iterable, got {given}"
  | .element type given _ => s!"Expected {type}, got {given}"
  | .variableSize type => s!"{type} is variable-size"
  | .invalid _ => ""
  | .tooWide => "int too big to convert"
  | .negative => "can't convert negative int to unsigned"
  | .sizelessElement => "integer modulo by zero"
  | .bitBeyond => "bytearray index out of range"
  | .byteBeyond => "index out of range"
  | .foreign type => s!"not a value of {type}"

/-- One problem with the data that is being checked as a whole. -/
def problem (p : Problem) : Fault := .invalid [⟨[], p⟩]

/-- Turns a cause into a problem with the data that is being checked, so that
    it is collected rather than ending the check. -/
def refuse {α : Type} : Except Fault α → Except Fault α
  | .error (.cause c) => .error (problem (.refused c))
  | r => r

/-- Places the problems of a part under the step that leads to it. -/
def under {α : Type} (step : Step) : Except Fault α → Except Fault α
  | .error (.invalid details) =>
    .error (.invalid (details.map fun d => ⟨step :: d.place, d.problem⟩))
  | r => r

/-- Two parts of a record checked one after the other. Problems of both are
    collected; any other fault ends the check at once, the first part's before
    the second's. -/
def collect {α β γ : Type} (f : α → β → γ) : Except Fault α → Except Fault β → Except Fault γ
  | .ok a, .ok b => .ok (f a b)
  | .ok _, .error e => .error e
  | .error (.invalid ds), .ok _ => .error (.invalid ds)
  | .error (.invalid ds), .error (.invalid es) => .error (.invalid (ds ++ es))
  | .error (.invalid _), .error e => .error e
  | .error e, _ => .error e

/-- A field that a record must have. -/
def required {α δ : Type} (name : String) (check : δ → Except Fault α)
    (given : List (Text × δ)) : Except Fault α :=
  under (.field name) <| match given.lookup ↑name with
    | some d => check d
    | none => .error (problem .missing)

/-- The fields that are not among the known ones, in the order given. -/
def others {δ : Type} (known : List String) (given : List (Text × δ)) : List Text :=
  (given.map Prod.fst).filter fun name => !known.any fun k => name = k

/-- What comes of a record whose known fields were checked, when it may have no
    others. Every other field is a problem of its own, in the order given; but
    if the name of one is no string, the record as a whole cannot be read, and
    nothing else that was found in it is reported. -/
def closed {α δ : Type} (known : List String) (given : List (Text × δ))
    (checked : Except Fault α) : Except Fault α :=
  let others := others known given
  let refused : Except Fault Unit :=
    if others.isEmpty then .ok ()
    else .error (.invalid (others.map fun name => ⟨[.field name], .unknownField⟩))
  match collect (fun a _ => a) checked refused with
  | .error (.invalid details) =>
    if others.any Text.isBroken then .error (problem .brokenText) else .error (.invalid details)
  | r => r

end Fault

end Beacon
