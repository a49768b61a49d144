import Beacon.Http.Url
import Beacon.Merkle.Tree

/-!
# Kinds of Failure

The names that failures are reported under, and how they are related. Every
failure that the tool foresees is of one family, and every fault of a value or
an encoding of another. A kind may belong to more than one family: a value that
breaks a limit is a fault of a value and also a wrong value in general.

What a caller may rely on is the family, so a kind carries its ancestors, the
nearest first.

## Main definitions

* `Kind`: A kind of failure.
* `Kind.name`: The name it is reported under.
* `Kind.ancestors`, `Kind.isA`: The families it belongs to.
* `Fault.kind`, `RootFault.kind`, `UrlFault.kind`: The kinds of the faults of
  values, of roots and of locations.
-/

namespace Beacon

/-- A kind of failure. -/
inductive Kind
  /-- Anything that the tool foresees. -/
  | foreseen
  /-- The request is malformed. -/
  | usage
  /-- The timing of the network could not be had. -/
  | config
  /-- A time expression could not be read. -/
  | parse
  /-- A request to the node failed, or its answer cannot be used. -/
  | fetch
  /-- There is no block. -/
  | empty
  /-- A block could not be rendered. -/
  | render
  /-- A block could not be encoded. -/
  | encode
  /-- An output mode is not offered for a fork. -/
  | unsupported
  /-- A fork is not known. -/
  | unknownVersion
  /-- A fault of a value or an encoding. -/
  | ssz
  /-- A type lacks a part, or a value is of no use for it. -/
  | sszType
  /-- A value breaks a length or a limit. -/
  | sszValue
  /-- Bytes are no encoding. -/
  | decode
  /-- Bytes end too early. -/
  | truncated
  /-- An offset leads astray. -/
  | offset
  /-- A record has problems. -/
  | validation
  /-- A wrong value. -/
  | value
  /-- A value of a wrong type. -/
  | type
  /-- A number out of range. -/
  | overflow
  /-- A place out of range. -/
  | index
  /-- A division by zero. -/
  | zeroDivision
  /-- JSON is nested too deep. -/
  | nesting
  /-- A text cannot be written in a coding. -/
  | unencodable
  /-- A host name is not allowed. -/
  | hostName
  /-- A host name has a code point that is never allowed. -/
  | codePoint
  /-- A host name has a code point that is not allowed where it stands. -/
  | context
  /-- A host name mixes directions of writing in a way that is not allowed. -/
  | direction
  /-- The operating system refused. -/
  | system
  /-- A text is no location. -/
  | location
  /-- Someone interrupted the program. -/
  | interrupt
  /-- Anything at all that a program may handle. -/
  | anything
  /-- Anything at all. -/
  | everything
  /-- A kind of some other name. -/
  | other (name : String)
  deriving DecidableEq, Repr

namespace Kind

/-- The name a kind is reported under. -/
def name : Kind → String
  | foreseen => "BlockInfoError"
  | usage => "UsageError"
  | config => "ConfigError"
  | parse => "ParseError"
  | fetch => "FetchError"
  | empty => "EmptyBlockError"
  | render => "RenderError"
  | encode => "EncodeError"
  | unsupported => "UnsupportedCombination"
  | unknownVersion => "UnknownSchemaVersion"
  | ssz => "SSZError"
  | sszType => "SSZTypeError"
  | sszValue => "SSZValueError"
  | decode => "SSZDecodeError"
  | truncated => "SSZTruncatedError"
  | offset => "SSZOffsetError"
  | validation => "ValidationError"
  | value => "ValueError"
  | type => "TypeError"
  | overflow => "OverflowError"
  | index => "IndexError"
  | zeroDivision => "ZeroDivisionError"
  | nesting => "RecursionError"
  | unencodable => "UnicodeEncodeError"
  | hostName => "IDNAError"
  | codePoint => "InvalidCodepoint"
  | context => "InvalidCodepointContext"
  | direction => "IDNABidiError"
  | system => "OSError"
  | location => "InvalidURL"
  | interrupt => "KeyboardInterrupt"
  | anything => "Exception"
  | everything => "BaseException"
  | other name => name

/-- The kinds that have a name of their own. -/
def named : List Kind :=
  [foreseen, usage, config, parse, fetch, empty, render, encode, unsupported, unknownVersion,
    ssz, sszType, sszValue, decode, truncated, offset, validation, value, type, overflow, index,
    zeroDivision, nesting, unencodable, hostName, codePoint, context, direction, system, location,
    interrupt, anything, everything]

/-- The kind of a name. -/
def ofName (name : String) : Kind := (named.find? fun k => k.name = name).getD (other name)

/-- The families a kind belongs to, the nearest first. -/
def ancestors : Kind → List Kind
  | everything => []
  | anything => [everything]
  | interrupt => [everything]
  | usage | config | parse | fetch | empty | render => [foreseen, anything, everything]
  | encode | unsupported | unknownVersion => [render, foreseen, anything, everything]
  | sszType => [ssz, type, anything, everything]
  | sszValue => [ssz, value, anything, everything]
  | decode => [sszValue, ssz, value, anything, everything]
  | truncated | offset => [decode, sszValue, ssz, value, anything, everything]
  | validation => [value, anything, everything]
  | overflow | zeroDivision => [other "ArithmeticError", anything, everything]
  | index => [other "LookupError", anything, everything]
  | nesting => [other "RuntimeError", anything, everything]
  | unencodable | hostName => [other "UnicodeError", value, anything, everything]
  | codePoint | context | direction =>
    [hostName, other "UnicodeError", value, anything, everything]
  | _ => [anything, everything]

/-- Whether a kind is another one or belongs to its family. -/
def isA (k family : Kind) : Bool := k = family || k.ancestors.contains family

/-- A failure of a kind as it is shown to a programmer. -/
def shown (k : Kind) (message : Text) : String :=
  k.name ++ "(" ++ Quoted.text message ++ ")"

end Kind

/-- The kind of a cause. -/
def Cause.kind : Cause → Kind
  | .notInteger _ => .type
  | .notNumeric _ => .type
  | .outOfRange _ _ => .overflow
  | .notDecimal _ _ => .value
  | .tooManyDigits _ => .value
  | .notHex _ => .value
  | .notPositive => .value
  | .notBytes _ => .sszType
  | .decode _ (.truncated _ _) => .truncated
  | .decode _ (.offsets _ _ _) => .offset
  | .decode _ _ => .decode
  | .byteCount _ _ _ => .sszValue
  | .byteLimit _ _ _ => .sszValue
  | .badBit _ => .sszValue
  | .bitCount _ _ _ => .sszValue
  | .bitLimit _ _ _ => .sszValue
  | .elementCount _ _ _ => .sszValue
  | .elementLimit _ _ _ => .sszValue

/-- The kind of a fault. -/
def Fault.kind : Fault → Kind
  | .cause c => c.kind
  | .invalid _ => .validation
  | .tooWide => .overflow
  | .negative => .overflow
  | .sizelessElement => .zeroDivision
  | .bitBeyond => .index
  | .byteBeyond => .index
  | .undefined _ _ => .sszType
  | .lacking _ _ => .other "AttributeError"
  | .notBits _ => .sszType
  | .notIterable _ => .sszType
  | .element _ _ _ => .sszType
  | .variableSize _ => .sszType
  | .foreign _ => .sszType

/-- The kind of a fault of a root. -/
def RootFault.kind : RootFault → Kind
  | .tooMany _ _ => .value
  | .tooDeep => .index
  | .negativeLength => .value
  | .lengthTooWide => .overflow
  | .noUnits => .zeroDivision
  | .untyped _ => .type
  | .encoding fault => fault.kind

/-- The kind of a fault of a label. -/
def LabelFault.kind : LabelFault → Kind
  | .context _ _ _ => .context
  | .forbidden _ _ _ => .codePoint
  | .unknownDirection _ _ => .direction
  | .directionAtStart _ => .direction
  | .againstRight _ => .direction
  | .againstLeft _ => .direction
  | .mixedNumbers => .direction
  | .directionAtEnd => .direction
  | _ => .hostName

/-- The kind of a fault of a location. -/
def UrlFault.kind : UrlFault → Kind
  | .charset _ => .unencodable
  | .label fault => fault.kind
  | _ => .location

/-- What a fault says about the bytes it was found in, by name. -/
def DecodeFault.particulars : DecodeFault → List (Text × Datum)
  | .truncated expected actual =>
    [("expected_bytes", .int expected), ("actual_bytes", .int actual)]
  | .offsets field start stop =>
    [("field_name", .text field), ("start", .int start), ("end", .int stop)]
  | _ => []

/-- The particulars of a fault by name. Only faults of encodings have any. -/
def Fault.particulars : Fault → List (Text × Datum)
  | .cause (.decode type fault) =>
    ("type_name", .text type) :: ("detail", .text fault.detail) :: fault.particulars
  | _ => []

end Beacon
