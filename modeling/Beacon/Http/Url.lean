import Beacon.HostName.Basic
import Beacon.Http.Address
import Beacon.Http.Percent
import Beacon.Number.Spelling
import Beacon.Text.Case
import Beacon.Text.Cut

/-!
# Locations

Where a request goes. A location is read from text in five parts, of which all
but the path may be missing: a scheme up to the first colon, an authority after
two slashes, a path, a query after a question mark, and a fragment after a
number sign. The authority names a host and may add a user before it and a port
after it.

Reading also brings a location into one form. The scheme and the host are in
lowercase, a host name of another script is written in ASCII, a port that goes
without saying is left out, steps of one or two dots are taken out of the path,
and what cannot stand as itself is escaped. A path that is read by itself,
without a scheme and an authority, keeps its dots until it is put under a base.

Putting a path under a base appends it, and its query with it. A path brought
along by a caller can therefore reach into the query, and its dots can lead out
of the place it was put in. Whenever a location is put together from parts,
each of its parts is measured again and its host is looked at again, because
escapes and the writing in ASCII can have changed both.

A request can be sent to a location if the host is one that can be told in
ASCII; an encoded host name has to be the encoding of a name.

## Main definitions

* `Url`: A location.
* `UrlFault`: Why a text is no location.
* `Url.read`, `Url.text`: A location from text and as text.
* `Url.under`: A location put under a base.
* `Url.withQuery`: A location with another query.
* `Url.checkHost`: Whether a request can be sent to a location.
-/

namespace Beacon

/-- Why a text is no location, or a location none to send a request to. -/
inductive UrlFault
  /-- It has too many characters. -/
  | tooLong
  /-- One of its parts has too many characters. -/
  | partTooLong (part : String)
  /-- It has an ASCII character at this position that does not print. -/
  | unprintable (point : CodePoint) (position : Nat)
  /-- The port is no number. -/
  | port (text : Text)
  /-- The host looks like an address of four numbers and is none. -/
  | fourNumbers (host : Text)
  /-- The host looks like an address in brackets and is none. -/
  | brackets (host : Text)
  /-- The host is not ASCII and cannot be written in ASCII. -/
  | hostName (host : Text)
  /-- A path after an authority does not begin with a slash. -/
  | rootless
  /-- A path by itself begins with two slashes. -/
  | twoSlashes
  /-- A path by itself begins with a colon. -/
  | colon
  /-- A part cannot be written in the characters that are needed. -/
  | charset (fault : CharsetFault)
  /-- The host claims to be an encoded name and is none. -/
  | label (fault : LabelFault)
  deriving DecidableEq, Repr

/-- The text of a fault. -/
def UrlFault.message : UrlFault → String
  | .tooLong => "URL too long"
  | .partTooLong part => s!"URL component '{part}' too long"
  | .unprintable point position =>
    s!"Invalid non-printable ASCII character in URL, {Quoted.text [point]} at position "
      ++ s!"{position}."
  | .port text => s!"Invalid port: {Quoted.text text}"
  | .fourNumbers host => s!"Invalid IPv4 address: {Quoted.text host}"
  | .brackets host => s!"Invalid IPv6 address: {Quoted.text host}"
  | .hostName host => s!"Invalid IDNA hostname: {Quoted.text host}"
  | .rootless => "For absolute URLs, path must be empty or begin with '/'"
  | .twoSlashes => "Relative URLs cannot have a path starting with '//'"
  | .colon => "Relative URLs cannot have a path starting with ':'"
  | .charset fault => fault.message
  | .label fault => fault.message

/-- A location. -/
structure Url where
  /-- The scheme, in lowercase. -/
  scheme : List Char
  /-- The user, escaped. -/
  user : List Char
  /-- The host, an address of version six without its brackets. -/
  host : Text
  /-- The port, unless it goes without saying. -/
  port : Option Int
  /-- The path, escaped. -/
  path : List Char
  /-- The query, escaped and without its question mark. -/
  query : Option (List Char)
  /-- The fragment, escaped and without its number sign. -/
  fragment : Option (List Char)
  deriving DecidableEq, Repr

namespace Url

/-! ### Safe characters -/

/-- Whether a character is printable ASCII and not among those given. -/
def isPlain (others : String) (c : Char) : Bool :=
  0x20 < c.toNat && c.toNat < 0x7f && !others.toList.contains c

/-- What is safe in a fragment. -/
def fragmentSafe : Char → Bool := isPlain "\"<>`"

/-- What is safe in a query. -/
def querySafe : Char → Bool := isPlain "\"#<>"

/-- What is safe in a path. -/
def pathSafe : Char → Bool := isPlain "\"#<>?`\x7b\x7d"

/-- What is safe in the name of a user. -/
def userSafe : Char → Bool := isPlain "\"#<>?`\x7b\x7d/;=@[\\]^|"

/-- What is safe in the name of a host. -/
def hostSafe (c : Char) : Bool := "!$&'()*+,;=\"`\x7b\x7d%|\\".toList.contains c

/-! ### Hosts and ports -/

/-- The inside of brackets, if a text is one in brackets. -/
def inBrackets? (t : Text) : Option Text :=
  match t, t.getLast? with
  | .char '[' :: inner, some (.char ']') => some inner.dropLast
  | _, _ => none

/-- The host that a text names, in its one form. -/
def readHost (t : Text) : Except UrlFault Text :=
  if Address.looksLikeFour t.chars then
    if Address.isFour t.chars then .ok t else .error (.fourNumbers t)
  else match inBrackets? t with
    | some inner =>
      if Address.isSix inner.chars then .ok inner else .error (.brackets t)
    | none =>
      if t.all CodePoint.isAscii then
        .ok (Text.ofChars (Percent.encode hostSafe (Text.lower t).chars))
      else match HostName.encode (Text.lower t) with
        | .ok cs => .ok (Text.ofChars cs)
        | .error _ => .error (.hostName t)

/-- A host as it stands in an authority. -/
def hostText (host : Text) : Text :=
  if host.contains (.char ':') then .char '[' :: host ++ [.char ']'] else host

/-- The port that goes without saying. -/
def usualPort : List Char → Option Int
  | ['h', 't', 't', 'p'] | ['w', 's'] => some 80
  | ['h', 't', 't', 'p', 's'] | ['w', 's', 's'] => some 443
  | ['f', 't', 'p'] => some 21
  | _ => none

/-- A port, unless it goes without saying. -/
def readPort (scheme : List Char) (t : Text) : Except UrlFault (Option Int) :=
  if t.isEmpty then .ok none
  else match Decimal.ofText? t.legible with
    | some n => .ok (if usualPort scheme = some n then none else some n)
    | none => .error (.port t)

/-- A port as it stands in an authority. -/
def portText (port : Option Int) : Text :=
  port.elim [] fun n => .char ':' :: Text.ofString (Decimal.signed n)

/-- The user of an authority and what follows. The user ends at the last at
    sign. -/
def splitUser (t : Text) : Text × Text :=
  if t.contains (.char '@') then
    let rest := t.reverse.takeWhile (· ≠ .char '@')
    ((t.reverse.drop (rest.length + 1)).reverse, rest.reverse)
  else ([], t)

/-- The host of an authority without a user, and what follows. A host in
    brackets ends at the last closing one. -/
def splitHost (t : Text) : Text × Text :=
  if t.head? = some (.char '[') && t.contains (.char ']') then
    let rest := t.reverse.takeWhile (· ≠ .char ']')
    ((t.reverse.drop rest.length).reverse, rest.reverse)
  else (t.takeWhile (· ≠ .char ':'), t.dropWhile (· ≠ .char ':'))

/-- A text without a colon at its beginning. -/
def afterColon : Text → Text
  | .char ':' :: rest => rest
  | t => t

/-! ### Paths -/

/-- The steps of a path that are left when those of one dot are taken out, and
    those of two dots with the step before them. `done` are the steps so far,
    last first. -/
def withoutDots (done : List Text) : List Text → List Text
  | [] => done.reverse
  | [.char '.'] :: rest => withoutDots done rest
  | [.char '.', .char '.'] :: rest =>
    withoutDots (if done = [[]] then done else done.drop 1) rest
  | step :: rest => withoutDots (step :: done) rest

/-- A path with its dots taken out. -/
def normalPath (t : Text) : Text :=
  Text.join "/" (withoutDots [] (Text.pieces (.char '/') t))

/-- A part with its unsafe characters escaped. -/
def escaped (safe : Char → Bool) (t : Text) : Except UrlFault (List Char) :=
  (Percent.encodeText safe t).mapError .charset

/-- A part that may be missing with its unsafe characters escaped. -/
def escapedIfAny (safe : Char → Bool) : Option Text → Except UrlFault (Option (List Char))
  | some t => (escaped safe t).map some
  | none => .ok none

/-- A location from its parts. Those before the path have to be in their one
    form, and the others are brought into it. -/
def assemble (scheme user : List Char) (host : Text) (port : Option Int) (path : Text)
    (query fragment : Option Text) : Except UrlFault Url :=
  let hasAuthority := !(user.isEmpty && host.isEmpty && port.isNone)
  let isBare := scheme.isEmpty && !hasAuthority
  if hasAuthority && !path.isEmpty && path.head? ≠ some (.char '/') then .error .rootless
  else if isBare && path.take 2 = Text.ofString "//" then .error .twoSlashes
  else if isBare && path.head? = some (.char ':') then .error .colon
  else do
    let path ← escaped pathSafe (if isBare then path else normalPath path)
    let query ← escapedIfAny querySafe query
    let fragment ← escapedIfAny fragmentSafe fragment
    pure ⟨scheme, user, host, port, path, query, fragment⟩

/-! ### Reading and writing -/

/-- The most characters a location or a part of it may have. -/
def maxLength : Nat := 65536

/-- Whether an ASCII character does not print. -/
def isUnprintable (c : Char) : Bool := c.toNat < 0x20 || c.toNat = 0x7f

/-- Whether a character may stand in a scheme. -/
def isSchemeChar (c : Char) : Bool := c.isAlphanum || c = '+' || c = '-' || c = '.'

/-- The scheme of a text and what follows its colon. -/
def splitScheme (t : Text) : List Char × Text :=
  match Text.span isSchemeChar t with
  | (c :: cs, .char ':' :: rest) => if c.isAlpha then (c :: cs, rest) else ([], t)
  | _ => ([], t)

/-- Whether a code point may stand in an authority. -/
def isInAuthority (p : CodePoint) : Bool :=
  !(p = .char '/' || p = .char '?' || p = .char '#')

/-- The authority of a text and what follows it. -/
def splitAuthority : Text → Text × Text
  | .char '/' :: .char '/' :: rest => (rest.takeWhile isInAuthority, rest.dropWhile isInAuthority)
  | t => ([], t)

/-- A location from text. -/
def read (t : Text) : Except UrlFault Url :=
  if maxLength < t.length then .error .tooLong
  else match t.findIdx? (CodePoint.isA isUnprintable) with
    | some n => .error (.unprintable (t.getD n default) n)
    | none => do
      let (scheme, rest) := splitScheme t
      let (authority, rest) := splitAuthority rest
      let (rest, fragment) := Text.cutAt (.char '#') rest
      let (path, query) := Text.cutAt (.char '?') rest
      let (user, rest) := splitUser authority
      let (host, rest) := splitHost rest
      let scheme := scheme.map Char.toLower
      let user ← escaped userSafe user
      let host ← readHost host
      let port ← readPort scheme (afterColon rest)
      assemble scheme user host port path query fragment

/-- The authority of a location. -/
def authority (u : Url) : Text :=
  Text.ofChars (if u.user.isEmpty then [] else u.user ++ ['@']) ++ hostText u.host
    ++ portText u.port

/-- A part of a location with the sign before it. -/
def marked (sign : Char) : Option (List Char) → List Char
  | some cs => sign :: cs
  | none => []

/-- The text of a location. -/
def text (u : Url) : Text :=
  Text.ofChars (if u.scheme.isEmpty then [] else u.scheme ++ [':'])
    ++ (if u.authority.isEmpty then [] else Text.ofString "//" ++ u.authority)
    ++ Text.ofChars (u.path ++ marked '?' u.query ++ marked '#' u.fragment)

/-- The path of a location, which is never empty, with its query. -/
def target (u : Url) : List Char :=
  (if u.path.isEmpty then ['/'] else u.path) ++ marked '?' u.query

/-- Refuses a part that has too many characters. -/
def measure (part : String) (length : Nat) : Except UrlFault Unit :=
  if maxLength < length then .error (.partTooLong part) else .ok ()

/-- A location put together again, with another path and query. -/
def withParts (u : Url) (path : List Char) (query : Option (List Char)) : Except UrlFault Url := do
  measure "scheme" u.scheme.length
  measure "authority" u.authority.length
  measure "path" path.length
  measure "query" (query.getD []).length
  measure "fragment" (u.fragment.getD []).length
  let host ← readHost (hostText u.host)
  assemble u.scheme u.user host u.port (Text.ofChars path) (query.map Text.ofChars)
    (u.fragment.map Text.ofChars)

/-- A location with another path and query, given as one. -/
def withTarget (u : Url) (target : List Char) : Except UrlFault Url :=
  let (path, query) := Text.cutAt '?' target
  u.withParts path query

/-- A location whose path ends in a slash, so that others can be put under
    it. -/
def asBase (u : Url) : Except UrlFault Url :=
  if u.target.getLast? = some '/' then .ok u else u.withTarget (u.target ++ ['/'])

/-- A location put under a base. -/
def under (base u : Url) : Except UrlFault Url :=
  base.withTarget (base.target ++ u.target.dropWhile (· = '/'))

/-- A location with another query. -/
def withQuery (u : Url) (query : List Char) : Except UrlFault Url := u.withParts u.path (some query)

/-- Checks whether a request can be sent to a location. Without a host there is
    nothing to check. -/
def checkHost (u : Url) : Except UrlFault Unit := do
  (HostName.check u.host.chars).mapError .label
  if !u.host.isEmpty then
    discard ((Charset.ascii.check (hostText u.host ++ portText u.port)).mapError .charset)

/-- The path of a location with its escapes resolved. -/
def place (u : Url) : String :=
  String.ofList (Percent.decode (if u.path.isEmpty then ['/'] else u.path))

/-- Whether the text of a location begins with a word and a colon, as that of
    every location with a scheme does. -/
def isTyped (u : Url) : Bool :=
  let word := u.text.takeWhile fun p => !(p = .char '/' || p = .char ':')
  !word.isEmpty && (u.text.drop word.length).head? = some (.char ':')

end Url

end Beacon
