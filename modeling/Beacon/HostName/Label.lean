import Beacon.HostName.Context
import Beacon.HostName.Direction
import Beacon.HostName.Permitted
import Beacon.HostName.Punycode
import Beacon.Text.Ascii
import Beacon.Text.Normal

/-!
# Labels of Host Names

A label is what stands between two dots of a host name. It is made of letters,
digits and hyphens, with the letters of any script, and what it may look like is
checked in this order: that there is something and not too much of it, that it
is in composed form, where its hyphens are, that no mark comes first, that every
code point is allowed where it stands, and the direction of writing.

On the way to a host a label has to be in ASCII. One that is not is encoded, and
a mark at the beginning says so. Conversely, a label with that mark has to be
the encoding of a label.

## Main definitions

* `Label.check`: Whether a label is allowed.
* `Label.checkAscii`: Whether a label in ASCII is allowed, or the encoding of
  one that is.
* `Label.encode`: A label in ASCII.
-/

namespace Beacon

namespace Label

/-- The most code points of a label while it is checked. -/
def maxLength : Nat := 254

/-- The most characters of a label in ASCII. -/
def maxEncoded : Nat := 63

/-- What an encoded label begins with. -/
def mark : List Char := "xn--".toList

/-- The hyphen. -/
def hyphen : CodePoint := .char '-'

/-- Checks where the hyphens of a label are. -/
def checkHyphens (label : Text) : Except LabelFault Unit :=
  if (label.drop 2).take 2 = [hyphen, hyphen] then .error .innerHyphens
  else if label.head? = some hyphen ∨ label.getLast? = some hyphen then .error .outerHyphen
  else .ok ()

/-- Checks that every code point is allowed where it stands, `before` being
    those before it, last first. -/
def checkPoints (label : Text) (before : List Nat) : Text → Except LabelFault Unit
  | [] => .ok ()
  | p :: rest =>
    let n := p.code
    let after := rest.map CodePoint.code
    let position := before.length + 1
    if HostName.isPermitted n then checkPoints label (n :: before) rest
    else if Context.isJoiner n then
      if Context.joins n before after then checkPoints label (n :: before) rest
      else .error (.joiner p position label)
    else if Context.isBound n then
      if Context.suits n before after then checkPoints label (n :: before) rest
      else .error (.context p position label)
    else .error (.forbidden p position label)

/-- Checks whether a label is allowed. -/
def check (label : Text) : Except LabelFault Unit := do
  if label.isEmpty then .error .empty
  if maxLength < label.length then .error .tooLong
  if !Text.isComposed (label.map CodePoint.code) then .error .notComposed
  checkHyphens label
  if (label.head?.map fun p => Text.isMark p.code) = some true then .error .leadingMark
  checkPoints label [] label
  Direction.check label

/-- Checks whether a label in ASCII is allowed, or the encoding of one that is. -/
def checkAscii (label : List Char) : Except LabelFault Unit :=
  let label := label.map Ascii.lower
  if mark.isPrefixOf label then
    let encoded := label.drop mark.length
    if encoded.isEmpty then .error .bareMark
    else if encoded.getLast? = some '-' then .error .openEnd
    else match Punycode.decode? encoded with
      | some ns => check (ns.map CodePoint.ofNat)
      | none => .error .undecodable
  else check (Text.ofChars label)

/-- A label in ASCII, as it is or encoded. -/
def encode (label : Text) : Except LabelFault (List Char) := do
  let encoded ← if label.all CodePoint.isAscii then do
      checkAscii label.chars
      pure label.chars
    else do
      check label
      pure (mark ++ Punycode.encode (label.map CodePoint.code))
  if maxEncoded < encoded.length then .error .tooLong else .ok encoded

end Label

end Beacon
