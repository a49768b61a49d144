import Beacon.HostName.Label

/-!
# Host Names

A host name is a row of labels with dots between them, and there may be a dot at
its end. Where a script has a full stop of its own, it serves as the dot.

A name in which something is not ASCII is written label by label. One that is
all ASCII goes to its host as it is; but if it begins with the mark of an
encoded label, whoever wants to know the host decodes it, and then all of its
labels have to be allowed.

## Main definitions

* `HostName.labels`: The labels of a name.
* `HostName.encode`: A name in ASCII.
* `HostName.check`: Whether a name that begins encoded can be decoded.
-/

namespace Beacon

namespace HostName

/-- The dots of all scripts. -/
def isDot (n : Nat) : Bool := n = 0x2e || n = 0x3002 || n = 0xff0e || n = 0xff61

/-- The most characters of a name, a dot at its end apart. -/
def maxLength : Nat := 253

/-- The pieces of a name between its dots. -/
def pieces : Text → List Text
  | [] => [[]]
  | p :: rest =>
    if isDot p.code then [] :: pieces rest
    else match pieces rest with
      | piece :: more => (p :: piece) :: more
      | [] => [[p]]

/-- The labels of a name, and whether there is a dot at its end. -/
def labels (name : Text) : List Text × Bool :=
  let pieces := pieces name
  if pieces.getLast? = some [] then (pieces.dropLast, true) else (pieces, false)

/-- A name in ASCII. -/
def encode (name : Text) : Except LabelFault (List Char) := do
  if maxLength + 1 < name.length then .error .nameTooLong
  let (labels, isOpen) := labels name
  let encoded ← labels.mapM Label.encode
  let encoded := ['.'].intercalate encoded ++ (if isOpen then ['.'] else [])
  if maxLength + (if isOpen then 1 else 0) < encoded.length then .error .nameTooLong
  else .ok encoded

/-- Checks whether a name in ASCII that begins with the mark of an encoded label
    can be decoded. Any other name is not looked at. -/
def check (name : List Char) : Except LabelFault Unit :=
  if Label.mark.isPrefixOf name then
    if maxLength + 1 < name.length then .error .nameTooLong
    else (labels (Text.ofChars name)).1.forM fun label => Label.checkAscii label.chars
  else .ok ()

end HostName

end Beacon
