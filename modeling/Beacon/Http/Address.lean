import Beacon.Number.Decimal
import Beacon.Bytes.Hex
import Beacon.Text.Cut

/-!
# Numeric Addresses

The two numeric forms that a host may have. An address of version four is four
numbers below 256 with points between them. One of version six is eight groups
of up to four hexadecimal digits with colons between them; two groups may be
written as an address of version four at the end, one run of groups may be left
out where two colons meet, and the name of an interface may follow after a
percent sign.

A host that looks like four numbers, however long they are, is held to be an
address, so it is a fault if it is none.

## Main definitions

* `Address.isFour`, `Address.isSix`: Whether a text is an address.
* `Address.looksLikeFour`: Whether a text is held to be one of version four.
-/

namespace Beacon

namespace Address

/-- Whether a text is held to be an address of version four: it is four numerals
    with points between them. -/
def looksLikeFour (cs : List Char) : Bool :=
  let parts := Text.pieces '.' cs
  parts.length = 4 && parts.all Decimal.isNumeral

/-- Whether digits are a number below 256 without leading zeros. -/
def isOctet (cs : List Char) : Bool :=
  Decimal.isNumeral cs && Decimal.value cs < 256 && (cs.length = 1 || cs.head? ≠ some '0')

/-- Whether a text is an address of version four. -/
def isFour (cs : List Char) : Bool :=
  let parts := Text.pieces '.' cs
  parts.length = 4 && parts.all isOctet

/-- Whether a text is a group of an address of version six. -/
def isGroup (cs : List Char) : Bool :=
  !cs.isEmpty && cs.length ≤ 4 && cs.all fun c => (Hex.value? c).isSome

/-- The groups of an address, an address of version four at the end counting as
    two. -/
def groups (parts : List (List Char)) : Option (List (List Char)) :=
  match parts.getLast? with
  | some last =>
    if last.contains '.' then
      if isFour last then some (parts.dropLast ++ [['0'], ['0']]) else none
    else some parts
  | none => none

/-- The groups on one side of the gap, `outer` being the one at the far end. An
    empty one there belongs to the gap, and then it is the only one. -/
def isSide (outer : Option (List Char)) (side : List (List Char)) : Bool :=
  if outer = some [] then side.length = 1 else side.all isGroup

/-- The number of groups on a side of the gap. -/
def sideLength (side : List (List Char)) : Nat := (side.filter fun cs => !cs.isEmpty).length

/-- Whether groups, empty where the text has two colons or ends in one, are an
    address of version six. -/
def areSix (parts : List (List Char)) : Bool :=
  let inner := (parts.drop 1).dropLast
  match inner.count [] with
  | 0 => parts.length = 8 && parts.all isGroup
  | 1 =>
    let gap := inner.findIdx List.isEmpty + 1
    let before := parts.take gap
    let after := parts.drop (gap + 1)
    isSide before.head? before && isSide after.getLast? after
      && sideLength before + sideLength after < 8
  | _ => false

/-- Whether a text is an address of version six. -/
def isSix (cs : List Char) : Bool :=
  let (address, scope) := Text.cutAt '%' cs
  let parts := Text.pieces ':' address
  scope.all (fun name => !name.isEmpty && !name.contains '%')
    && 3 ≤ parts.length && ((groups parts).map areSix).getD false

end Address

end Beacon
