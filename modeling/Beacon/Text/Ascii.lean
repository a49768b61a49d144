/-!
# ASCII Letters

Case where only ASCII counts: every other character is its own lowercase.
-/

namespace Beacon

namespace Ascii

/-- An ASCII letter in lowercase, and any other character itself. -/
def lower (c : Char) : Char :=
  if 'A' ≤ c ∧ c ≤ 'Z' then Char.ofNat (c.toNat + 32) else c

end Ascii

end Beacon
