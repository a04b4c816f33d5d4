/-
# Characters without a shape of their own

Two classes of characters are not shown as they are in quoted text: those that print nothing and
those that attach to the character before them. Of ASCII only the controls belong to them.
-/
import TenantFleet.Text.Invisible
import TenantFleet.Text.Extending

namespace TenantFleet.Text

/-- Whether one of the ranges holds a code point. -/
def inRanges (ranges : List (Nat × Nat)) (n : Nat) : Bool :=
  ranges.any fun r => r.1 ≤ n && n ≤ r.2

/-- Whether a character prints nothing. -/
def isInvisible (c : Char) : Bool :=
  c.toNat < 0x20 || c.toNat = 0x7f || (0x80 ≤ c.toNat && inRanges invisibleRanges c.toNat)

/-- Whether a character attaches to the one before it. -/
def isExtending (c : Char) : Bool := 0x80 ≤ c.toNat && inRanges extendingRanges c.toNat

end TenantFleet.Text
