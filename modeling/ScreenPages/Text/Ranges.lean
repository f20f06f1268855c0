/-!
# Sets of code points

A property of characters is stored as the ascending list of the code points at which it
changes: it is absent below the first, present from there to the second, and so on.

## Main definitions

* `Text.inRanges` — membership of a code point in such a set.
-/

namespace ScreenPages.Text

/-- Whether a code point is in the set that changes at the given code points: each change
that is not above it turns membership over. -/
def inRanges : List Nat → Nat → Bool
  | [], _ => false
  | b :: rest, n => if n < b then false else !inRanges rest n

end ScreenPages.Text
