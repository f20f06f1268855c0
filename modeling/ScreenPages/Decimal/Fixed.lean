import ScreenPages.Decimal.Binary

/-!
# A fixed number of places

Frames in listings are rounded to whole points and durations in messages to tenths of a
second.  The exact value is rounded to the nearest multiple, a half goes to the even
neighbour, and the sign of a negative number stays even if nothing else is left of it.

## Main definitions

* `Decimal.roundDiv` — a quotient rounded to the nearest integer, halves to even.
* `Decimal.fixed` — the text of a number with a fixed number of places.
-/

namespace ScreenPages.Decimal

/-- The integer nearest to `numerator / denominator`; a half goes to the even neighbour. -/
def roundDiv (numerator denominator : Nat) : Nat :=
  let low := numerator / denominator
  let twiceRest := 2 * (numerator % denominator)
  if twiceRest < denominator || (twiceRest = denominator && low % 2 = 0) then low else low + 1

/-- At least `width` characters, filled with zeros on the left. -/
def padZeros (width : Nat) (cs : List Char) : List Char :=
  List.replicate (width - cs.length) '0' ++ cs

/-- A number rounded to a fixed number of places, with a point only if there are any. -/
def fixed (places : Nat) (x : Binary) : String :=
  let (numerator, denominator) := x.ratio places
  let cs := padZeros (places + 1) (Nat.toDigits 10 (roundDiv numerator denominator))
  let whole := cs.take (cs.length - places)
  let rest := if places = 0 then [] else '.' :: cs.drop (cs.length - places)
  String.ofList ((if x.negative then ['-'] else []) ++ whole ++ rest)

/-- A finite number rounded to a fixed number of places; nothing for any other. -/
def fixedFloat (places : Nat) (x : Float) : String :=
  ((Binary.ofFloat? x).map (fixed places)).getD ""

end ScreenPages.Decimal
