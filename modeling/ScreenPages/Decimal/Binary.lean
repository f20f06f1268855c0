/-!
# Finite numbers in binary

Coordinates and scroll vectors are 64-bit binary numbers.  Printing one exactly needs its
value as an integer times a power of two, and reading a decimal back needs the interval of
reals that are rounded to it.

## Main definitions

* `Binary`, `Binary.ofFloat?` — sign, integer significand and exponent of a finite number.
* `Decimal` — an integer times a power of ten.
* `Binary.readsBack` — whether a decimal is rounded to the number.
-/

namespace ScreenPages

/-- The magnitude and sign of a finite 64-bit number: `significand * 2 ^ exponent`. -/
structure Binary where
  /-- Whether the sign bit is set; zero has a sign too. -/
  negative : Bool
  /-- The integer significand. -/
  significand : Nat
  /-- The power of two it is scaled by. -/
  exponent : Int
  /-- Whether the gap to the next smaller magnitude is half the gap to the next larger. -/
  narrowBelow : Bool
  deriving DecidableEq, Repr, Inhabited

/-- A decimal: `digits * 10 ^ exponent`. -/
structure Decimal where
  /-- All digits, as one integer. -/
  digits : Nat
  /-- The power of ten it is scaled by. -/
  exponent : Int
  deriving DecidableEq, Repr, Inhabited

namespace Binary

/-- Sign, significand and exponent of a number; infinities and not-a-number have none. -/
def ofFloat? (x : Float) : Option Binary :=
  let bits := x.toBits.toNat
  let negative := bits / Nat.pow 2 63 = 1
  let biased : Nat := bits / Nat.pow 2 52 % Nat.pow 2 11
  let fraction := bits % Nat.pow 2 52
  if biased = 2047 then none
  else if biased = 0 then some ⟨negative, fraction, -1074, false⟩
  else some ⟨negative, Nat.pow 2 52 + fraction, (biased : Int) - 1075, fraction = 0 && 1 < biased⟩

/-- Compares `a * 10 ^ i` with `n * 2 ^ j`. -/
def compareScaled (a : Nat) (i : Int) (n : Nat) (j : Int) : Ordering :=
  compare (a * Nat.pow 10 i.toNat * Nat.pow 2 (-j).toNat)
    (n * Nat.pow 2 j.toNat * Nat.pow 10 (-i).toNat)

/-- Whether a decimal lies among the reals that are rounded to the magnitude: from halfway
to the neighbour below to halfway to the neighbour above, the ends included exactly when
the significand is even. -/
def readsBack (x : Binary) (d : Decimal) : Bool :=
  let low := if x.narrowBelow then 4 * x.significand - 1 else 4 * x.significand - 2
  let high := 4 * x.significand + 2
  let withEnds := x.significand % 2 = 0
  let fromLow := compareScaled d.digits d.exponent low (x.exponent - 2)
  let fromHigh := compareScaled d.digits d.exponent high (x.exponent - 2)
  (fromLow == .gt || (withEnds && fromLow == .eq)) &&
    (fromHigh == .lt || (withEnds && fromHigh == .eq))

/-- The magnitude times a power of ten, as a numerator over a denominator. -/
def ratio (x : Binary) (scale : Int) : Nat × Nat :=
  (x.significand * Nat.pow 2 x.exponent.toNat * Nat.pow 10 scale.toNat,
    Nat.pow 2 (-x.exponent).toNat * Nat.pow 10 (-scale).toNat)

end Binary

end ScreenPages
