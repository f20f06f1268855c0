import ScreenPages.Decimal.Shortest

/-!
# Numbers in JSON

A number is read as a natural number or a negative integer when it is written without a
point and an exponent and fits 64 bits, and as a binary real otherwise.  The digits of a
real go into a significand as long as it fits 64 bits; the digits after that only count for
the exponent.  The significand is then scaled by a power of ten, with one rounding for the
significand and one for the scaling.

## Main definitions

* `Number` — the value of a number.
* `Numeral` — a number as it is written.
* `Numeral.value?` — the value of a numeral, or nothing if it is out of range.
-/

namespace ScreenPages.Json

/-- The value of a number. -/
inductive Number where
  /-- A natural number below `2 ^ 64`. -/
  | natural (n : Nat) : Number
  /-- The negative of a positive natural number up to `2 ^ 63`. -/
  | negative (n : Nat) : Number
  /-- A binary real. -/
  | real (x : Float) : Number
  deriving Repr, Inhabited

namespace Number

/-- The number as a binary real. -/
def toFloat : Number → Float
  | natural n => Float.ofNat n
  | negative n => -Float.ofNat n
  | real x => x

/-- The text of a number; infinities and not-a-number are written as `null`. -/
def text : Number → String
  | natural n => String.ofList (Decimal.digitChars n)
  | negative n => String.ofList ('-' :: Decimal.digitChars n)
  | real x => (Decimal.render x).getD "null"

end Number

/-- A number as it is written: the values of its digits in order. -/
structure Numeral where
  /-- Whether a minus sign stands in front. -/
  negative : Bool
  /-- The digits before the point. -/
  whole : List Nat
  /-- The digits after the point, none if there is no point. -/
  fraction : List Nat
  /-- The exponent: whether it is negative, and its digits. -/
  exponent : Option (Bool × List Nat)
  deriving DecidableEq, Repr, Inhabited

namespace Numeral

/-- Takes digits into a significand as long as it stays below `2 ^ 64`; the rest is counted. -/
def takeDigits (significand : Nat) : List Nat → Nat × Nat
  | [] => (significand, 0)
  | d :: ds =>
    if significand * 10 + d < Nat.pow 2 64 then takeDigits (significand * 10 + d) ds
    else (significand, ds.length + 1)

/-- The power of ten nearest to `10 ^ n`. -/
def powerOfTen (n : Nat) : Float := Float.ofScientific 1 false n

/-- Scales by a power of ten, nothing if the result is infinite.  Powers below `10 ^ -308`
are applied in steps; after three steps nothing is left of any significand. -/
def scale : Nat → Float → Int → Option Float
  | 0, x, _ => some x
  | steps + 1, x, e =>
    if e.natAbs ≤ 308 then
      if 0 ≤ e then
        let y := x * powerOfTen e.natAbs
        if y.isInf then none else some y
      else some (x / powerOfTen e.natAbs)
    else if x == 0 then some x
    else if 0 ≤ e then none
    else scale steps (x / powerOfTen 308) (e + 308)

/-- The value of a list of decimal digits. -/
def ofDigits (ds : List Nat) : Nat := ds.foldl (fun n d => n * 10 + d) 0

/-- The largest exponent that is read exactly. -/
def maxExponent : Nat := Nat.pow 2 31 - 1

/-- The magnitude of a numeral with a point, an exponent or too many digits. -/
def realMagnitude (significand : Nat) (start : Int) : Option (Bool × List Nat) → Option Float
  | none => scale 4 (Float.ofNat significand) start
  | some (below, ds) =>
    let e := ofDigits ds
    if maxExponent < e then if significand ≠ 0 && !below then none else some 0
    else scale 4 (Float.ofNat significand) (if below then start - e else start + e)

/-- The value of a numeral, or nothing if it is out of range. -/
def value? (n : Numeral) : Option Number :=
  let (significand, dropped) := takeDigits 0 n.whole
  if n.fraction.isEmpty && n.exponent.isNone && dropped = 0 then
    if !n.negative then some (.natural significand)
    else if significand = 0 || Nat.pow 2 63 < significand then some (.real (-Float.ofNat significand))
    else some (.negative significand)
  else
    let (significand, left) := takeDigits significand n.fraction
    let start : Int := (dropped : Int) - ((n.fraction.length - left : Nat) : Int)
    (realMagnitude significand start n.exponent).map fun x =>
      .real (if n.negative then -x else x)

end Numeral

end ScreenPages.Json
