import ScreenPages.Decimal.Binary

/-!
# The fewest digits that read back

A number is written with as few digits as identify it: among the decimals that are rounded
to it, one with the fewest digits, of those the nearest, and of two equally near ones the
one with an even last digit.  Exponents of the leading digit from -5 to 15 are written
positionally with at least one digit after the point, all others with a signed exponent.

## Main definitions

* `Binary.shortest` — the digits.
* `Decimal.layout` — how digits are laid out.
* `Decimal.render` — the text of a number, if it is finite.
-/

namespace ScreenPages

namespace Binary

/-- The least `k` with magnitude below `10 ^ k`, for a magnitude that is not zero: an
estimate from the binary logarithm, corrected by comparison. -/
def decimalWidth (x : Binary) : Int :=
  let estimate := (x.exponent + x.significand.log2) * 30103 / 100000
  if compareScaled 1 estimate x.significand x.exponent == .gt then estimate
  else if compareScaled 1 (estimate + 1) x.significand x.exponent == .gt then estimate + 1
  else estimate + 2

/-- Of the two neighbours of the magnitude on the grid of multiples of `10 ^ scale`, the one
to print, if any of them reads back. -/
def onGrid (x : Binary) (scale : Int) : Option Decimal :=
  let (numerator, denominator) := x.ratio (-scale)
  let low := numerator / denominator
  let twiceRest := 2 * (numerator % denominator)
  let lowReads := x.readsBack ⟨low, scale⟩
  let highReads := x.readsBack ⟨low + 1, scale⟩
  if lowReads && highReads then
    if twiceRest < denominator || (twiceRest = denominator && low % 2 = 0) then
      some ⟨low, scale⟩
    else some ⟨low + 1, scale⟩
  else if lowReads then some ⟨low, scale⟩
  else if highReads then some ⟨low + 1, scale⟩
  else none

/-- Moves trailing zeros from the digits into the exponent; `fuel` bounds their number. -/
def dropZeros : Nat → Decimal → Decimal
  | 0, d => d
  | fuel + 1, d => if d.digits % 10 = 0 then dropZeros fuel ⟨d.digits / 10, d.exponent + 1⟩ else d

/-- The exact decimal value of the magnitude. -/
def exact (x : Binary) : Decimal :=
  let shift := (-x.exponent).toNat
  ⟨x.significand * Nat.pow 2 x.exponent.toNat * Nat.pow 5 shift, -shift⟩

/-- The shortest decimal that reads back to the magnitude: one to seventeen digits are tried
in turn, and the exact value would stand if none of them did. -/
def shortest (x : Binary) : Decimal :=
  if x.significand = 0 then ⟨0, 0⟩
  else
    let width := x.decimalWidth
    let found := (List.range 17).findSome? fun n => x.onGrid (width - (n + 1 : Nat))
    dropZeros 17 (found.getD x.exact)

end Binary

namespace Decimal

/-- The decimal digits of a natural number. -/
def digitChars (n : Nat) : List Char := Nat.toDigits 10 n

/-- An exponent with its sign, after the letter `e`. -/
def exponentChars (e : Int) : List Char :=
  'e' :: (if e < 0 then '-' else '+') :: digitChars e.natAbs

/-- Digits laid out positionally where the leading digit has an exponent from -5 to 15, with
an exponent elsewhere. -/
def layout (d : Decimal) : List Char :=
  let ds := digitChars d.digits
  let lead := d.exponent + (ds.length - 1 : Nat)
  if -5 ≤ lead && lead < 16 then
    if lead < 0 then '0' :: '.' :: (List.replicate (-lead - 1).toNat '0' ++ ds)
    else
      let whole := lead.toNat + 1
      if ds.length ≤ whole then ds ++ List.replicate (whole - ds.length) '0' ++ ['.', '0']
      else ds.take whole ++ '.' :: ds.drop whole
  else
    match ds with
    | [] => []
    | [c] => c :: exponentChars lead
    | c :: rest => c :: '.' :: (rest ++ exponentChars lead)

/-- The text of a number; infinities and not-a-number have none. -/
def render (x : Float) : Option String :=
  (Binary.ofFloat? x).map fun b =>
    String.ofList ((if b.negative then ['-'] else []) ++ layout b.shortest)

end Decimal

end ScreenPages
