import ScreenPages.Decimal.Fixed

/-!
# Lengths of time

Settings and scripts give times in milliseconds.  A test may give the time that it is ready to
wait more finely, and then the wait is as long as it says, but reports of it are in whole
milliseconds or in seconds with one place.

## Main definitions

* `Duration` — a length of time.
* `Duration.ofMillis`, `Duration.millis` — to and from milliseconds.
* `Duration.seconds` — its text.
-/

namespace ScreenPages

/-- A length of time. -/
structure Duration where
  nanos : Nat
  deriving DecidableEq, Repr, Inhabited

namespace Duration

/-- A number of milliseconds. -/
def ofMillis (ms : Nat) : Duration := ⟨1000000 * ms⟩

/-- The milliseconds that are over by the end of a time. -/
def millis (d : Duration) : Nat := d.nanos / 1000000

/-- A time in seconds with one place. -/
def seconds (d : Duration) : String :=
  Decimal.fixedFloat 1
    (Float.ofNat (d.nanos / 1000000000) + Float.ofNat (d.nanos % 1000000000) / 1000000000)

end Duration

end ScreenPages
