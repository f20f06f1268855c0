import ScreenPages.Template

/-!
# Captured values

A session keeps the last text that each capture variable stood for in an accepted match.

## Main definitions

* `Captured` — the values by variable.
* `Captured.record`, `Captured.get?`, `Captured.read` — the operations.
-/

namespace ScreenPages

/-- The last captured values; no variable has two. -/
structure Captured where
  values : List (Variable × String) := []
  deriving DecidableEq, Repr, Inhabited

namespace Captured

/-- What is read for a variable without a value. -/
def noValue : String := "<NO VALUE>"

/-- The last value of a variable. -/
def get? (c : Captured) (v : Variable) : Option String :=
  (c.values.find? fun e => e.1 == v).map Prod.snd

/-- The last value of a variable, or the text that says there is none. -/
def read (c : Captured) (v : Variable) : String := (c.get? v).getD noValue

/-- Stores one capture in place of an earlier one of the same variable. -/
def put (c : Captured) (capture : Capture) : Captured :=
  ⟨(capture.binder, capture.value) :: c.values.filter fun e => e.1 != capture.binder⟩

/-- Stores captures in order. -/
def record (c : Captured) (captures : List Capture) : Captured := captures.foldl put c

/-- The number of variables with a value. -/
def size (c : Captured) : Nat := c.values.length

end Captured

end ScreenPages
