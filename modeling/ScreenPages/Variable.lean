import ScreenPages.Uuid

/-!
# Capture variables

A label or value may hold places whose text is not known beforehand.  Each place belongs to
a **capture variable**, which is known by a universal identifier.  The place of a variable is
written as its identifier in upper case between braces.

## Main definitions

* `Variable` — a capture variable.
* `Variable.placeholder` — its place in a text.
* `Variable.ofPlaceholder?` — the place at the front of a text.
-/

namespace ScreenPages

/-- A capture variable, known by its identifier. -/
abbrev Variable := Uuid

namespace Variable

open Uuid

/-- The characters that stand for a variable in a pattern. -/
def placeholderChars (v : Variable) : List Char :=
  '\x7b' :: (hyphenate groups (v.digits.map upperDigit) ++ ['\x7d'])

/-- The text that stands for a variable in a pattern. -/
def placeholder (v : Variable) : String := String.ofList v.placeholderChars

/-- The variable whose place is at the front of a text, and the rest. -/
def ofPlaceholder? : List Char → Option (Variable × List Char)
  | '\x7b' :: cs => do
    let (ds, rest) ← readGroups ofUpperDigit? groups cs
    match rest with
    | '\x7d' :: rest =>
      let v ← ofDigits? ds
      return (v, rest)
    | _ => none
  | _ => none

end Variable

end ScreenPages
