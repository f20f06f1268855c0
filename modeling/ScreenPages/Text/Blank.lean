import ScreenPages.Text.Ranges

/-!
# Blanks

The characters that separate words: spaces of every width, tabs, and the ends of lines and
paragraphs.

## Main definitions

* `Text.isBlank` — whether a character is blank.
* `Text.trimStart` — a text without the blanks at its front.
-/

namespace ScreenPages.Text

/-- The code points at which blankness changes. -/
def blankChanges : List Nat :=
  [0x9, 0xE, 0x20, 0x21, 0x85, 0x86, 0xA0, 0xA1, 0x1680, 0x1681, 0x2000, 0x200B, 0x2028,
    0x202A, 0x202F, 0x2030, 0x205F, 0x2060, 0x3000, 0x3001]

/-- Whether a character is blank. -/
def isBlank (c : Char) : Bool := inRanges blankChanges c.toNat

/-- A text without the blanks at its front. -/
def trimStart (cs : List Char) : List Char := cs.dropWhile isBlank

end ScreenPages.Text
