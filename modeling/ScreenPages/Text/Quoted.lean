import ScreenPages.Text.GraphemeExtend
import ScreenPages.Text.Printable

/-!
# Quoted text

Labels, values and identifiers are shown between double quotes.  Inside the quotes a tab,
a line break, a carriage return, a double quote, a backslash and the null character have
short escapes; a character that is drawn over the one before it or cannot be shown is
written as `\u` with its code point in braces; every other character stands for itself.

## Main definitions

* `Text.quotedChar` — one character between quotes.
* `Text.quoted` — a whole text with its quotes.
-/

namespace ScreenPages.Text

/-- The code point of a character in lower-case hexadecimal, without leading zeros. -/
def hexCode (c : Char) : List Char := Nat.toDigits 16 c.toNat

/-- The halfwidth sound marks of Japanese join the character before them, yet fill a cell of
their own. -/
def isHalfwidthSoundMark (c : Char) : Bool := c = '\uff9e' || c = '\uff9f'

/-- Whether a character between quotes is written by its code point. -/
def needsCode (c : Char) : Bool :=
  (isGraphemeExtender c && !isHalfwidthSoundMark c) || !isPrintable c

/-- How a character is written between double quotes. -/
def quotedChar (c : Char) : List Char :=
  if c = '\x00' then ['\\', '0']
  else if c = '\t' then ['\\', 't']
  else if c = '\r' then ['\\', 'r']
  else if c = '\n' then ['\\', 'n']
  else if c = '\\' then ['\\', '\\']
  else if c = '"' then ['\\', '"']
  else if needsCode c then ['\\', 'u', '{'] ++ hexCode c ++ ['}']
  else [c]

/-- The characters of a quoted text. -/
def quotedChars (cs : List Char) : List Char := '"' :: (cs.flatMap quotedChar ++ ['"'])

/-- A text in double quotes. -/
def quoted (s : String) : String := String.ofList (quotedChars s.toList)

end ScreenPages.Text
