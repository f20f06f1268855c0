/-!
# Characters and loose bytes

The bytes of a file should be those of characters, but they need not be.  Such a file is read
as a list of **symbols**: the characters that its bytes encode, and between them the bytes
that belong to no character, each for itself.

## Main definitions

* `Text.Symbol` — a character or a loose byte.
* `Text.symbols`, `Text.symbolsOfBytes` — the symbols of a text and of bytes.

## Main results

* `Text.charactersOnly?_symbols` — a text is made of characters only.
-/

namespace ScreenPages.Text

/-- A character, or a byte that belongs to none. -/
inductive Symbol where
  | char (c : Char) : Symbol
  | looseByte : Symbol
  deriving DecidableEq, Repr, Inhabited

namespace Symbol

/-- The character of a symbol, if it is one. -/
def char? : Symbol → Option Char
  | char c => some c
  | looseByte => none

/-- How many bytes a symbol takes. -/
def byteLength : Symbol → Nat
  | char c => c.utf8Size
  | looseByte => 1

end Symbol

/-- The symbols of a text. -/
def symbols (s : String) : List Symbol := s.toList.map .char

/-- The symbols of some bytes from a position on. -/
def symbolsFrom (bytes : ByteArray) (i : Nat) : List Symbol :=
  if i < bytes.size then
    match bytes.utf8DecodeChar? i with
    | some c => .char c :: symbolsFrom bytes (i + c.utf8Size)
    | none => .looseByte :: symbolsFrom bytes (i + 1)
  else []
termination_by bytes.size - i
decreasing_by
  · have := c.utf8Size_pos
    omega
  · omega

/-- The symbols of some bytes. -/
def symbolsOfBytes (bytes : ByteArray) : List Symbol := symbolsFrom bytes 0

/-- The text that symbols make up, if no byte among them is loose. -/
def charactersOnly? (symbols : List Symbol) : Option String :=
  (symbols.mapM Symbol.char?).map String.ofList

/-- A text is made of characters only. -/
theorem charactersOnly?_symbols (s : String) : charactersOnly? (symbols s) = some s := by
  have h (cs : List Char) : (cs.map Symbol.char).mapM Symbol.char? = some cs := by
    induction cs with
    | nil => rfl
    | cons c cs ih => simp [Symbol.char?, ih]
  simp [charactersOnly?, symbols, h]

end ScreenPages.Text
