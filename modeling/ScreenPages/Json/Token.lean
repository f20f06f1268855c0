import ScreenPages.Json.Fault
import ScreenPages.Text.Symbol

/-!
# The tokens of a JSON text

A text is cut into tokens once, from left to right.  Cutting stops at the first place that
no reader can pass: a string or a number that breaks off, a misspelt word, a character that
starts nothing.  A token for a string keeps its escapes and its loose bytes, because a reader
that skips the string accepts more than one that wants its content.

## Main definitions

* `Json.Piece`, `Json.Piece.decode`, `Json.Piece.content` — the inside of a string and its
  content.
* `Json.Token`, `Json.Token.scan` — the tokens of a text.
-/

namespace ScreenPages.Json

open Text (Symbol)

/-- One piece of the inside of a string: a symbol, also a character written by a short escape,
or a 16-bit unit written in hexadecimal. -/
inductive Piece where
  | symbol (s : Symbol) : Piece
  | unit (n : Nat) : Piece
  deriving DecidableEq, Repr, Inhabited

/-- Why a string breaks off. -/
inductive TextBreak where
  /-- The text ends inside the string. -/
  | ended : TextBreak
  /-- A character below the space stands unescaped. -/
  | controlCharacter : TextBreak
  /-- A backslash is followed by no escape. -/
  | badEscape : TextBreak
  /-- The four symbols of a unit are not all hexadecimal digits. -/
  | badUnit : TextBreak
  deriving DecidableEq, Repr, Inhabited

/-- The fault of a string that breaks off. -/
def TextBreak.fault : TextBreak → Fault
  | ended => .endInText
  | controlCharacter => .controlCharacter
  | badEscape | badUnit => .invalidEscape

/-- The fault of a string that breaks off after the first half of a surrogate pair. -/
def TextBreak.faultInPair : TextBreak → Fault
  | ended => .endInText
  | badUnit => .invalidEscape
  | controlCharacter | badEscape => .unfinishedSurrogate

namespace Piece

/-- Whether a unit is the first half of a surrogate pair. -/
def isHighSurrogate (n : Nat) : Bool := 0xD800 ≤ n && n ≤ 0xDBFF

/-- Whether a unit is the second half of a surrogate pair. -/
def isLowSurrogate (n : Nat) : Bool := 0xDC00 ≤ n && n ≤ 0xDFFF

/-- The character of a surrogate pair. -/
def ofPair (high low : Nat) : Char :=
  Char.ofNat ((high - 0xD800) * 0x400 + (low - 0xDC00) + 0x10000)

/-- The content of a string from its pieces; `stop` says how the string breaks off, if it
does. -/
def decode (stop : Option TextBreak) : List Piece → Except Fault (List Symbol)
  | [] =>
    match stop with
    | none => .ok []
    | some b => .error b.fault
  | symbol s :: rest => (decode stop rest).map (s :: ·)
  | [unit n] =>
    if isLowSurrogate n then .error .loneSurrogate
    else if isHighSurrogate n then
      match stop with
      | none => .error .unfinishedSurrogate
      | some b => .error b.faultInPair
    else (decode stop []).map (.char (Char.ofNat n) :: ·)
  | unit n :: symbol s :: rest =>
    if isLowSurrogate n then .error .loneSurrogate
    else if isHighSurrogate n then .error .unfinishedSurrogate
    else (decode stop (symbol s :: rest)).map (.char (Char.ofNat n) :: ·)
  | unit n :: unit m :: rest =>
    if isLowSurrogate n then .error .loneSurrogate
    else if isHighSurrogate n then
      if isLowSurrogate m then (decode stop rest).map (.char (ofPair n m) :: ·)
      else .error .loneSurrogate
    else (decode stop (unit m :: rest)).map (.char (Char.ofNat n) :: ·)

/-- The content of a complete string, which must not have loose bytes. -/
def content (pieces : List Piece) : Except Fault String := do
  match Text.charactersOnly? (← decode none pieces) with
  | some s => return s
  | none => .error .looseByte

end Piece

/-- The tokens of a text. -/
inductive Token where
  | leftBracket : Token
  | rightBracket : Token
  | leftBrace : Token
  | rightBrace : Token
  | comma : Token
  | colon : Token
  | null : Token
  | flag (b : Bool) : Token
  | text (pieces : List Piece) : Token
  | number (n : Numeral) : Token
  /-- A string that breaks off, with the pieces before the break. -/
  | brokenText (pieces : List Piece) (stop : TextBreak) : Token
  /-- A number that breaks off; a reader that wants its value finds this fault. -/
  | brokenNumber (fault : Fault) : Token
  /-- A word that breaks off. -/
  | brokenWord (fault : Fault) : Token
  /-- A symbol that starts nothing. -/
  | stray (s : Symbol) : Token
  deriving Repr, Inhabited

namespace Token

/-- The value of a hexadecimal digit. -/
def hexValue? (c : Char) : Option Nat :=
  if '0' ≤ c && c ≤ '9' then some (c.toNat - '0'.toNat)
  else if 'a' ≤ c && c ≤ 'f' then some (c.toNat - 'a'.toNat + 10)
  else if 'A' ≤ c && c ≤ 'F' then some (c.toNat - 'A'.toNat + 10)
  else none

/-- The unit that four hexadecimal digits write. -/
def unit? (a b c d : Symbol) : Option Nat := do
  let a ← hexValue? (← a.char?)
  let b ← hexValue? (← b.char?)
  let c ← hexValue? (← c.char?)
  let d ← hexValue? (← d.char?)
  return ((a * 16 + b) * 16 + c) * 16 + d

/-- The character that a short escape stands for. -/
def shortEscape? : Symbol → Option Char
  | .char '"' => some '"'
  | .char '\\' => some '\\'
  | .char '/' => some '/'
  | .char 'b' => some '\x08'
  | .char 'f' => some '\x0c'
  | .char 'n' => some '\n'
  | .char 'r' => some '\r'
  | .char 't' => some '\t'
  | _ => none

/-- Whether a symbol is a control character. -/
def isControl : Symbol → Bool
  | .char c => c.toNat < 0x20
  | .looseByte => false

/-- How a unit breaks off that four symbols do not complete: the text ends unless four bytes
are left. -/
def unitBreak (ss : List Symbol) : TextBreak :=
  if ss.foldl (fun n s => n + s.byteLength) 0 < 4 then .ended else .badUnit

/-- The inside of a string after its opening quote, how it breaks off, if it does, and what
follows the closing quote. -/
def scanText : List Symbol → List Piece × Option TextBreak × List Symbol
  | [] => ([], some .ended, [])
  | .char '"' :: rest => ([], none, rest)
  | .char '\\' :: .char 'u' :: a :: b :: c :: d :: rest =>
    match unit? a b c d with
    | some n =>
      let (pieces, stop, rest) := scanText rest
      (.unit n :: pieces, stop, rest)
    | none => ([], some .badUnit, [])
  | .char '\\' :: .char 'u' :: rest => ([], some (unitBreak rest), [])
  | .char '\\' :: s :: rest =>
    match shortEscape? s with
    | some e =>
      let (pieces, stop, rest) := scanText rest
      (.symbol (.char e) :: pieces, stop, rest)
    | none => ([], some .badEscape, [])
  | [.char '\\'] => ([], some .ended, [])
  | s :: rest =>
    if isControl s then ([], some .controlCharacter, [])
    else
      let (pieces, stop, rest) := scanText rest
      (.symbol s :: pieces, stop, rest)

/-- The value of a decimal digit. -/
def digitValue? : Symbol → Option Nat
  | .char c => if c.isDigit then some (c.toNat - '0'.toNat) else none
  | .looseByte => none

/-- The digits at the front of a text, and the rest. -/
def scanDigits : List Symbol → List Nat × List Symbol
  | [] => ([], [])
  | s :: rest =>
    match digitValue? s with
    | some d =>
      let (ds, rest) := scanDigits rest
      (d :: ds, rest)
    | none => ([], s :: rest)

/-- The fault of a number in which a digit is due. -/
def digitFault (rest : List Symbol) : Fault :=
  if rest.isEmpty then .endInValue else .invalidNumber

/-- The digits of an exponent after its letter, with its sign. -/
def scanExponentDigits (negative : Bool) (whole fraction : List Nat) (below : Bool)
    (ss : List Symbol) : Token × List Symbol :=
  match scanDigits ss with
  | ([], rest) => (.brokenNumber (digitFault rest), [])
  | (ds, rest) => (.number ⟨negative, whole, fraction, some (below, ds)⟩, rest)

/-- The exponent of a number, if there is one. -/
def scanExponent (negative : Bool) (whole fraction : List Nat) (ss : List Symbol) :
    Token × List Symbol :=
  match ss with
  | .char 'e' :: rest | .char 'E' :: rest =>
    match rest with
    | .char '+' :: rest => scanExponentDigits negative whole fraction false rest
    | .char '-' :: rest => scanExponentDigits negative whole fraction true rest
    | rest => scanExponentDigits negative whole fraction false rest
  | ss => (.number ⟨negative, whole, fraction, none⟩, ss)

/-- A number after its sign. -/
def scanNumber (negative : Bool) (ss : List Symbol) : Token × List Symbol :=
  match scanDigits ss with
  | ([], rest) => (.brokenNumber (digitFault rest), [])
  | (0 :: _ :: _, _) => (.brokenNumber .invalidNumber, [])
  | (whole, .char '.' :: rest) =>
    match scanDigits rest with
    | ([], rest) => (.brokenNumber (digitFault rest), [])
    | (fraction, rest) => scanExponent negative whole fraction rest
  | (whole, rest) => scanExponent negative whole [] rest

/-- A word after its first character: the rest of the text, or the fault. -/
def scanWord : List Char → List Symbol → Except Fault (List Symbol)
  | [], ss => .ok ss
  | _ :: _, [] => .error .endInValue
  | w :: ws, s :: ss => if s = .char w then scanWord ws ss else .error .expectedWord

/-- Whether a symbol may stand between tokens. -/
def isBlank : Symbol → Bool
  | .char c => c = ' ' || c = '\n' || c = '\t' || c = '\r'
  | .looseByte => false

/-- The token that starts with a symbol, and what follows it. -/
def scanOne (s : Symbol) (rest : List Symbol) : Token × List Symbol :=
  let word (spelling : List Char) (t : Token) : Token × List Symbol :=
    match scanWord spelling rest with
    | .ok rest => (t, rest)
    | .error fault => (.brokenWord fault, [])
  match s with
  | .char '[' => (.leftBracket, rest)
  | .char ']' => (.rightBracket, rest)
  | .char '\x7b' => (.leftBrace, rest)
  | .char '\x7d' => (.rightBrace, rest)
  | .char ',' => (.comma, rest)
  | .char ':' => (.colon, rest)
  | .char 'n' => word ['u', 'l', 'l'] .null
  | .char 't' => word ['r', 'u', 'e'] (.flag true)
  | .char 'f' => word ['a', 'l', 's', 'e'] (.flag false)
  | .char '"' =>
    match scanText rest with
    | (pieces, none, rest) => (.text pieces, rest)
    | (pieces, some stop, _) => (.brokenText pieces stop, [])
  | .char '-' => scanNumber true rest
  | s => if (digitValue? s).isSome then scanNumber false (s :: rest) else (.stray s, [])

/-- The tokens of a text of at most `fuel` symbols. -/
def scanWith : Nat → List Symbol → List Token
  | 0, _ => []
  | _, [] => []
  | fuel + 1, s :: ss =>
    if isBlank s then scanWith fuel ss
    else
      let (t, rest) := scanOne s ss
      t :: scanWith fuel rest

/-- The tokens of a text. -/
def scan (ss : List Symbol) : List Token := scanWith ss.length ss

end Token

end ScreenPages.Json
