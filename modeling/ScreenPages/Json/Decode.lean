import ScreenPages.Json.Doc
import ScreenPages.Json.Value

/-!
# Reading documents

A decoder takes a document to a value of a type, or to the first fault in reading order.
Lists and objects may be nested 127 deep; a decoder is told how many more levels it may
open.

## Main definitions

* `Decoder` — readers of documents.
* `Decoder.text`, `Decoder.natural`, `Decoder.real`, `Decoder.list`, … — the basic readers.
* `Decoder.run`, `Decoder.runBytes` — reading a whole text, or bytes that should be one.
* `Decoder.value` — reading any value.
-/

namespace ScreenPages.Json

/-- A reader of documents that is told how many more lists and objects it may open. -/
abbrev Decoder (α : Type) := Nat → Doc → Except Fault α

/-- How many lists and objects may be open at once. -/
def nestingLimit : Nat := 127

/-- The value of a number, which must be in range. -/
def Numeral.value (n : Numeral) : Except Fault Number :=
  match n.value? with
  | some v => .ok v
  | none => .error .numberOutOfRange

/-- The fault of a document where something else is expected.  Strings and numbers are read
first and may have faults of their own; lists and objects are not opened. -/
def Doc.mismatch (expected : String) : Doc → Fault
  | .null => .wrongType .null expected
  | .flag b => .wrongType (.flag b) expected
  | .number n =>
    match n.value with
    | .ok v => .wrongType (.number v) expected
    | .error fault => fault
  | .text pieces =>
    match Piece.content pieces with
    | .ok s => .wrongType (.text s) expected
    | .error fault => fault
  | .array _ _ => .wrongType .sequence expected
  | .object _ _ => .wrongType .map expected
  | .gap g => g.fault

namespace Decoder

/-- A string, whose name for a mismatch is given. -/
def textNamed (expected : String) : Decoder String
  | _, .text pieces => Piece.content pieces
  | _, d => .error (d.mismatch expected)

/-- A string. -/
def text : Decoder String := textNamed "a string"

/-- A string whose content is read further; a refusal is a fault in the reader's words. -/
def textWith {α : Type} (expected : String) (read : String → Except String α) : Decoder α :=
  fun limit d => do
    let s ← textNamed expected limit d
    match read s with
    | .ok a => .ok a
    | .error reason => .error (.refused reason)

/-- A truth value. -/
def flag : Decoder Bool
  | _, .flag b => .ok b
  | _, d => .error (d.mismatch "a boolean")

/-- A natural number below `2 ^ 64`, whose name for a mismatch is given. -/
def natural (expected : String) : Decoder Nat
  | _, .number n => do
    match ← n.value with
    | .natural n => .ok n
    | .negative n => .error (.wrongValue (.number (.negative n)) expected)
    | .real x => .error (.wrongType (.number (.real x)) expected)
  | _, d => .error (d.mismatch expected)

/-- A binary real. -/
def real : Decoder Float
  | _, .number n => n.value.map Number.toFloat
  | _, d => .error (d.mismatch "f64")

/-- Nothing for `null`, and what the given decoder reads otherwise. -/
def optional {α : Type} (decoder : Decoder α) : Decoder (Option α)
  | _, .null => .ok none
  | limit, d => (decoder limit d).map some

/-- A list of what the given decoder reads one level below. -/
def list {α : Type} (decoder : Decoder α) : Decoder (List α)
  | 0, .array _ _ => .error .nestingLimit
  | limit + 1, .array items stop => do
    let xs ← items.mapM (decoder limit)
    stop.check Doc.Stop.listFault
    return xs
  | _, d => .error (d.mismatch "a sequence")

/-- Any value.  The number of levels left bounds the recursion. -/
def value : Decoder Value
  | _, .null => .ok .null
  | _, .flag b => .ok (.flag b)
  | _, .number n => n.value.map .number
  | _, .text pieces => (Piece.content pieces).map .text
  | _, .gap g => .error g.fault
  | 0, .array _ _ => .error .nestingLimit
  | 0, .object _ _ => .error .nestingLimit
  | limit + 1, .array items stop => do
    let xs ← items.mapM (value limit)
    stop.check Doc.Stop.listFault
    return .array xs
  | limit + 1, .object members stop => do
    let fs ← members.mapM fun (key, d) => do
      let name ← Piece.content key
      return (name, ← value limit d)
    stop.check Doc.Stop.objectFault
    return .object fs

/-- Reads all of some symbols. -/
def runSymbols {α : Type} (decoder : Decoder α) (ss : List Text.Symbol) : Except Fault α :=
  let (d, complete) := Doc.ofSymbols ss
  do
    let a ← decoder nestingLimit d
    if complete then return a else .error .trailingCharacters

/-- Reads a whole text. -/
def run {α : Type} (decoder : Decoder α) (s : String) : Except Fault α :=
  runSymbols decoder (Text.symbols s)

/-- Reads bytes that should be those of a text.  A loose byte is a fault in a string that is
wanted, but not in one that is passed over. -/
def runBytes {α : Type} (decoder : Decoder α) (bytes : ByteArray) : Except Fault α :=
  runSymbols decoder (Text.symbolsOfBytes bytes)

end Decoder

end ScreenPages.Json
