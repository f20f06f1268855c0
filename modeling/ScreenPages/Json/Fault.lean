import ScreenPages.Json.Number
import ScreenPages.Text.Quoted

/-!
# Why a JSON text is refused

Reading a text stops at the first fault in reading order, be it one of the text itself or
one of what it says where a certain shape is due.

## Main definitions

* `Json.Found` — what stands where something else is due.
* `Json.Fault` — the reasons for refusing a text.
* `Json.Fault.message` — their wording.
-/

namespace ScreenPages.Json

/-- What stands where something else is due. -/
inductive Found where
  | null : Found
  | flag (b : Bool) : Found
  | number (n : Number) : Found
  | text (s : String) : Found
  | sequence : Found
  | map : Found
  /-- The name of a variant without the content it needs. -/
  | bareVariant : Found
  deriving Repr, Inhabited

/-- The words for what was found. -/
def Found.describe : Found → String
  | null => "null"
  | flag b => "boolean `" ++ (if b then "true" else "false") ++ "`"
  | number (.real x) => "floating point `" ++ Number.text (.real x) ++ "`"
  | number n => "integer `" ++ n.text ++ "`"
  | text s => "string " ++ Text.quoted s
  | sequence => "sequence"
  | map => "map"
  | bareVariant => "unit variant"

/-- The reasons for refusing a text. -/
inductive Fault where
  /-- The text ends inside a list. -/
  | endInList : Fault
  /-- The text ends inside an object. -/
  | endInObject : Fault
  /-- The text ends inside a string. -/
  | endInText : Fault
  /-- The text ends where a value is due or inside one. -/
  | endInValue : Fault
  | expectedColon : Fault
  | expectedListCommaOrEnd : Fault
  | expectedObjectCommaOrEnd : Fault
  /-- A word that begins like `null`, `true` or `false` and goes on otherwise. -/
  | expectedWord : Fault
  | expectedValue : Fault
  | invalidEscape : Fault
  | invalidNumber : Fault
  | numberOutOfRange : Fault
  | controlCharacter : Fault
  | keyNotText : Fault
  /-- A string has a byte that belongs to no character. -/
  | looseByte : Fault
  /-- A second half of a surrogate pair without its first, or a first with a wrong second. -/
  | loneSurrogate : Fault
  /-- A first half of a surrogate pair that no escape follows. -/
  | unfinishedSurrogate : Fault
  | trailingComma : Fault
  | trailingCharacters : Fault
  | nestingLimit : Fault
  | wrongType (found : Found) (expected : String) : Fault
  | wrongValue (found : Found) (expected : String) : Fault
  | wrongLength (length : Nat) (expected : String) : Fault
  | unknownVariant (name : String) (variants : List String) : Fault
  | unknownField (name : String) (fields : List String) : Fault
  | missingField (name : String) : Fault
  | duplicateField (name : String) : Fault
  /-- The content of a text is refused by its reader, in its own words. -/
  | refused (reason : String) : Fault
  deriving Repr, Inhabited

namespace Fault

/-- Names in backquotes: one, two with `or`, more with `one of` and commas. -/
def oneOf : List String → String
  | [] => ""
  | [a] => "`" ++ a ++ "`"
  | [a, b] => "`" ++ a ++ "` or `" ++ b ++ "`"
  | names => "one of " ++ String.intercalate ", " (names.map fun a => "`" ++ a ++ "`")

/-- The wording of a fault. -/
def message : Fault → String
  | endInList => "EOF while parsing a list"
  | endInObject => "EOF while parsing an object"
  | endInText => "EOF while parsing a string"
  | endInValue => "EOF while parsing a value"
  | expectedColon => "expected `:`"
  | expectedListCommaOrEnd => "expected `,` or `]`"
  | expectedObjectCommaOrEnd => "expected `,` or `\x7d`"
  | expectedWord => "expected ident"
  | expectedValue => "expected value"
  | invalidEscape => "invalid escape"
  | invalidNumber => "invalid number"
  | numberOutOfRange => "number out of range"
  | controlCharacter => "control character (\\u0000-\\u001F) found while parsing a string"
  | keyNotText => "key must be a string"
  | looseByte => "invalid unicode code point"
  | loneSurrogate => "lone leading surrogate in hex escape"
  | unfinishedSurrogate => "unexpected end of hex escape"
  | trailingComma => "trailing comma"
  | trailingCharacters => "trailing characters"
  | nestingLimit => "recursion limit exceeded"
  | wrongType found expected => "invalid type: " ++ found.describe ++ ", expected " ++ expected
  | wrongValue found expected => "invalid value: " ++ found.describe ++ ", expected " ++ expected
  | wrongLength length expected =>
    "invalid length " ++ toString length ++ ", expected " ++ expected
  | unknownVariant name variants =>
    "unknown variant `" ++ name ++ "`, expected " ++ oneOf variants
  | unknownField name fields => "unknown field `" ++ name ++ "`, expected " ++ oneOf fields
  | missingField name => "missing field `" ++ name ++ "`"
  | duplicateField name => "duplicate field `" ++ name ++ "`"
  | refused reason => reason

end Fault

/-- A number of elements in words. -/
def countElements (n : Nat) : String :=
  toString n ++ (if n = 1 then " element" else " elements")

end ScreenPages.Json
