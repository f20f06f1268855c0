import ScreenPages.Json.Fault

/-!
# JSON values and their text

## Main definitions

* `Json.Value` — a value; the fields of an object keep their order.
* `Json.Value.compact` — its text without any blanks.
* `Json.Value.pretty` — its text with a line for each item and two spaces a level.
-/

namespace ScreenPages.Json

/-- A JSON value. -/
inductive Value where
  | null : Value
  | flag (b : Bool) : Value
  | number (n : Number) : Value
  | text (s : String) : Value
  | array (items : List Value) : Value
  | object (fields : List (String × Value)) : Value
  deriving Repr, Inhabited

namespace Value

/-- A hexadecimal digit in lower case. -/
def hexDigit (n : Nat) : Char := Nat.digitChar n

/-- How a character is written inside a string. -/
def textChar (c : Char) : List Char :=
  if c = '"' then ['\\', '"']
  else if c = '\\' then ['\\', '\\']
  else if c = '\x08' then ['\\', 'b']
  else if c = '\x0c' then ['\\', 'f']
  else if c = '\n' then ['\\', 'n']
  else if c = '\r' then ['\\', 'r']
  else if c = '\t' then ['\\', 't']
  else if c.toNat < 0x20 then
    ['\\', 'u', '0', '0', hexDigit (c.toNat / 16), hexDigit (c.toNat % 16)]
  else [c]

/-- The characters of a string with its quotes. -/
def textChars (s : String) : List Char := '"' :: (s.toList.flatMap textChar ++ ['"'])

mutual

/-- The characters of a value without any blanks. -/
def compactChars : Value → List Char
  | .null => ['n', 'u', 'l', 'l']
  | .flag true => ['t', 'r', 'u', 'e']
  | .flag false => ['f', 'a', 'l', 's', 'e']
  | .number n => n.text.toList
  | .text s => textChars s
  | .array items => '[' :: compactItems items
  | .object fields => '\x7b' :: compactFields fields

/-- The items of a list up to its closing bracket. -/
def compactItems : List Value → List Char
  | [] => [']']
  | [v] => compactChars v ++ [']']
  | v :: vs => compactChars v ++ ',' :: compactItems vs

/-- The fields of an object up to its closing brace. -/
def compactFields : List (String × Value) → List Char
  | [] => ['\x7d']
  | [(k, v)] => textChars k ++ ':' :: (compactChars v ++ ['\x7d'])
  | (k, v) :: fs => textChars k ++ ':' :: (compactChars v ++ ',' :: compactFields fs)

end

/-- The text of a value without any blanks. -/
def compact (v : Value) : String := String.ofList v.compactChars

/-- A line break and the indentation of a level. -/
def newLine (level : Nat) : List Char := '\n' :: List.replicate (2 * level) ' '

mutual

/-- The characters of a value that starts on a line of the given level. -/
def prettyChars (level : Nat) : Value → List Char
  | .array [] => ['[', ']']
  | .array (v :: vs) =>
    '[' :: (newLine (level + 1) ++ prettyChars (level + 1) v ++ prettyItems level vs)
  | .object [] => ['\x7b', '\x7d']
  | .object ((k, v) :: fs) =>
    '\x7b' :: (newLine (level + 1) ++ textChars k ++ ':' :: ' ' ::
      (prettyChars (level + 1) v ++ prettyFields level fs))
  | v => compactChars v

/-- The items of a list after the first, up to the closing bracket. -/
def prettyItems (level : Nat) : List Value → List Char
  | [] => newLine level ++ [']']
  | v :: vs =>
    ',' :: (newLine (level + 1) ++ prettyChars (level + 1) v ++ prettyItems level vs)

/-- The fields of an object after the first, up to the closing brace. -/
def prettyFields (level : Nat) : List (String × Value) → List Char
  | [] => newLine level ++ ['\x7d']
  | (k, v) :: fs =>
    ',' :: (newLine (level + 1) ++ textChars k ++ ':' :: ' ' ::
      (prettyChars (level + 1) v ++ prettyFields level fs))

end

/-- The text of a value with a line for each item and field. -/
def pretty (v : Value) : String := String.ofList (prettyChars 0 v)

/-- A natural number as a value. -/
def ofNat (n : Nat) : Value := .number (.natural n)

/-- A binary real as a value. -/
def ofFloat (x : Float) : Value := .number (.real x)

/-- The field of an object, or nothing if it is absent or the value is no object. -/
def field? (v : Value) (name : String) : Option Value :=
  match v with
  | .object fields => (fields.find? fun f => f.1 == name).map Prod.snd
  | _ => none

end Value

end ScreenPages.Json
