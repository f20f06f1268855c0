/-!
# Universal identifiers

A **universal identifier** is made of 32 hexadecimal digits, which are written in lower case
in five groups of 8, 4, 4, 4 and 12 with hyphens between them.  Reading also takes upper case,
the digits without hyphens, and the groups between braces or after `urn:uuid:` in either case.

## Main definitions

* `Uuid` — a universal identifier.
* `Uuid.text` — its text.
* `Uuid.ofText` — reading one, or why it is refused.
-/

namespace ScreenPages

/-- A universal identifier, given by its 32 hexadecimal digits. -/
structure Uuid where
  digits : List (Fin 16)
  length_digits : digits.length = 32
  deriving DecidableEq, Repr

namespace Uuid

instance : Inhabited Uuid := ⟨⟨List.replicate 32 0, by decide⟩⟩

/-- The identifier with these digits, if there are 32 of them. -/
def ofDigits? (ds : List (Fin 16)) : Option Uuid :=
  if h : ds.length = 32 then some ⟨ds, h⟩ else none

/-- The numbers of digits between the hyphens. -/
def groups : List Nat := [8, 4, 4, 4, 12]

/-- A hexadecimal digit in upper case. -/
def upperDigit (d : Fin 16) : Char :=
  if d.val < 10 then Char.ofNat ('0'.toNat + d.val) else Char.ofNat ('A'.toNat + (d.val - 10))

/-- A hexadecimal digit in lower case. -/
def lowerDigit (d : Fin 16) : Char :=
  if d.val < 10 then Char.ofNat ('0'.toNat + d.val) else Char.ofNat ('a'.toNat + (d.val - 10))

/-- The value of a hexadecimal digit in upper case. -/
def ofUpperDigit? (c : Char) : Option (Fin 16) :=
  (List.finRange 16).find? fun d => upperDigit d == c

/-- The value of a hexadecimal digit in either case. -/
def ofDigit? (c : Char) : Option (Fin 16) :=
  (List.finRange 16).find? fun d => upperDigit d == c || lowerDigit d == c

/-! ### Writing -/

/-- Characters cut into groups with hyphens between them. -/
def hyphenate : List Nat → List Char → List Char
  | [], cs => cs
  | [_], cs => cs
  | n :: ns, cs => cs.take n ++ '-' :: hyphenate ns (cs.drop n)

/-- The text of an identifier: its digits in lower case, in groups. -/
def text (v : Uuid) : String := String.ofList (hyphenate groups (v.digits.map lowerDigit))

/-! ### Reading -/

/-- A given number of digits at the front of a text, and the rest. -/
def readDigits (digit? : Char → Option (Fin 16)) :
    Nat → List Char → Option (List (Fin 16) × List Char)
  | 0, cs => some ([], cs)
  | _ + 1, [] => none
  | n + 1, c :: cs => do
    let d ← digit? c
    let (ds, rest) ← readDigits digit? n cs
    return (d :: ds, rest)

/-- Groups of digits with hyphens between them at the front of a text, and the rest. -/
def readGroups (digit? : Char → Option (Fin 16)) :
    List Nat → List Char → Option (List (Fin 16) × List Char)
  | [], cs => some ([], cs)
  | [n], cs => readDigits digit? n cs
  | n :: ns, cs => do
    let (ds, rest) ← readDigits digit? n cs
    match rest with
    | '-' :: rest =>
      let (es, rest) ← readGroups digit? ns rest
      return (ds ++ es, rest)
    | _ => none

/-- The identifier that a whole text writes with hyphens. -/
def ofHyphenated? (cs : List Char) : Option Uuid := do
  let (ds, rest) ← readGroups ofDigit? groups cs
  if rest.isEmpty then ofDigits? ds else none

/-- The identifier that a whole text writes without hyphens. -/
def ofPlain? (cs : List Char) : Option Uuid := do
  let (ds, rest) ← readDigits ofDigit? 32 cs
  if rest.isEmpty then ofDigits? ds else none

/-- What may stand in front of the groups. -/
def urnMark : List Char := ['u', 'r', 'n', ':', 'u', 'u', 'i', 'd', ':']

/-- The inside of a text between braces. -/
def unbraced? : List Char → Option (List Char)
  | '\x7b' :: cs => if cs.getLast? = some '\x7d' then some cs.dropLast else none
  | _ => none

/-- Whether a text begins with that mark, in either case. -/
def hasUrnMark (cs : List Char) : Bool := (cs.take urnMark.length).map Char.toLower == urnMark

/-- Why a text is no identifier. -/
inductive Refusal where
  /-- A character that is neither a digit nor a hyphen, with the number of bytes before it. -/
  | character (c : Char) (position : Nat) : Refusal
  | length (found : Nat) : Refusal
  | groupCount (found : Nat) : Refusal
  | groupLength (group : Nat) (found : Nat) : Refusal
  deriving DecidableEq, Repr, Inhabited

/-- The wording of a refusal. -/
def Refusal.message : Refusal → String
  | character c position =>
    "invalid character: found `" ++ String.singleton c ++ "` at " ++ toString position
  | length found => "invalid length: found " ++ toString found
  | groupCount found => "invalid group count: expected 5, found " ++ toString found
  | groupLength group found =>
    "invalid group length in group " ++ toString group ++ ": expected "
      ++ toString (groups.getD group 0) ++ ", found " ++ toString found

/-- The first character of a text that is neither a digit nor a hyphen, with its position in
bytes. -/
def firstForeign : Nat → List Char → Option (Char × Nat)
  | _, [] => none
  | i, c :: cs =>
    if c = '-' || (ofDigit? c).isSome then firstForeign (i + c.utf8Size) cs else some (c, i)

/-- The lengths of the parts between hyphens. -/
def partLengths : List Char → List Nat
  | [] => [0]
  | c :: cs =>
    match c, partLengths cs with
    | '-', ns => 0 :: ns
    | _, n :: ns => (n + 1) :: ns
    | _, [] => [1]

/-- The first group whose length is not the one it should have; `extra` characters that do
not belong to the groups count for the last one. -/
def firstWrongGroup (extra : Nat) : Nat → List Nat → List Nat → Refusal
  | i, n :: ns@(_ :: _), m :: ms =>
    if m = n then firstWrongGroup extra (i + 1) ns ms else .groupLength i m
  | i, _, m :: _ => .groupLength i (m + extra)
  | i, _, [] => .groupLength i extra

/-- Why a part is refused.  `extra` characters stand around it, `offset` of them before it, and
`bare` says that it may also be meant as the bare digits, so that without hyphens its length
is at fault. -/
def partRefusal (bare : Bool) (extra offset : Nat) (cs : List Char) : Refusal :=
  match firstForeign offset cs with
  | some (c, position) => .character c position
  | none =>
    let parts := partLengths cs
    if bare && parts.length = 1 then .length cs.length
    else if parts.length ≠ groups.length then .groupCount parts.length
    else firstWrongGroup extra 0 groups parts

/-- The number of digits of an identifier. -/
def digitCount : Nat := groups.foldl (fun n m => n + m) 0

/-- The number of characters of the groups with the hyphens between them. -/
def hyphenatedLength : Nat := digitCount + (groups.length - 1)

/-- The number of characters of the longest form, with the mark in front of the groups. -/
def greatestLength : Nat := urnMark.length + hyphenatedLength

/-- The number of bytes of a text. -/
def byteLength (cs : List Char) : Nat := cs.foldl (fun n c => n + c.utf8Size) 0

/-- The part of a text that is taken for groups with hyphens, told by its length alone: the
whole text, whatever is at its ends, or else what is between braces or after the mark. -/
def hyphenatedPart? (cs : List Char) : Option (List Char) :=
  if byteLength cs = hyphenatedLength then some cs
  else
    let part? := (unbraced? cs).or (if hasUrnMark cs then some (cs.drop urnMark.length) else none)
    part?.filter fun part => byteLength part = hyphenatedLength

/-- Why a text is no identifier.  One that is longer than every form is not looked into; one
with the length of some form is judged as that form, any other by what is at its ends. -/
def refusal (cs : List Char) : Refusal :=
  if byteLength cs > greatestLength then .length (byteLength cs)
  else match hyphenatedPart? cs with
  | some part => partRefusal false 0 0 part
  | none =>
    if byteLength cs = digitCount then partRefusal true 0 0 cs
    else match unbraced? cs with
    | some part => partRefusal false 2 1 part
    | none =>
      if hasUrnMark cs then
        partRefusal false urnMark.length urnMark.length (cs.drop urnMark.length)
      else partRefusal true 0 0 cs

/-- Reads an identifier: groups with hyphens, also between braces or after `urn:uuid:`, or the
bare digits. -/
def ofText (s : String) : Except Refusal Uuid :=
  let cs := s.toList
  let v? := (hyphenatedPart? cs).elim (ofPlain? cs) ofHyphenated?
  v?.elim (.error (refusal cs)) .ok

end Uuid

end ScreenPages
