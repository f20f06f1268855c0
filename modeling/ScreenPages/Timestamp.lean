import ScreenPages.Decimal.Fixed
import ScreenPages.Decimal.Shortest
import ScreenPages.Text.Blank

/-!
# Points in time

Log entries carry the time at which they were made.  A time is written as date and time of
day with an offset from universal time, and kept in universal time.  Reading is lenient about
blanks and about the number of digits; writing always uses universal time, and as few groups
of three digits for the fraction of the second as show it exactly.

## Main definitions

* `Timestamp` — a point in time.
* `Timestamp.ofText` — reading one, or why it is refused.
* `Timestamp.text` — its text.
-/

namespace ScreenPages

/-- A point in universal time.  The second is 60 in a leap second. -/
structure Timestamp where
  year : Int
  month : Nat
  day : Nat
  hour : Nat
  minute : Nat
  second : Nat
  nanosecond : Nat
  deriving DecidableEq, Repr, Inhabited

namespace Timestamp

/-- Why a text is no point in time. -/
inductive Refusal where
  /-- A character is not the one that is due. -/
  | invalid : Refusal
  | tooShort : Refusal
  | tooLong : Refusal
  /-- A number is larger than it can be at its place, or there is no such day. -/
  | outOfRange : Refusal
  /-- In universal time the point lies before the first or after the last year. -/
  | impossible : Refusal
  deriving DecidableEq, Repr, Inhabited

/-- The wording of a refusal. -/
def Refusal.message : Refusal → String
  | invalid => "input contains invalid characters"
  | tooShort => "premature end of input"
  | tooLong => "trailing input"
  | outOfRange => "input is out of range"
  | impossible => "no possible date and time matching input"

/-! ### The calendar -/

/-- Whether a year has a leap day. -/
def isLeapYear (year : Int) : Bool := year % 4 = 0 && (year % 100 ≠ 0 || year % 400 = 0)

/-- The number of days of a month. -/
def daysInMonth (year : Int) (month : Nat) : Nat :=
  if month = 2 then if isLeapYear year then 29 else 28
  else if month = 4 || month = 6 || month = 9 || month = 11 then 30
  else 31

/-- The first and the last year. -/
def yearInRange (year : Int) : Bool := -262143 ≤ year && year ≤ 262142

/-- The day after a day. -/
def tomorrow (t : Timestamp) : Timestamp :=
  if t.day < daysInMonth t.year t.month then { t with day := t.day + 1 }
  else if t.month < 12 then { t with month := t.month + 1, day := 1 }
  else { t with year := t.year + 1, month := 1, day := 1 }

/-- The day before a day. -/
def yesterday (t : Timestamp) : Timestamp :=
  if 1 < t.day then { t with day := t.day - 1 }
  else if 1 < t.month then
    { t with month := t.month - 1, day := daysInMonth t.year (t.month - 1) }
  else { t with year := t.year - 1, month := 12, day := 31 }

/-- The point in universal time at which it is the given time where clocks are ahead by the
given number of minutes, less than a day. -/
def shift (t : Timestamp) (ahead : Int) : Timestamp :=
  let minutes : Int := t.hour * 60 + t.minute - ahead
  let t := { t with hour := (minutes % 1440 / 60).toNat, minute := (minutes % 60).toNat }
  if minutes < 0 then t.yesterday else if 1440 ≤ minutes then t.tomorrow else t

/-! ### Reading -/

/-- A reader of the front of a text, which returns the rest. -/
abbrev Scan (α : Type) := List Char → Except Refusal (α × List Char)

/-- The number of bytes of a text. -/
def bytes (cs : List Char) : Nat := cs.foldl (fun n c => n + c.utf8Size) 0

/-- Up to `most` digits at the front of a text and the number they write. -/
def takeNumber (most n : Nat) : List Char → Nat × List Char
  | [] => (n, [])
  | c :: cs =>
    match most with
    | 0 => (n, c :: cs)
    | most + 1 =>
      if c.isDigit then takeNumber most (n * 10 + (c.toNat - '0'.toNat)) cs else (n, c :: cs)

/-- A number of one to `most` digits. -/
def number (most : Nat) : Scan Nat
  | [] => .error .tooShort
  | c :: cs => if c.isDigit then .ok (takeNumber most 0 (c :: cs)) else .error .invalid

/-- A number of one or two digits in a range, after blanks. -/
def twoDigits (least greatest : Nat) : Scan Nat := fun cs => do
  let (n, cs) ← number 2 (Text.trimStart cs)
  if least ≤ n && n ≤ greatest then return (n, cs) else .error .outOfRange

/-- A year after blanks: up to four digits, or any number of them after a sign. -/
def yearNumber : Scan Int := fun cs => do
  let (year, cs) ← match Text.trimStart cs with
    | '-' :: cs => do
      let (n, rest) ← number cs.length cs
      pure (-(n : Int), rest)
    | '+' :: cs => do
      let (n, rest) ← number cs.length cs
      pure ((n : Int), rest)
    | cs => do
      let (n, rest) ← number 4 cs
      pure ((n : Int), rest)
  if -Int.pow 2 31 ≤ year && year < Int.pow 2 31 then return (year, cs) else .error .outOfRange

/-- A given character, after blanks. -/
def mark (c : Char) : Scan Unit := fun cs =>
  match Text.trimStart cs with
  | [] => .error .tooShort
  | d :: cs => if d = c then .ok ((), cs) else .error .invalid

/-- The fraction of a second in nanoseconds; digits after the ninth do not count. -/
def fraction : Scan Nat
  | '.' :: cs => do
    let (n, rest) ← number 9 cs
    let read := cs.length - rest.length
    return (n * Nat.pow 10 (9 - read), rest.dropWhile Char.isDigit)
  | cs => .ok (0, cs)

/-- The minutes of an offset. -/
def offsetMinutes : Scan Nat := fun cs =>
  if bytes cs < 2 then .error .tooShort
  else
    match cs with
    | a :: b :: rest =>
      if a.isDigit && b.isDigit then
        if a.toNat < '6'.toNat then
          .ok ((a.toNat - '0'.toNat) * 10 + (b.toNat - '0'.toNat), rest)
        else .error .outOfRange
      else .error .invalid
    | _ => .error .invalid

/-- The hours and minutes of an offset, with blanks or colons between them. -/
def offsetSize : Scan Nat := fun cs =>
  if bytes cs < 2 then .error .tooShort
  else
    match cs with
    | a :: b :: rest =>
      if a.isDigit && b.isDigit then do
        let between (c : Char) : Bool := c = ':' || Text.isBlank c
        let (minutes, rest) ← offsetMinutes (rest.dropWhile between)
        return (((a.toNat - '0'.toNat) * 10 + (b.toNat - '0'.toNat)) * 60 + minutes, rest)
      else .error .invalid
    | _ => .error .invalid

/-- By how many minutes clocks are ahead of universal time. -/
def offset : Scan Int
  | [] => .error .tooShort
  | c :: cs =>
    if c = 'Z' || c = 'z' then .ok (0, cs)
    else if c = '+' then (offsetSize cs).map fun (n, rest) => ((n : Int), rest)
    else if c = '-' || c = '−' then (offsetSize cs).map fun (n, rest) => (-(n : Int), rest)
    else if [c, cs.getD 0 ' ', cs.getD 1 ' '].map Char.toUpper = ['U', 'T', 'C'] then
      .ok (0, cs.drop 2)
    else .error .invalid

/-- The letter or the space between date and time. -/
def separator : Scan Unit
  | [] => .error .tooShort
  | c :: cs => if c = 'T' || c = 't' || c = ' ' then .ok ((), cs) else .error .invalid

/-- Reads a point in time. -/
def ofText (s : String) : Except Refusal Timestamp := do
  let (year, cs) ← yearNumber s.toList
  let (_, cs) ← mark '-' cs
  let (month, cs) ← twoDigits 1 12 cs
  let (_, cs) ← mark '-' cs
  let (day, cs) ← twoDigits 1 31 cs
  let (_, cs) ← separator cs
  let (hour, cs) ← twoDigits 0 23 cs
  let (_, cs) ← mark ':' cs
  let (minute, cs) ← twoDigits 0 59 cs
  let (_, cs) ← mark ':' cs
  let (second, cs) ← twoDigits 0 60 cs
  let (nanosecond, cs) ← fraction cs
  let (ahead, cs) ← offset (Text.trimStart cs)
  if Text.trimStart cs ≠ [] then .error .tooLong
  else if !yearInRange year || daysInMonth year month < day || 1440 ≤ ahead.natAbs then
    .error .outOfRange
  else
    let t := shift ⟨year, month, day, hour, minute, second, nanosecond⟩ ahead
    if yearInRange t.year then return t else .error .impossible

/-! ### Writing -/

/-- A number with at least the given number of digits. -/
def padded (width n : Nat) : List Char := Decimal.padZeros width (Decimal.digitChars n)

/-- A year: four digits, or a sign and at least four digits if that is not enough. -/
def yearChars (year : Int) : List Char :=
  if 0 ≤ year && year ≤ 9999 then padded 4 year.toNat
  else (if year < 0 then '-' else '+') :: padded 4 year.natAbs

/-- The fraction of a second in three, six or nine digits, none if it is zero. -/
def fractionChars (n : Nat) : List Char :=
  if n = 0 then []
  else if n % 1000000 = 0 then '.' :: padded 3 (n / 1000000)
  else if n % 1000 = 0 then '.' :: padded 6 (n / 1000)
  else '.' :: padded 9 n

/-- The text of a point in time. -/
def text (t : Timestamp) : String :=
  String.ofList (yearChars t.year ++ '-' :: padded 2 t.month ++ '-' :: padded 2 t.day
    ++ 'T' :: padded 2 t.hour ++ ':' :: padded 2 t.minute ++ ':' :: padded 2 t.second
    ++ fractionChars t.nanosecond ++ ['Z'])

end Timestamp

end ScreenPages
