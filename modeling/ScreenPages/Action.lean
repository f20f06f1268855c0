import ScreenPages.Duration
import ScreenPages.Json.Record
import ScreenPages.Timestamp
import ScreenPages.Uuid

/-!
# The action log

What a session does is recorded as **actions** with their outcomes and durations.  A stored
entry of the log also has an identifier and the time at which it was made.

An action in JSON is an object whose member `type` names its form; the other members may come
before or after it.  It may also be a list that begins with the name of the form.

## Main definitions

* `Action`, `Outcome`, `LogEntry` — what is recorded.
* `StoredEntry` — an entry as it is stored.
* `Action.decoder`, `Outcome.decoder`, `StoredEntry.decoder` — reading them from JSON.
-/

namespace ScreenPages

open Json

/-- What a session does; elements and pages are given by their texts, times in
milliseconds. -/
inductive Action where
  | tap (element : String) : Action
  /-- A tap on the first node with the path of the element. -/
  | tapAny (element : String) : Action
  | typeText (element text : String) : Action
  | scroll (element : String) (dx dy : Float) : Action
  | waitForExistence (page : String) (timeout : Nat) : Action
  | waitUntilHittable (element : String) (timeout : Nat) : Action
  /-- The handler of a monitor ran. -/
  | handleInterruption (page : String) : Action
  deriving Repr, Inhabited

/-- How an action ended. -/
inductive Outcome where
  | success : Outcome
  | failure (message : String) : Outcome
  deriving DecidableEq, Repr, Inhabited

/-- An action with its outcome and its duration in milliseconds, if known. -/
structure LogEntry where
  action : Action
  outcome : Outcome
  duration : Option Nat
  deriving Repr, Inhabited

/-- Durations have 64 bits. -/
def LogEntry.durationModulus : Nat := Nat.pow 2 64

/-- A time as it is recorded. -/
def Duration.logged (d : Duration) : Nat := d.millis % LogEntry.durationModulus

/-- An entry as it is stored. -/
structure StoredEntry where
  id : Uuid
  /-- When the action ended. -/
  time : Timestamp
  entry : LogEntry
  deriving Repr, Inhabited

namespace Json.Value

/-- What a value is found to be where something else is due. -/
def found : Value → Found
  | .null => .null
  | .flag b => .flag b
  | .number n => .number n
  | .text s => .text s
  | .array _ => .sequence
  | .object _ => .map

/-- The text that a value has to be. -/
def asText : Value → Except Fault String
  | .text s => .ok s
  | v => .error (.wrongType v.found "a string")

/-- The natural number that a value has to be. -/
def asNatural : Value → Except Fault Nat
  | .number (.natural n) => .ok n
  | .number (.negative n) => .error (.wrongValue (.number (.negative n)) "u64")
  | v => .error (.wrongType v.found "u64")

/-- The real number that a value has to be. -/
def asReal : Value → Except Fault Float
  | .number n => .ok n.toFloat
  | v => .error (.wrongType v.found "f64")

end Json.Value

namespace Action

/-- The short name of an action. -/
def name : Action → String
  | tap _ => "tap"
  | tapAny _ => "tap_any"
  | typeText _ _ => "type_text"
  | scroll _ _ _ => "scroll"
  | waitForExistence _ _ => "wait_for_existence"
  | waitUntilHittable _ _ => "wait_until_hittable"
  | handleInterruption _ => "handle_interruption"

/-- The forms of actions. -/
inductive Form where
  | tap | tapAny | typeText | scroll | waitForExistence | waitUntilHittable | handleInterruption
  deriving DecidableEq, Repr, Inhabited

/-- The particulars of actions. -/
inductive Particular where
  | element | text | dx | dy | page | timeout
  deriving DecidableEq, Repr, Inhabited

/-- The key of a particular. -/
def Particular.name : Particular → String
  | element => "element"
  | text => "text"
  | dx => "dx"
  | dy => "dy"
  | page => "page"
  | timeout => "timeout_ms"

namespace Form

/-- Every form. -/
def all : List Form :=
  [tap, tapAny, typeText, scroll, waitForExistence, waitUntilHittable, handleInterruption]

/-- The name of a form in JSON. -/
def name : Form → String
  | tap => "Tap"
  | tapAny => "TapAny"
  | typeText => "TypeText"
  | scroll => "Scroll"
  | waitForExistence => "WaitForExistence"
  | waitUntilHittable => "WaitUntilHittable"
  | handleInterruption => "HandleInterruption"

/-- The particulars of a form, in order. -/
def particulars : Form → List Particular
  | tap | tapAny => [.element]
  | typeText => [.element, .text]
  | scroll => [.element, .dx, .dy]
  | waitForExistence => [.page, .timeout]
  | waitUntilHittable => [.element, .timeout]
  | handleInterruption => [.page]

/-- Reads the name of a form. -/
def decoder : Decoder Form := fun limit d => do
  let s ← Decoder.textNamed "variant identifier" limit d
  match all.find? fun f => f.name == s with
  | some f => return f
  | none => .error (.unknownVariant s (all.map name))

end Form

/-! ### Reading -/

/-- The particulars of an action while it is read. -/
structure Draft where
  element : Option String := none
  text : Option String := none
  dx : Option Float := none
  dy : Option Float := none
  page : Option String := none
  timeout : Option Nat := none

/-- Whether a draft has a particular already. -/
def Draft.has (s : Draft) : Particular → Bool
  | .element => s.element.isSome
  | .text => s.text.isSome
  | .dx => s.dx.isSome
  | .dy => s.dy.isSome
  | .page => s.page.isSome
  | .timeout => s.timeout.isSome

/-- Reads a particular into a draft. -/
def Draft.put (s : Draft) (v : Value) : Particular → Except Fault Draft
  | .element => return { s with element := some (← v.asText) }
  | .text => return { s with text := some (← v.asText) }
  | .dx => return { s with dx := some (← v.asReal) }
  | .dy => return { s with dy := some (← v.asReal) }
  | .page => return { s with page := some (← v.asText) }
  | .timeout => return { s with timeout := some (← v.asNatural) }

/-- The action of a complete draft. -/
def ofDraft (s : Draft) : Form → Except Fault Action
  | .tap => return .tap (← orMissing "element" s.element)
  | .tapAny => return .tapAny (← orMissing "element" s.element)
  | .typeText => return .typeText (← orMissing "element" s.element) (← orMissing "text" s.text)
  | .scroll =>
    return .scroll (← orMissing "element" s.element) (← orMissing "dx" s.dx)
      (← orMissing "dy" s.dy)
  | .waitForExistence =>
    return .waitForExistence (← orMissing "page" s.page) (← orMissing "timeout_ms" s.timeout)
  | .waitUntilHittable =>
    return .waitUntilHittable (← orMissing "element" s.element)
      (← orMissing "timeout_ms" s.timeout)
  | .handleInterruption => return .handleInterruption (← orMissing "page" s.page)

/-- Reads the particulars of a form from members; those it does not have are ignored. -/
def ofMembers (form : Form) : Draft → List (String × Value) → Except Fault Action
  | s, [] => ofDraft s form
  | s, (key, v) :: members =>
    match form.particulars.find? fun p => p.name == key with
    | none => ofMembers form s members
    | some p => do
      if s.has p then .error (.duplicateField key)
      else ofMembers form (← s.put v p) members

/-- Reads the particulars of a form from a list; `done` counts those before. -/
def ofItems (form : Form) (done : Nat) : List Particular → Draft → List Value →
    Except Fault Action
  | [], s, [] => ofDraft s form
  | [], _, vs@(_ :: _) =>
    .error (.wrongLength (done + vs.length) (countElements done ++ " in sequence"))
  | _ :: _, _, [] =>
    .error (.wrongLength done
      ("struct variant ActionType::" ++ form.name ++ " with "
        ++ countElements form.particulars.length))
  | p :: ps, s, v :: vs => do ofItems form (done + 1) ps (← s.put v p) vs

/-- What has been read of an object: the form, if it was named yet, and the other members. -/
structure Tagged where
  form : Option Form := none
  members : List (String × Value) := []

/-- Reads one member of an object. -/
def member (limit : Nat) (s : Tagged) (m : List Piece × Doc) : Except Fault Tagged := do
  let key ← Piece.content m.1
  if key = "type" then
    if s.form.isSome then .error (.duplicateField "type")
    else return { s with form := some (← Form.decoder limit m.2) }
  else return { s with members := s.members ++ [(key, ← Decoder.value limit m.2)] }

/-- Reads an action. -/
def decoder : Decoder Action
  | 0, .object _ _ => .error .nestingLimit
  | 0, .array _ _ => .error .nestingLimit
  | limit + 1, .object members stop => do
    let s ← members.foldlM (member limit) {}
    stop.check Doc.Stop.objectFault
    ofMembers (← orMissing "type" s.form) {} s.members
  | limit + 1, .array items stop =>
    match items with
    | [] => do
      stop.check Doc.Stop.listFault
      .error (.missingField "type")
    | d :: ds => do
      let form ← Form.decoder limit d
      let vs ← ds.mapM (Decoder.value limit)
      stop.check Doc.Stop.listFault
      ofItems form 0 form.particulars {} vs
  | _, d => .error (d.mismatch "internally tagged enum ActionType")

/-! ### Writing -/

/-- An action in JSON. -/
def json : Action → Value
  | tap element => .object [("type", .text "Tap"), ("element", .text element)]
  | tapAny element => .object [("type", .text "TapAny"), ("element", .text element)]
  | typeText element text =>
    .object [("type", .text "TypeText"), ("element", .text element), ("text", .text text)]
  | scroll element dx dy =>
    .object [("type", .text "Scroll"), ("element", .text element), ("dx", .ofFloat dx),
      ("dy", .ofFloat dy)]
  | waitForExistence page timeout =>
    .object [("type", .text "WaitForExistence"), ("page", .text page),
      ("timeout_ms", .ofNat timeout)]
  | waitUntilHittable element timeout =>
    .object [("type", .text "WaitUntilHittable"), ("element", .text element),
      ("timeout_ms", .ofNat timeout)]
  | handleInterruption page =>
    .object [("type", .text "HandleInterruption"), ("page", .text page)]

end Action

namespace Outcome

/-- Whether an action succeeded. -/
def isSuccess (o : Outcome) : Bool := o == .success

/-- The outcomes by name. -/
def names : List String := ["Success", "Failure"]

/-- The content of an outcome that is written as an object. -/
def content (limit : Nat) (key : String) (d : Doc) : Except Fault Outcome :=
  if key = "Success" then
    match d with
    | .null => .ok .success
    | d => .error (d.mismatch "unit")
  else if key = "Failure" then (Decoder.text limit d).map .failure
  else .error (.unknownVariant key names)

/-- Reads an outcome: the bare name of a success, or an object with one member. -/
def decoder : Decoder Outcome
  | _, .text pieces => do
    let s ← Piece.content pieces
    if s = "Success" then return .success
    else if s = "Failure" then .error (.wrongType .bareVariant "newtype variant")
    else .error (.unknownVariant s names)
  | 0, .object _ _ => .error .nestingLimit
  | limit + 1, .object ((key, d) :: more) stop => do
    let outcome ← content limit (← Piece.content key) d
    match more, stop with
    | [], .closed => return outcome
    | [], .ended => .error .endInObject
    | _, _ => .error .expectedValue
  | _ + 1, .object [] .closed => .error .expectedValue
  | _ + 1, .object [] stop => .error stop.objectFault
  | _, .gap (.token (.brokenText pieces stop)) => .error (Token.brokenText pieces stop).fault
  | _, .gap (.token _) => .error .expectedValue
  | _, .gap g => .error g.fault
  | _, _ => .error .expectedValue

/-- An outcome in JSON. -/
def json : Outcome → Value
  | success => .text "Success"
  | failure message => .object [("Failure", .text message)]

end Outcome

namespace StoredEntry

/-- The fields of an entry while it is read. -/
structure Draft where
  id : Option Uuid := none
  time : Option Timestamp := none
  action : Option Action := none
  outcome : Option Outcome := none
  duration : Option (Option Nat) := none

/-- An identifier in JSON. -/
def idDecoder : Decoder Uuid :=
  .textWith "a formatted UUID string" fun s =>
    (Uuid.ofText s).mapError fun r => "UUID parsing failed: " ++ r.message

/-- A point in time in JSON. -/
def timeDecoder : Decoder Timestamp :=
  .textWith "an RFC 3339 formatted date and time string" fun s =>
    (Timestamp.ofText s).mapError Timestamp.Refusal.message

/-- Reads an entry. -/
def decoder : Decoder StoredEntry := fun limit d => do
  let fields : List (RecordField Draft) :=
    [ .of "id" Draft.id (fun a s => { s with id := some a }) idDecoder,
      .of "timestamp" Draft.time (fun a s => { s with time := some a }) timeDecoder,
      .of "action" Draft.action (fun a s => { s with action := some a }) Action.decoder,
      .of "result" Draft.outcome (fun a s => { s with outcome := some a }) Outcome.decoder,
      .of "duration_ms" Draft.duration (fun a s => { s with duration := some a })
        (.optional (.natural "u64")) .ifNamed ]
  let s ← Decoder.record "struct ActionLog" fields false {} limit d
  return ⟨← orMissing "id" s.id, ← orMissing "timestamp" s.time,
    ← orMissing "action" s.action, ← orMissing "result" s.outcome, s.duration.join⟩

/-- An entry in JSON; an unknown duration is left out. -/
def json (e : StoredEntry) : Value :=
  .object ([("id", .text e.id.text), ("timestamp", .text e.time.text),
      ("action", e.entry.action.json), ("result", e.entry.outcome.json)]
    ++ (e.entry.duration.map fun n => ("duration_ms", Value.ofNat n)).toList)

end StoredEntry

end ScreenPages
