import ScreenPages.Json.Decode

/-!
# Reading records

A record is written as an object, its fields in any order, or as a list of its fields in
their declared order.  While it is read, the fields seen so far are kept in a draft.

## Main definitions

* `Json.RecordField` — how one field goes into a draft.
* `Json.Decoder.record` — reading a draft from either form.
-/

namespace ScreenPages.Json

/-- What an object or a list may leave out. -/
inductive RecordField.Absence where
  /-- The field must be there in both forms. -/
  | never : RecordField.Absence
  /-- The field may be left out in both forms. -/
  | anywhere : RecordField.Absence
  /-- The field may be left out of an object, but not of a list. -/
  | ifNamed : RecordField.Absence
  deriving DecidableEq, Repr, Inhabited

/-- How one field of a record goes into its draft. -/
structure RecordField (σ : Type) where
  /-- The key of the field. -/
  name : String
  /-- Whether the draft has the field already. -/
  isSet : σ → Bool
  /-- Reads the field into the draft. -/
  read : Decoder (σ → σ)
  /-- Where it may be left out. -/
  absence : RecordField.Absence := .never

/-- A field from its place in the draft and the decoder of its value. -/
def RecordField.of {σ α : Type} (name : String) (get : σ → Option α) (set : α → σ → σ)
    (decoder : Decoder α) (absence : RecordField.Absence := .never) : RecordField σ :=
  ⟨name, fun s => (get s).isSome, fun limit d => (decoder limit d).map set, absence⟩

/-- A field that has to be there. -/
def orMissing {α : Type} (name : String) : Option α → Except Fault α
  | some a => .ok a
  | none => .error (.missingField name)

namespace Decoder

/-- Reads one member of an object into a draft.  Members with unknown keys are passed over,
or refused if the record is strict. -/
def member {σ : Type} (fields : List (RecordField σ)) (strict : Bool) (limit : Nat) (s : σ)
    (m : List Piece × Doc) : Except Fault σ := do
  let key ← Piece.content m.1
  match fields.find? fun f => f.name == key with
  | some f =>
    if f.isSet s then .error (.duplicateField key)
    else return (← f.read limit m.2) s
  | none =>
    if strict then .error (.unknownField key (fields.map RecordField.name))
    else
      m.2.skip
      return s

/-- Reads the items of a list into a draft in the order of the fields; `done` counts the
fields before them. -/
def positional {σ : Type} (shortage : Nat → Fault) (limit : Nat) :
    Nat → List (RecordField σ) → List Doc → Doc.Stop → σ → Except Fault σ
  | _, [], _ :: _, _, _ => .error .trailingCharacters
  | _, [], [], stop, s => do
    stop.check Doc.Stop.fullListFault
    return s
  | done, f :: fs, d :: ds, stop, s => do
    let set ← f.read limit d
    positional shortage limit (done + 1) fs ds stop (set s)
  | done, f :: fs, [], stop, s => do
    stop.check Doc.Stop.listFault
    if f.absence = .anywhere then positional shortage limit (done + 1) fs [] stop s
    else .error (shortage done)

/-- The fault of a list that has too few items for a record. -/
def tooShort (what : String) (total done : Nat) : Fault :=
  .wrongLength done (what ++ " with " ++ countElements total)

/-- Reads a record in either form into a draft. -/
def record {σ : Type} (what : String) (fields : List (RecordField σ)) (strict : Bool) (start : σ) :
    Decoder σ
  | 0, .object _ _ => .error .nestingLimit
  | 0, .array _ _ => .error .nestingLimit
  | limit + 1, .object members stop => do
    let s ← members.foldlM (member fields strict limit) start
    stop.check Doc.Stop.objectFault
    return s
  | limit + 1, .array items stop =>
    positional (tooShort what fields.length) limit 0 fields items stop start
  | _, d => .error (d.mismatch what)

end Decoder

end ScreenPages.Json
