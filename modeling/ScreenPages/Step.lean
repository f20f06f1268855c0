import ScreenPages.Json.Record
import ScreenPages.Kind

/-!
# Steps

A **step** is what identifies a node of a screen among others: its kind, its identifier, its
label and its value.  The steps from the root of a screen to a node are the node's path.  An
identifier or label that the screen does not give is the empty text; a value may be absent.

## Main definitions

* `Step` — the identifying attributes of a node.
* `Step.text` — their short form in messages.
* `Step.decoder`, `Step.json` — a step in JSON.
-/

namespace ScreenPages

open Json

/-- The identifying attributes of a node. -/
structure Step where
  kind : Kind
  identifier : String := ""
  label : String := ""
  value : Option String := none
  deriving DecidableEq, Repr, Inhabited

/-- Reads a kind as dumps are read. -/
def Kind.decoder : Decoder Kind := fun limit d => (Decoder.text limit d).map Kind.ofDumpName

/-- A kind in JSON is its name. -/
def Kind.json (k : Kind) : Value := .text k.name

namespace Step

/-- The short form of a step: the kind, then the identifier, the label and the value as far
as they are there. -/
def text (s : Step) : String :=
  s.kind.name
    ++ (if s.identifier = "" then "" else "#" ++ s.identifier)
    ++ (if s.label = "" then "" else "[" ++ Text.quoted s.label ++ "]")
    ++ (match s.value with
      | none => ""
      | some v => "=" ++ Text.quoted v)

/-- The fields of a step while it is read. -/
structure Draft where
  kind : Option Kind := none
  identifier : Option String := none
  label : Option String := none
  value : Option (Option String) := none

/-- The fields of a step. -/
def fields : List (RecordField Draft) :=
  [ .of "kind" Draft.kind (fun a s => { s with kind := some a }) Kind.decoder,
    .of "identifier" Draft.identifier (fun a s => { s with identifier := some a }) Decoder.text,
    .of "label" Draft.label (fun a s => { s with label := some a }) Decoder.text,
    .of "value" Draft.value (fun a s => { s with value := some a }) (.optional Decoder.text)
      .anywhere ]

/-- The step of a complete draft. -/
def ofDraft (s : Draft) : Except Fault Step := do
  let kind ← orMissing "kind" s.kind
  let identifier ← orMissing "identifier" s.identifier
  let label ← orMissing "label" s.label
  return ⟨kind, identifier, label, s.value.join⟩

/-- Reads a step. -/
def decoder : Decoder Step := fun limit d => do
  ofDraft (← Decoder.record "struct PathStep" fields false {} limit d)

/-- The fields of a step in JSON, in their declared order; an absent value is left out. -/
def jsonFields (s : Step) : List (String × Value) :=
  [("kind", s.kind.json), ("identifier", .text s.identifier), ("label", .text s.label)]
    ++ (s.value.map fun v => ("value", Value.text v)).toList

/-- A step in JSON. -/
def json (s : Step) : Value := .object s.jsonFields

end Step

end ScreenPages
