import ScreenPages.Expectation
import ScreenPages.Json.Record
import ScreenPages.Text.Stored

/-!
# Page files

A page can be declared in a JSON file: its name, perhaps its application, and its elements.
Unlike a dump, a page file has to name kinds exactly and may hold no unknown keys, and each
label and value has to be a template.

## Main definitions

* `PageFile` — a declared page.
* `PageFile.ofText`, `PageFile.ofFile` — reading one, or why it is refused.
* `PageFile.binders` — the variables it uses.
-/

namespace ScreenPages

open Json

namespace Element

/-- The fields of an element while it is read. -/
structure Draft where
  kind : Option Kind := none
  identifier : Option (Option String) := none
  label : Option (Option String) := none
  value : Option (Option String) := none
  children : Option (List Element) := none

/-- A kind that is named exactly. -/
def exactKind : Decoder Kind :=
  .textWith "a string" fun s =>
    match Kind.ofName? s with
    | some k => .ok k
    | none => .error (Kind.unknownMessage s)

/-- The fields of a declared element, given how its children are read. -/
def fields (child : Decoder Element) : List (RecordField Draft) :=
  [ .of "type" Draft.kind (fun a s => { s with kind := some a }) exactKind,
    .of "identifier" Draft.identifier (fun a s => { s with identifier := some a })
      (.optional Decoder.text) .anywhere,
    .of "label" Draft.label (fun a s => { s with label := some a }) (.optional Decoder.text)
      .anywhere,
    .of "value" Draft.value (fun a s => { s with value := some a }) (.optional Decoder.text)
      .anywhere,
    .of "children" Draft.children (fun a s => { s with children := some a }) (.list child)
      .anywhere ]

/-- The element of a complete draft, with no identity of its own yet. -/
def ofDraft (s : Draft) : Except Fault Element := do
  let kind ← orMissing "type" s.kind
  return { identity := .dynamic, kind, identifier := s.identifier.join, label := s.label.join
           value := s.value.join, children := s.children.getD [] }

/-- Reads an element, given how its children are read. -/
def decoderWith (child : Decoder Element) : Decoder Element := fun limit d => do
  ofDraft (← Decoder.record "struct ElementDeclaration" (fields child) true {} limit d)

/-- Reads an element with all below it.  An element and its list of children are one level of
nesting each. -/
def decoder : Decoder Element
  | limit + 2, d => decoderWith (fun _ => decoder limit) (limit + 2) d
  | limit, d => decoderWith (fun _ _ => .error .nestingLimit) limit d

end Element

/-- A declared page. -/
structure PageFile where
  name : String
  /-- The application the page belongs to, none for the application under test. -/
  application : Option String
  elements : List Element
  deriving Repr, Inhabited

namespace PageFile

variable [Template.Engine]

/-- The fields of a page while it is read. -/
structure Draft where
  name : Option String := none
  application : Option (Option String) := none
  elements : Option (List Element) := none

/-- Reads a page; each of its elements gets an identity. -/
def decoder : Decoder PageFile := fun limit d => do
  let fields : List (RecordField Draft) :=
    [ .of "name" Draft.name (fun a s => { s with name := some a }) Decoder.text,
      .of "application" Draft.application (fun a s => { s with application := some a })
        (.optional Decoder.text) .anywhere,
      .of "elements" Draft.elements (fun a s => { s with elements := some a })
        (.list Element.decoder) .anywhere ]
  let s ← Decoder.record "struct PageDeclaration" fields true {} limit d
  return ⟨← orMissing "name" s.name, s.application.join,
    Element.declareAnewList 1 (s.elements.getD [])⟩

/-- Why a page file is refused. -/
inductive Refusal where
  /-- It is no page declaration. -/
  | shape (fault : Fault) : Refusal
  /-- A label or value is no template. -/
  | template (ambiguity : Template.Ambiguity) : Refusal
  /-- The file cannot be read. -/
  | unreadable (file reason : String) : Refusal
  deriving Repr, Inhabited

/-- The wording of a refusal. -/
def Refusal.message : Refusal → String
  | shape fault => "invalid page declaration: " ++ fault.message
  | template ambiguity => ambiguity.message
  | unreadable file reason => "failed to read " ++ file ++ ": " ++ reason

/-- The templates of a page in document order. -/
def templates (p : PageFile) : Except Template.Ambiguity (List Template) :=
  (Element.patterns p.elements).mapM Template.ofText

/-- Reads the text of a page file. -/
def ofText (s : String) : Except Refusal PageFile := do
  let p ← (Decoder.run decoder s).mapError .shape
  let _ ← p.templates.mapError .template
  return p

/-- Reads a page file with the given name. -/
def ofFile (name : String) (file : Text.File) : Except Refusal PageFile :=
  match Text.stored file with
  | .error reason => .error (.unreadable name reason)
  | .ok s => ofText s

/-- The variables a page uses, each once, in the order of their first use. -/
def binders (p : PageFile) : List Variable :=
  match p.templates with
  | .error _ => []
  | .ok ts => (ts.flatMap Template.binders).eraseDups

end PageFile

end ScreenPages
