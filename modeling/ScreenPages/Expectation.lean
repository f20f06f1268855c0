import ScreenPages.Element
import ScreenPages.Snapshot
import ScreenPages.Template

/-!
# Expectations

An **expectation** is a declared element with its templates read.  A `Matcher` is the part
of it that a single node can be tested against.

## Main definitions

* `Matcher`, `Matcher.capture` — what is asked of one node, and the values it captures.
* `Expectation` — an element with its templates read, at every depth.
* `Expectation.ofElements` — the expectations of a page, or the first faulty template.
-/

namespace ScreenPages

variable [Template.Engine]

/-- What a declared element asks of the node it stands for. -/
structure Matcher where
  kind : Kind
  identifier : Option String
  label : Option Template
  value : Option Template
  deriving Repr, Inhabited

namespace Matcher

/-- Reads an optional template. -/
def templateOf? : Option String → Except Template.Ambiguity (Option Template)
  | none => .ok none
  | some s => (Template.ofText s).map some

/-- What an element asks of its node: the label is read before the value. -/
def ofElement (e : Element) : Except Template.Ambiguity Matcher := do
  let label ← templateOf? e.label
  let value ← templateOf? e.value
  return ⟨e.kind, e.identifier, label, value⟩

/-- What a template captures from a text that may be absent; no template asks for nothing. -/
def captureText (template : Option Template) (text : Option String) : Option (List Capture) :=
  match template with
  | none => some []
  | some t => text.bind t.capture

/-- Whether the kind is right: the kind `Any` accepts every node. -/
def acceptsKind (m : Matcher) (s : Step) : Bool := m.kind == .any || m.kind == s.kind

/-- Whether the identifier is right, if one is asked for. -/
def acceptsIdentifier (m : Matcher) (s : Step) : Bool :=
  match m.identifier with
  | none => true
  | some i => i == s.identifier

/-- The values a node gives to the variables, first those of the label, then those of the
value; nothing if the node does not match. -/
def capture (m : Matcher) (s : Step) : Option (List Capture) :=
  if m.acceptsKind s && m.acceptsIdentifier s then do
    let label ← captureText m.label (some s.label)
    let value ← captureText m.value s.value
    return label ++ value
  else none

/-- Whether a node matches. -/
def accepts (m : Matcher) (s : Step) : Bool := (m.capture s).isSome

end Matcher

/-- A declared element with its templates read. -/
structure Expectation where
  element : Element
  /-- What is asked of the node itself. -/
  own : Matcher
  /-- What is asked of the nodes for the children themselves. -/
  preview : List Matcher
  children : List Expectation
  deriving Repr, Inhabited

namespace Expectation

mutual

/-- Reads the templates of an element: its own, those of its children, and then those of
each child with all below it. -/
def ofElement : Element → Except Template.Ambiguity Expectation
  | e@⟨_, _, _, _, _, children⟩ => do
    let own ← Matcher.ofElement e
    let preview ← children.mapM Matcher.ofElement
    let below ← ofElements children
    return ⟨e, own, preview, below⟩

/-- Reads the templates of several elements in order. -/
def ofElements : List Element → Except Template.Ambiguity (List Expectation)
  | [] => .ok []
  | e :: es => do
    let x ← ofElement e
    let xs ← ofElements es
    return x :: xs

end

end Expectation

end ScreenPages
