import ScreenPages.Element
import ScreenPages.Node
import ScreenPages.Text.Alphanumeric
import ScreenPages.Text.Numeric

/-!
# Describing a screen

A screen is described as a page of dynamic elements: nodes of the kinds that pages usually
declare are kept with the attributes that identify them, every other node is replaced by what
is kept below it.  Static texts, buttons and text fields are kept without what is below them.

## Main definitions

* `Node.describe` — the page a screen shows.
* `Node.suggestName` — a name for that page.
-/

namespace ScreenPages

namespace Node

/-- How much of a node is kept in a description. -/
inductive Share where
  /-- The node by itself, as this element. -/
  | leaf (e : Element) : Share
  /-- The node, as this element with the elements described below it. -/
  | container (e : Element) : Share
  /-- Only what is described below the node. -/
  | below : Share

/-- A text that is not empty. -/
def nonempty? (s : String) : Option String := if s = "" then none else some s

/-- What is kept of a node: a static text with its label, even an empty one, a button with
its label, if any, a text field with its value, if any, all with the identifier, if any. -/
def share (s : Step) : Share :=
  let identifier := nonempty? s.identifier
  match s.kind with
  | .staticText => .leaf { identity := .dynamic, kind := s.kind, identifier, label := s.label }
  | .button =>
    .leaf { identity := .dynamic, kind := s.kind, identifier, label := nonempty? s.label }
  | .textField | .secureTextField =>
    .leaf { identity := .dynamic, kind := s.kind, identifier, value := s.value.bind nonempty? }
  | .navigationBar | .cell => .container { identity := .dynamic, kind := s.kind, identifier }
  | .tabBar | .collectionView => .container { identity := .dynamic, kind := s.kind }
  | _ => .below

mutual

/-- The elements that describe a tree. -/
def describe : Node → List Element
  | ⟨step, _, _, children⟩ =>
    match share step with
    | .leaf e => [e]
    | .container e => [{ e with children := describeList children }]
    | .below => describeList children

/-- The elements that describe several trees. -/
def describeList : List Node → List Element
  | [] => []
  | n :: ns => describe n ++ describeList ns

end

mutual

/-- The first node of a kind in document order. -/
def firstOfKind (k : Kind) : Node → Option Step
  | ⟨step, _, _, children⟩ => if step.kind = k then some step else firstOfKindList k children

/-- The first node of a kind in several trees. -/
def firstOfKindList (k : Kind) : List Node → Option Step
  | [] => none
  | n :: ns => (firstOfKind k n).or (firstOfKindList k ns)

end

/-- An identifier as the name of a page: its letters and digits, after `Page` if a digit
comes first; nothing if none are left. -/
def pageName? (identifier : String) : Option String :=
  match identifier.toList.filter Text.isAlphanumeric with
  | [] => none
  | c :: cs =>
    let name := String.ofList (c :: cs)
    some (if Text.isNumeric c then "Page" ++ name else name)

/-- A name for the page that a screen shows, from the first navigation bar, else from the
first generic container. -/
def suggestName (root : Node) : String :=
  let name? (k : Kind) : Option String := (firstOfKind k root).bind fun s => pageName? s.identifier
  ((name? .navigationBar).or (name? .other)).getD "GeneratedPage"

end Node

end ScreenPages
