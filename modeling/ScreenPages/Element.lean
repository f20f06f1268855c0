import ScreenPages.Step

/-!
# Declared elements

A page declares the **elements** it expects on a screen.  An element has a kind, may fix an
identifier and give templates for the label and the value, and holds the elements expected
below it.  Each declaration is a new element with an identity of its own; a copy shares the
identity.  Elements made from what a screen shows are **dynamic**: they all share one
identity, nothing is remembered about them and nothing can be done with them.

## Main definitions

* `Identity`, `Element` — identities and declared elements.
* `Element.flatten` — an element and all below it in document order.
* `Element.declareAnew` — the same declaration with identities of its own.
* `Identity.renew`, `Element.mapIdentity` — new identities for some of the old ones.
* `Element.text` — the form of an element in messages.
* `Element.json` — what an element asks of a node, and of the nodes below it, in JSON.
-/

namespace ScreenPages

open Json

/-- The identity of a declared element. -/
inductive Identity where
  /-- The one identity of all elements made from a screen. -/
  | dynamic : Identity
  | declared (n : Nat) : Identity
  deriving DecidableEq, Repr, Inhabited

/-- The identity that replaces one of some old ones: they are counted from `next`, so that
equal ones stay equal.  Any other identity is kept. -/
def Identity.renew (old : List Identity) (next : Nat) (i : Identity) : Identity :=
  match old.idxOf? i with
  | some k => .declared (next + k)
  | none => i

/-- A declared element. -/
structure Element where
  identity : Identity
  kind : Kind
  identifier : Option String := none
  /-- The template for the label. -/
  label : Option String := none
  /-- The template for the value. -/
  value : Option String := none
  /-- The elements expected below, in order. -/
  children : List Element := []
  deriving Repr, Inhabited

namespace Element

/-- Whether an element was made from a screen. -/
def isDynamic (e : Element) : Bool := e.identity == .dynamic

mutual

/-- An element and all elements below it in document order. -/
def flatten : Element → List Element
  | e@⟨_, _, _, _, _, children⟩ => e :: flattenList children

/-- Several elements and all elements below them in document order. -/
def flattenList : List Element → List Element
  | [] => []
  | e :: es => flatten e ++ flattenList es

end

/-- What a list of elements declares at any depth. -/
def identities (es : List Element) : List Identity := (flattenList es).map Element.identity

mutual

/-- The number of elements in an element, itself counted. -/
def size : Element → Nat
  | ⟨_, _, _, _, _, children⟩ => 1 + sizeList children

/-- The number of elements in several elements. -/
def sizeList : List Element → Nat
  | [] => 0
  | e :: es => size e + sizeList es

end

mutual

/-- An element with identities of its own at every depth, counted from `next` in document
order. -/
def declareAnew (next : Nat) : Element → Element
  | ⟨_, kind, identifier, label, value, children⟩ =>
    ⟨.declared next, kind, identifier, label, value, declareAnewList (next + 1) children⟩

/-- Several elements with identities of their own at every depth. -/
def declareAnewList (next : Nat) : List Element → List Element
  | [] => []
  | e :: es => declareAnew next e :: declareAnewList (next + size e) es

end

mutual

/-- An element whose identities are replaced at every depth. -/
def mapIdentity (f : Identity → Identity) : Element → Element
  | ⟨identity, kind, identifier, label, value, children⟩ =>
    ⟨f identity, kind, identifier, label, value, mapIdentityList f children⟩

/-- Several elements whose identities are replaced at every depth. -/
def mapIdentityList (f : Identity → Identity) : List Element → List Element
  | [] => []
  | e :: es => mapIdentity f e :: mapIdentityList f es

end

mutual

/-- An element whose identities are replaced by themselves is the same. -/
theorem mapIdentity_id : (e : Element) → mapIdentity id e = e
  | ⟨_, _, _, _, _, children⟩ => by simp [mapIdentity, mapIdentityList_id children]

/-- Elements whose identities are replaced by themselves are the same. -/
theorem mapIdentityList_id : (es : List Element) → mapIdentityList id es = es
  | [] => by simp [mapIdentityList]
  | e :: es => by simp [mapIdentityList, mapIdentity_id e, mapIdentityList_id es]

end

/-- The templates that elements use, in document order, the label of each before its value. -/
def patterns (es : List Element) : List String :=
  (flattenList es).flatMap fun e => e.label.toList ++ e.value.toList

/-- The attributes an element gives, with their names. -/
def attributes (e : Element) : List (String × String) :=
  (e.identifier.map fun s => ("identifier", s)).toList
    ++ (e.label.map fun s => ("label", s)).toList
    ++ (e.value.map fun s => ("value", s)).toList

/-- The form of an element in messages: the kind, and in brackets the attributes it gives. -/
def text (e : Element) : String :=
  e.kind.name ++
    match e.attributes with
    | [] => ""
    | attributes =>
      "(" ++ String.intercalate ", " (attributes.map fun a => a.1 ++ ": " ++ Text.quoted a.2)
        ++ ")"

/-- What an element asks of a node: the kind and the attributes it gives. -/
def ownFields (e : Element) : List (String × Value) :=
  ("kind", e.kind.json) :: e.attributes.map fun a => (a.1, .text a.2)

/-- What an element asks of a node and of the nodes below it, one level deep. -/
def json (e : Element) : Value :=
  .object (e.ownFields ++
    match e.children with
    | [] => []
    | children => [("descendants", .array (children.map fun c => .object c.ownFields))])

end Element

end ScreenPages
