import ScreenPages.Element

/-!
# Pages

A **page** is a screen as a test expects it: a name, the application it belongs to, and the
elements it declares.  A page may have several bodies, that is sets of elements, one of which
is the current one, and a body may declare its elements anew each time it is looked at.  The
system's own alerts are pages of the application that presents them.

## Main definitions

* `Page`, `Page.body` — a page and its current body.
* `Page.Body.lookAt` — the elements of a body when it is looked at.
* `SystemAlert`, `SystemAlert.page` — alerts of the system.
-/

namespace ScreenPages

/-- One set of elements that a page can have. -/
structure Page.Body where
  elements : List Element
  /-- The identities that are new each time the body is looked at. -/
  renewed : List Identity := []
  deriving Repr, Inhabited

/-- The elements of a body when it is looked at, with new identities from `next`. -/
def Page.Body.lookAt (b : Page.Body) (next : Nat) : List Element :=
  Element.mapIdentityList (Identity.renew b.renewed next) b.elements

/-- A body that renews nothing always has the same elements. -/
theorem Page.Body.lookAt_mk_nil (es : List Element) (next : Nat) :
    Page.Body.lookAt ⟨es, []⟩ next = es := by
  have h : Identity.renew [] next = id := funext fun i => by simp [Identity.renew]
  simp [Page.Body.lookAt, h, Element.mapIdentityList_id]

/-- A screen as a test expects it. -/
structure Page where
  name : String
  /-- The application the page belongs to, none for the application under test. -/
  application : Option String := none
  bodies : List Page.Body
  /-- Which body is the current one. -/
  current : Nat := 0
  deriving Repr, Inhabited

/-- The current body of a page. -/
def Page.body (p : Page) : Page.Body := p.bodies.getD p.current ⟨[], []⟩

/-- An alert that the system presents: perhaps with a text, and with two buttons. -/
structure SystemAlert where
  /-- The name of the page. -/
  name : String
  /-- The text the alert has to show, if it is fixed. -/
  text : Option Element
  /-- The button that declines. -/
  disallow : Element
  /-- The button that accepts. -/
  allow : Element
  /-- The identity of the alert itself. -/
  identity : Identity
  deriving Repr, Inhabited

namespace SystemAlert

/-- The application that presents the alerts of the system. -/
def application : String := "com.apple.springboard"

/-- How many identities an alert takes. -/
def identities : Nat := 4

/-- An alert whose declining button may have a fixed label, with identities from `next`. -/
def build (name : String) (text deny : Option String) (next : Nat) : SystemAlert :=
  let button (n : Nat) (label : Option String) : Element :=
    { identity := .declared n, kind := .button, label }
  { name
    text := text.map fun s =>
      { identity := .declared (next + 2), kind := .staticText, label := some s }
    disallow := button next deny
    allow := button (next + 1) none
    identity := .declared (next + 3) }

/-- Any alert with two buttons, such as the question whether an application may track. -/
def any (text : Option String) (next : Nat) : SystemAlert := build "DefaultAlert" text none next

/-- The alert that asks for a permission, known by the label of its declining button. -/
def permission (deny : String) (text : Option String) (next : Nat) : SystemAlert :=
  build "DefaultPermissionAlert" text (some deny) next

/-- The page of an alert. -/
def page (a : SystemAlert) : Page :=
  let alert : Element :=
    { identity := a.identity, kind := .alert, children := a.text.toList ++ [a.disallow, a.allow] }
  { name := a.name, application := some application, bodies := [⟨[alert], []⟩] }

end SystemAlert

end ScreenPages
