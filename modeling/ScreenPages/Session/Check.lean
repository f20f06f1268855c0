import ScreenPages.Description
import ScreenPages.Resolution
import ScreenPages.Session.Basic

/-!
# Checking pages

A check is one pass over a page: its elements are entered in the cache as pending, the screen
of its application is fetched, the page is resolved against it, and what was found and
captured is stored.  If a template of the page is faulty, nothing of this happens.

## Main definitions

* `Session.resolve` — one pass.
* `Session.check` — what a pass says about the page.
* `Session.locate` — the query for an element by a new pass over its page.
-/

namespace ScreenPages.Session

variable [Template.Engine]

/-- One pass over a page: what the check found, and where each element was found. -/
def resolve (n : Nat) (s : Session) :
    Except Fault (PageCheck × Resolution) × Session :=
  let (body, s) := s.lookAt n
  match Expectation.ofElements body with
  | .error a => (.error (.template a), s)
  | .ok expectations =>
    let cache := s.cache.register n (Element.identities body)
    let (answer, device) := s.device.snapshot (s.page n).application
    let screen := answer.toOption
    let r := Resolution.ofPage expectations screen
    (.ok (⟨r.missing, screen.map Node.describe⟩, r),
      { s with
        device
        cache := r.resolved.foldl (fun c f => c.set f.1 n f.2) cache
        captured := s.captured.record r.captures
        history := .survey ⟨n, (s.page n).application, body, screen, r⟩ :: s.history })

/-- What one pass says about a page. -/
def check (n : Nat) (s : Session) : Except Fault PageCheck × Session :=
  let (r, s) := s.resolve n
  (r.map Prod.fst, s)

/-- The query for an element, from a new pass over the page it was last checked with. -/
def locate (e : Element) (s : Session) : Except Fault Query × Session :=
  if e.isDynamic then (.error (.dynamicElement e.text), s)
  else
    match s.cache.get? e.identity with
    | none => (.error (.notChecked e.text), s)
    | some entry =>
      let (r, s) := s.resolve entry.page
      let p := s.page entry.page
      match r with
      | .error f => (.error f, s)
      | .ok (_, resolution) =>
        match resolution.location e.identity with
        | none => (.error (.unresolved e.text p.name), s)
        | some l => (.ok (.ofLocation p.application l), s)

end ScreenPages.Session
