import ScreenPages.Session.Check

/-!
# Gestures

A gesture on an element first gives the monitors a chance to clear the screen, then finds the
element by a new pass over its page, and then acts on what was found.  Every gesture is
recorded in the log with its outcome.

Before a tap the session waits until the frame of the node has settled: two looks in a row
show the same frame, or there is no frame to look at, or the time is up.

## Main definitions

* `Session.InterruptionCheck` — a check for interruptions.
* `Session.waitUntilStable` — waiting for a frame to settle.
* `Session.tap`, `Session.tapAny`, `Session.typeText`, `Session.scroll` — the gestures.
* `Session.isHittable` — whether an element can be tapped.
-/

namespace ScreenPages.Session

variable [Template.Engine]

/-- A check for interruptions: the monitor whose handler ran, if any. -/
abbrev InterruptionCheck := Session → Option Nat × Session

/-- Looks at a frame again and again until it is the one seen last; `fuel` bounds the number
of looks. -/
def settle (q : Query) (deadline : Nat) : Nat → Frame → Session → Session
  | 0, _, s => s
  | fuel + 1, last, s =>
    if deadline ≤ s.clock then s
    else
      let s := s.sleep s.settings.stablePollInterval
      let (answer, s) := s.call fun d => d.frame q
      match answer with
      | .ok (some f) => if f == last then s else settle q deadline fuel f s
      | _ => s

/-- Waits until the frame of a node has settled. -/
def waitUntilStable (q : Query) (s : Session) : Session :=
  let deadline := s.clock + s.settings.stableTimeout
  let looks := s.settings.stableTimeout / max s.settings.stablePollInterval 1 + 1
  let (answer, s) := s.call fun d => d.frame q
  match answer with
  | .ok (some f) => settle q deadline looks f s
  | _ => s

/-- Acts on an element after a check for interruptions, and records the action. -/
def interact (clear : InterruptionCheck) (action : Action) (e : Element)
    (perform : Query → Session → Except Fault Unit × Session) (s : Session) :
    Except Fault Unit × Session :=
  let start := s.clock
  let (_, s) := clear s
  let (found, s) := s.locate e
  let (result, s) := match found with
    | .ok q => perform q s
    | .error f => (.error f, s)
  (result, s.log action start result)

/-- Taps an element once its frame has settled. -/
def tap (clear : InterruptionCheck) (e : Element) : Session → Except Fault Unit × Session :=
  let action := .tap e.text
  interact clear action e fun q s => (s.waitUntilStable q).touch action e .tap q

/-- Taps the first node with the path of an element. -/
def tapAny (clear : InterruptionCheck) (e : Element) : Session → Except Fault Unit × Session :=
  let action := .tapAny e.text
  interact clear action e fun q s => s.touch action e .tap { q with index := 0 }

/-- Taps an element and then types into it. -/
def typeText (clear : InterruptionCheck) (e : Element) (text : String) :
    Session → Except Fault Unit × Session :=
  let action := .typeText e.text text
  interact clear action e fun q s =>
    let (result, s) := (s.waitUntilStable q).touch action e .tap q
    match result with
    | .ok _ => s.touch action e (.typeText text) q
    | .error f => (.error f, s)

/-- Scrolls an element by a vector. -/
def scroll (clear : InterruptionCheck) (e : Element) (dx dy : Float) :
    Session → Except Fault Unit × Session :=
  let action := .scroll e.text dx dy
  interact clear action e fun q s => s.touch action e (.scroll dx dy) q

/-- Whether an element can be tapped. -/
def isHittable (clear : InterruptionCheck) (e : Element) (s : Session) :
    Except Fault Bool × Session :=
  let (_, s) := clear s
  let (found, s) := s.locate e
  match found with
  | .ok q => s.call fun d => d.isHittable q
  | .error f => (.error f, s)

end ScreenPages.Session
