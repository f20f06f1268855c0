import ScreenPages.Session.Gesture

/-!
# Waiting

A wait makes passes at fixed intervals, each after a check for interruptions, until one of
them succeeds or fails for good.  A pass that does neither is the last if the time is up when
it ends.

The instant at which the time is up is fixed when a wait begins.  If the clock cannot tell this
instant, the wait panics before it makes its first pass.

## Main definitions

* `Session.Pass`, `Session.poll` — passes at intervals.
* `Session.KeepsTime` — the clock can tell when a time will be over.
* `Session.waitFor` — passes for a time, if the clock keeps it.
* `Session.waitForExistence` — waiting for a page.
* `Session.waitUntilHittable` — waiting until an element can be tapped.
-/

namespace ScreenPages.Session

variable [Template.Engine]

/-- The outcome of one pass of a wait. -/
inductive Pass (α : Type) where
  /-- The wait is over. -/
  | finished (result : Except Fault α) : Pass α
  /-- The wait goes on; if the time is up, it fails like this. -/
  | unfinished (f : Fault) : Pass α

/-- Makes passes until one finishes or the time is up; `fuel` bounds the number of passes
after the first. -/
def poll {α : Type} (pass : Session → Pass α × Session) (deadline : Nat) :
    Nat → Session → Except Fault α × Session
  | fuel, s =>
    match pass s with
    | (.finished result, s) => (result, s)
    | (.unfinished f, s) =>
      if deadline ≤ s.instant then (.error f, s)
      else
        match fuel with
        | 0 => (.error f, s)
        | fuel + 1 => poll pass deadline fuel (s.sleep s.settings.pollInterval)

/-- The clock keeps a time: sleeping so long takes it on by exactly this time, to an instant that
it can tell. -/
def KeepsTime (s : Session) (timeout : Duration) : Prop := s.deadline timeout ≤ s.lastInstant

instance (s : Session) (timeout : Duration) : Decidable (s.KeepsTime timeout) :=
  inferInstanceAs (Decidable (_ ≤ _))

/-- How many passes after the first a wait needs at most. -/
def passes (s : Session) (timeout : Duration) : Nat :=
  timeout.nanos / (Duration.ofMillis (max s.settings.pollInterval 1)).nanos + 1

/-- Makes passes for a time, and records the action; without a result the session panicked. -/
def waitFor {α : Type} (action : Action) (timeout : Duration)
    (pass : Session → Pass α × Session) (s : Session) : Option (Except Fault α) × Session :=
  if s.KeepsTime timeout then
    let r := poll pass (s.deadline timeout) (s.passes timeout) s
    (some r.1, r.2.log action s.clock r.1)
  else (none, { s with panicked := true })

/-- One pass of a wait for a page. -/
def existencePass (clear : InterruptionCheck) (n : Nat) (timeout : Duration) (s : Session) :
    Pass PageCheck × Session :=
  let (_, s) := clear s
  let (answer, s) := s.check n
  match answer with
  | .error f => (.finished (.error f), s)
  | .ok c =>
    if c.isExisting then (.finished (.ok c), s)
    else (.unfinished (.pageMissing (s.page n).name timeout c.missing), s)

/-- The time that a wait may take: the settings say how long if the test does not. -/
def timeLimit (s : Session) (timeout : Option Duration) : Duration :=
  timeout.getD (.ofMillis s.settings.waitTimeout)

/-- Waits until a page is there. -/
def waitForExistence (clear : InterruptionCheck) (n : Nat) (timeout : Option Duration)
    (s : Session) : Option (Except Fault PageCheck) × Session :=
  let timeout := s.timeLimit timeout
  s.waitFor (.waitForExistence (s.page n).name timeout.logged) timeout
    (existencePass clear n timeout)

/-- One pass of a wait for an element that can be tapped.  An element that the pass does not
find is not hittable yet. -/
def hittablePass (clear : InterruptionCheck) (e : Element) (timeout : Duration) (s : Session) :
    Pass Unit × Session :=
  let (_, s) := clear s
  let (found, s) := s.locate e
  let again : Pass Unit := .unfinished (.notHittable e.text timeout)
  match found with
  | .ok q =>
    let (answer, s) := s.call fun d => d.isHittable q
    match answer with
    | .ok true => (.finished (.ok ()), s)
    | .ok false => (again, s)
    | .error f => (.finished (.error f), s)
  | .error (.unresolved _ _) => (again, s)
  | .error f => (.finished (.error f), s)

/-- Waits until an element can be tapped. -/
def waitUntilHittable (clear : InterruptionCheck) (e : Element) (timeout : Option Duration)
    (s : Session) : Option (Except Fault Unit) × Session :=
  let timeout := s.timeLimit timeout
  s.waitFor (.waitUntilHittable e.text timeout.logged) timeout (hittablePass clear e timeout)

end ScreenPages.Session
