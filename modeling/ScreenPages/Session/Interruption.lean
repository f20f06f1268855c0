import ScreenPages.Session.Script

/-!
# Interruptions

A check for interruptions looks for the pages of the monitors, the one added last first, and
runs the handler of the first whose page is there.  A page that is not there or whose
templates are faulty is passed over.  While a check is running no other is made: what a
handler does is not interrupted in turn.

## Main definitions

* `Session.firstShown` — the first monitor whose page is there.
* `Session.interruptions` — a check for interruptions.
* `Session.execute`, `Report` — one command of a test, and all that can be seen of it.
* `Session.startUntil`, `Session.start` — a session at its beginning.
-/

namespace ScreenPages

/-- What can be seen of a command of a test. -/
structure Report where
  result : Except Command.Fault Answer
  /-- The calls that reached the device. -/
  calls : List Device.Call
  /-- The entries added to the log. -/
  entries : List LogEntry
  /-- The time afterwards. -/
  clock : Nat
  /-- The number of cache entries afterwards. -/
  cacheSize : Nat
  /-- What the commands of handlers answered. -/
  trace : List (Except Command.Fault Answer)
  deriving Repr, Inhabited

namespace Session

variable [Template.Engine]

/-- The first of some monitors whose page is there. -/
def firstShown : List Monitor → Session → Option Monitor × Session
  | [], s => (none, s)
  | m :: ms, s =>
    let (r, s) := s.check m.page
    match r with
    | .ok c => if c.isExisting then (some m, s) else firstShown ms s
    | .error _ => firstShown ms s

/-- A check for interruptions, unless one is running.  Handlers make checks of a lower level;
none of them gets past the running check, so the level is never used up. -/
def interruptions : Nat → InterruptionCheck
  | 0, s => (none, s)
  | level + 1, s =>
    if s.checking then (none, s)
    else
      let (shown, s) := firstShown s.monitors { s with checking := true }
      match shown with
      | none => (none, { s with checking := false })
      | some m =>
        let start := s.clock
        let (result, s) := s.runHandler (interruptions level) m.handler
        let s := s.log (.handleInterruption (s.page m.page).name) start result
        (some m.id, { s with checking := false })

/-- The check for interruptions that goes before the commands of a test. -/
def clear : InterruptionCheck := interruptions 2

/-- Runs a command of a test and reports on it. -/
def execute (s : Session) (c : Command) : Report × Session :=
  let (result, t) := ({ s with trace := [] } : Session).run clear c
  ({ result
     calls := t.device.calls.toList.drop s.device.calls.size
     entries := t.actions.since s.actions.total
     clock := t.clock
     cacheSize := t.cache.size
     trace := t.trace.reverse }, t)

/-- Runs the commands of a test in order.  If the session panics, the test ends without a report
on the command that was running. -/
def executeAll : Session → List Command → List Report × Session
  | s, [] => ([], s)
  | s, c :: cs =>
    let (report, t) := s.execute c
    if t.panicked then ([], t)
    else
      let (reports, u) := t.executeAll cs
      (report :: reports, u)

/-- A session at its beginning, on a clock with the given last instant; the settings say whether
system alerts are declined. -/
def startUntil (lastInstant : Nat) (settings : Settings) (device : Device) (pages : List Page)
    (nextIdentity : Nat) : Session :=
  let s : Session := { settings, device, pages, nextIdentity, lastInstant }
  if settings.defaultMonitors then (s.installDefaultMonitors settings.permissionDenyLabel).2
  else s

/-- A session at its beginning, on a clock that counts seconds with 64 bits. -/
def start (settings : Settings) (device : Device) (pages : List Page) (nextIdentity : Nat) :
    Session :=
  startUntil ({} : Session).lastInstant settings device pages nextIdentity

end Session

end ScreenPages
