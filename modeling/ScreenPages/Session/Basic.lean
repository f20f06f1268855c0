import ScreenPages.Cache
import ScreenPages.Captured
import ScreenPages.Command
import ScreenPages.Page
import ScreenPages.Resolution
import ScreenPages.Settings

/-!
# The state of a session

A session owns all that a test works with: the device, the clock, the pages, what it
remembers of their elements, the values it captured, the monitors that watch for
interruptions, and the log of what it did.  Behind the log, which is bounded and shows
actions only, stands the **history**: every pass over a page and every gesture, in the order
in which they happened, and how much of it had happened when the cache was last emptied.
Nothing that a session does depends on its history.

The clock stands still except when the session sleeps.  It then moves on at once, and after
that the changes of screens that are due are made in the order in which they were scheduled.
There is a last instant that the clock can tell.  Who asks for one after it makes the session
panic, and the test ends there.

## Main definitions

* `Session` — the state.
* `Session.Event` — an entry of the history, `Session.Survey` or `Session.Touch`.
* `Session.Fault` — the ways an operation fails.
* `ActionLog` — the log, which forgets its oldest entries.
* `Session.instant`, `Session.deadline` — the time, and the end of a time from now on.
* `Session.sleep`, `Session.log` — moving the clock, and recording an action.
* `Session.touch` — making a gesture.
-/

namespace ScreenPages

/-- The log of a session: it keeps its last entries, newest first, and counts all. -/
structure ActionLog where
  entries : List LogEntry := []
  total : Nat := 0
  deriving Repr, Inhabited

namespace ActionLog

/-- How many entries a log keeps. -/
def capacity : Nat := 1000

/-- Adds an entry; a full log forgets its oldest. -/
def push (l : ActionLog) (e : LogEntry) : ActionLog :=
  ⟨(e :: l.entries).take capacity, l.total + 1⟩

/-- Adds an entry a number of times. -/
def pushTimes (l : ActionLog) (e : LogEntry) : Nat → ActionLog
  | 0 => l
  | n + 1 => (l.push e).pushTimes e n

/-- The entries that were added since there were `total`, oldest first, as far as they are
kept. -/
def since (l : ActionLog) (total : Nat) : List LogEntry :=
  (l.entries.take (l.total - total)).reverse

/-- A log never keeps more than its capacity. -/
theorem length_push_le (l : ActionLog) (e : LogEntry) :
    (l.push e).entries.length ≤ capacity := by
  simp only [push, List.length_take]
  exact Nat.min_le_left ..

end ActionLog

/-- The ways an operation of a session fails; elements are given by their texts. -/
inductive Session.Fault where
  /-- A template of the page is faulty. -/
  | template (a : Template.Ambiguity) : Session.Fault
  /-- The page was not there before the time was up. -/
  | pageMissing (page : String) (timeout : Duration) (missing : List Element) : Session.Fault
  /-- The page of the element was not checked before. -/
  | notChecked (element : String) : Session.Fault
  /-- The last pass over the page did not find the element. -/
  | unresolved (element page : String) : Session.Fault
  /-- The element was made from a screen. -/
  | dynamicElement (element : String) : Session.Fault
  /-- The element could not be tapped before the time was up. -/
  | notHittable (element : String) (timeout : Duration) : Session.Fault
  | device (f : Device.Fault) : Session.Fault
  deriving Repr, Inhabited

namespace Session.Fault

/-- The line for a missing element.  Declared elements have a place of declaration, for which
a stand-in is written. -/
def missingLine (e : Element) : String :=
  "\n⛔️ missing element " ++ e.text ++ (if e.isDynamic then "" else ", defined at <site>")

/-- The wording of a fault. -/
def message : Fault → String
  | template a => "Invalid pattern: " ++ a.message
  | pageMissing page timeout missing =>
    "Page " ++ page ++ " didn't exist after " ++ timeout.seconds ++ "s"
      ++ String.join (missing.map missingLine)
  | notChecked element => element ++ " was used before its page was checked"
  | unresolved element page => element ++ " could not be resolved on page " ++ page
  | dynamicElement element =>
    element ++ " was generated from a live tree and cannot be interacted with"
  | notHittable element timeout =>
    element ++ " did not become hittable after " ++ timeout.seconds ++ "s"
  | device f => "Driver error: " ++ f.message

end Session.Fault

/-- What a check of a page found. -/
structure PageCheck where
  /-- The elements at the top that are missing, in declared order. -/
  missing : List Element
  /-- The page that the screen shows, none if there was no screen. -/
  actual : Option (List Element)
  deriving Repr, Inhabited

/-- Whether the page is there. -/
def PageCheck.isExisting (c : PageCheck) : Bool := c.missing.isEmpty

/-- What a log looks like: its length, its oldest and its newest entry. -/
structure LogView where
  length : Nat
  first : Option LogEntry
  last : Option LogEntry
  deriving Repr, Inhabited

/-- What a command answers. -/
inductive Answer where
  | done : Answer
  | flag (b : Bool) : Answer
  | check (c : PageCheck) : Answer
  | monitor (id : Option Nat) : Answer
  | monitorIds (ids : List Nat) : Answer
  /-- The names of the monitored pages, and whether a check is running. -/
  | monitors (names : List String) (checking : Bool) : Answer
  /-- The name of the page and the location an element has in the cache. -/
  | cached (entry : Option (String × Option Location)) : Answer
  /-- What is read for a variable, its value if it has one, and the number of values. -/
  | value (read : String) (value : Option String) (size : Nat) : Answer
  | settings (s : Settings) : Answer
  | log (v : LogView) : Answer
  /-- The number of calls, of those that were no snapshots, and the queries of the taps. -/
  | calls (count actions : Nat) (taps : List Query) : Answer
  | count (n : Nat) : Answer
  | frame (f : Option Frame) : Answer
  deriving Repr, Inhabited

/-- How a command fails: in the session, or in a direct call to the device. -/
inductive Command.Fault where
  | session (f : Session.Fault) : Command.Fault
  | device (f : Device.Fault) : Command.Fault
  deriving Repr, Inhabited

/-- A page that may interrupt a test, and what is done about it. -/
structure Monitor where
  id : Nat
  /-- The number of the page. -/
  page : Nat
  handler : Handler
  deriving Repr, Inhabited

/-- A pass over a page. -/
structure Session.Survey where
  /-- The number of the page. -/
  page : Nat
  application : Option String
  /-- The elements that the page had when the pass looked at it. -/
  body : List Element
  /-- The screen that the device gave, if it gave one. -/
  screen : Option Node
  found : Resolution
  deriving Inhabited

/-- A gesture made for an element. -/
structure Session.Touch where
  /-- The action that the gesture is part of. -/
  action : Action
  element : Element
  query : Query
  gesture : Device.Gesture
  /-- The device as it was when the gesture was made. -/
  device : Device
  deriving Inhabited

/-- An entry of the history. -/
inductive Session.Event where
  | survey (v : Survey) : Session.Event
  | touch (t : Touch) : Session.Event
  deriving Inhabited

/-- All that a test works with. -/
structure Session where
  settings : Settings := {}
  device : Device := {}
  /-- The time in milliseconds. -/
  clock : Nat := 0
  /-- The last instant that the clock can tell, in nanoseconds. -/
  lastInstant : Nat := 9223372036854775807999999999
  /-- The changes of screens to come, in the order in which they were scheduled. -/
  schedule : List (Nat × Option String × Option Node) := []
  /-- The pages by number. -/
  pages : List Page := []
  cache : Cache := {}
  captured : Captured := {}
  /-- The monitors, the one added last in front. -/
  monitors : List Monitor := []
  /-- The number of monitors ever added. -/
  monitorsAdded : Nat := 0
  /-- The names under which monitors were added, the last in front. -/
  monitorNames : List (String × Nat) := []
  /-- Whether a check for interruptions is running. -/
  checking : Bool := false
  actions : ActionLog := {}
  /-- The next identity for a declared element. -/
  nextIdentity : Nat := 1
  /-- What the commands of handlers answered, the last in front. -/
  trace : List (Except Command.Fault Answer) := []
  /-- The passes and gestures that were made, the last in front. -/
  history : List Session.Event := []
  /-- The history as it was when the cache was last emptied. -/
  emptied : List Session.Event := []
  /-- Whether the session has panicked. -/
  panicked : Bool := false
  deriving Inhabited

namespace Session

/-- The page with a number. -/
def page (s : Session) (n : Nat) : Page := s.pages.getD n default

/-- Adds a page; its number is the number of pages before. -/
def addPage (s : Session) (p : Page) : Nat × Session :=
  (s.pages.length, { s with pages := s.pages ++ [p] })

/-- Looks at the elements of a page, some of which may be declared anew for it. -/
def lookAt (s : Session) (n : Nat) : List Element × Session :=
  let body := (s.page n).body
  (body.lookAt s.nextIdentity, { s with nextIdentity := s.nextIdentity + body.renewed.length })

/-- Makes the scheduled changes that are due, and keeps the others. -/
def makeDueChanges (s : Session) : Session :=
  let (due, later) := s.schedule.partition fun c => c.1 ≤ s.clock
  { s with
    schedule := later
    device := { s.device with
      screens := due.foldl (fun ss c => ss.put c.2.1 c.2.2) s.device.screens } }

/-- The time as an instant, in nanoseconds. -/
def instant (s : Session) : Nat := (Duration.ofMillis s.clock).nanos

/-- The instant at which a time from now on is over. -/
def deadline (s : Session) (timeout : Duration) : Nat := s.instant + timeout.nanos

/-- Sleeps for a time. -/
def sleep (s : Session) (ms : Nat) : Session :=
  ({ s with clock := s.clock + ms } : Session).makeDueChanges

/-- Records an action that began at `start` and ends now; its duration is kept modulo
`LogEntry.durationModulus`. -/
def log {α : Type} (s : Session) (action : Action) (start : Nat) (result : Except Fault α) :
    Session :=
  let outcome : Outcome := match result with
    | .ok _ => .success
    | .error f => .failure f.message
  let duration := (s.clock - start) % LogEntry.durationModulus
  { s with actions := s.actions.push ⟨action, outcome, some duration⟩ }

/-- A call to the device, whose faults are faults of the session. -/
def call {α : Type} (s : Session) (act : Device → Except Device.Fault α × Device) :
    Except Fault α × Session :=
  let (answer, device) := act s.device
  (answer.mapError .device, { s with device })

/-- Makes a gesture for an element as part of an action. -/
def touch (action : Action) (e : Element) (g : Device.Gesture) (q : Query) (s : Session) :
    Except Fault Unit × Session :=
  let (result, t) := s.call fun d => d.perform q g
  (result, { t with history := .touch ⟨action, e, q, g, s.device⟩ :: t.history })

end Session

end ScreenPages
