import ScreenPages.Session.Wait

/-!
# Running commands

What each command does to a session and what it answers.  Commands that act on the screen
are given the check for interruptions that goes before them.

## Main definitions

* `Session.run` — runs a command.
* `Session.runHandler` — runs the handler of a monitor.
* `Session.addMonitor`, `Session.installDefaultMonitors` — adding monitors.
-/

namespace ScreenPages.Session

variable [Template.Engine]

/-! ### Monitors -/

/-- Adds a monitor for a page. -/
def addMonitor (n : Nat) (handler : Handler) (s : Session) : Nat × Session :=
  let id := s.monitorsAdded
  (id, { s with monitors := ⟨id, n, handler⟩ :: s.monitors, monitorsAdded := id + 1 })

/-- Adds a monitor that declines an alert. -/
def addAlertMonitor (build : Nat → SystemAlert) (s : Session) : Nat × Session :=
  let alert := build s.nextIdentity
  let s := { s with nextIdentity := s.nextIdentity + SystemAlert.identities }
  let (n, s) := s.addPage alert.page
  s.addMonitor n (.tap alert.disallow)

/-- Adds the monitors that decline system alerts, first for any alert and then for those that
ask for a permission, so that these are looked for first. -/
def installDefaultMonitors (deny : String) (s : Session) : List Nat × Session :=
  let (first, s) := s.addAlertMonitor (SystemAlert.any none)
  let (second, s) := s.addAlertMonitor (SystemAlert.permission deny none)
  ([first, second], s)

/-- Removes a monitor; answers whether it was there. -/
def removeMonitor (id : Nat) (s : Session) : Bool × Session :=
  (s.monitors.any fun m => m.id == id,
    { s with monitors := s.monitors.filter fun m => m.id != id })

/-! ### Looking at the session -/

/-- What the log looks like. -/
def logView (s : Session) : LogView :=
  ⟨s.actions.entries.length, s.actions.entries.getLast?, s.actions.entries.head?⟩

/-- What the cache holds for an element. -/
def cached (e : Element) (s : Session) : Option (String × Option Location) :=
  (s.cache.get? e.identity).map fun entry => ((s.page entry.page).name, entry.location)

/-- The number of calls, of those that were no snapshots, and the queries of the taps. -/
def callsAnswer (s : Session) : Answer :=
  let calls := s.device.calls.toList
  .calls calls.length (calls.countP fun c => c.service != .snapshot)
    (calls.filterMap fun c => match c with
      | .tap q => some q
      | _ => none)

/-! ### Commands -/

/-- The answer to an operation of the session. -/
def answer {α : Type} (f : α → Answer) (r : Except Fault α × Session) :
    Except Command.Fault Answer × Session :=
  match r with
  | (.ok a, s) => (.ok (f a), s)
  | (.error fault, s) => (.error (.session fault), s)

/-- The answer to a wait.  If the session panicked there is no answer; the test ends there, so
that nobody sees what stands for one. -/
def waitAnswer {α : Type} (f : α → Answer) (r : Option (Except Fault α) × Session) :
    Except Command.Fault Answer × Session :=
  match r with
  | (some result, s) => answer f (result, s)
  | (none, s) => (.ok .done, s)

/-- The answer to a direct call of the device. -/
def deviceAnswer {α : Type} (f : α → Answer) (s : Session)
    (r : Except Device.Fault α × Device) : Except Command.Fault Answer × Session :=
  match r with
  | (.ok a, device) => (.ok (f a), { s with device })
  | (.error fault, device) => (.error (.device fault), { s with device })

/-- Calls the device directly. -/
def callDevice (s : Session) : Device.Call → Except Command.Fault Answer × Session
  | .snapshot application =>
    deviceAnswer (fun n => .count n.size) s (s.device.snapshot application)
  | .tap q => deviceAnswer (fun _ => .done) s (s.device.tap q)
  | .typeText q text => deviceAnswer (fun _ => .done) s (s.device.typeText q text)
  | .scroll q dx dy => deviceAnswer (fun _ => .done) s (s.device.scroll q dx dy)
  | .isHittable q => deviceAnswer .flag s (s.device.isHittable q)
  | .frame q => deviceAnswer .frame s (s.device.frame q)

/-- Runs a command. -/
def run (clear : InterruptionCheck) (s : Session) :
    Command → Except Command.Fault Answer × Session
  | .check n => answer .check (s.check n)
  | .pageExists n => answer (fun c => .flag c.isExisting) (s.check n)
  | .waitForExistence n timeout =>
    waitAnswer .check (s.waitForExistence clear n (timeout.map Duration.ofMillis))
  | .tap e => answer (fun _ => .done) (s.tap clear e)
  | .tapAny e => answer (fun _ => .done) (s.tapAny clear e)
  | .typeText e text => answer (fun _ => .done) (s.typeText clear e text)
  | .scroll e dx dy => answer (fun _ => .done) (s.scroll clear e dx dy)
  | .isHittable e => answer .flag (s.isHittable clear e)
  | .waitUntilHittable e timeout =>
    waitAnswer (fun _ => .done) (s.waitUntilHittable clear e (timeout.map Duration.ofMillis))
  | .setScreen application screen =>
    (.ok .done, { s with
      device := { s.device with screens := s.device.screens.put application screen } })
  | .schedule time application screen =>
    (.ok .done, { s with schedule := s.schedule ++ [(time, application, screen)] })
  | .onTap rules =>
    (.ok .done, { s with device := { s.device with hook := Device.TapRule.hook rules } })
  | .makeFail service failure =>
    (.ok .done, { s with device := s.device.makeFail service failure })
  | .addMonitor name n handler =>
    let (id, s) := s.addMonitor n (.script handler)
    (.ok (.monitor (some id)), { s with monitorNames := (name, id) :: s.monitorNames })
  | .removeMonitor name =>
    match s.monitorNames.find? fun m => m.1 == name with
    | none => (.ok (.flag false), s)
    | some (_, id) =>
      let (removed, s) := s.removeMonitor id
      (.ok (.flag removed), s)
  | .installDefaultMonitors deny =>
    let (ids, s) := s.installDefaultMonitors deny
    (.ok (.monitorIds ids), s)
  | .checkInterruptions =>
    let (id, s) := clear s
    (.ok (.monitor id), s)
  | .monitors => (.ok (.monitors (s.monitors.map fun m => (s.page m.page).name) s.checking), s)
  | .cached e => (.ok (.cached (s.cached e)), s)
  | .clearCache => (.ok .done, { s with cache := {}, emptied := s.history })
  | .setBody n body =>
    (.ok .done, { s with pages := s.pages.modify n fun p => { p with current := body } })
  | .read v => (.ok (.value (s.captured.read v) (s.captured.get? v) s.captured.size), s)
  | .settings => (.ok (.settings s.settings), s)
  | .log => (.ok (.log s.logView), s)
  | .logAction entry count =>
    let s := { s with actions := s.actions.pushTimes entry count }
    (.ok (.log s.logView), s)
  | .calls => (.ok s.callsAnswer, s)
  | .callDevice call => s.callDevice call

/-- Runs the commands of a handler in order and keeps their answers; the first fault of the
session ends it. -/
def runScript (clear : InterruptionCheck) : List Command → Session → Except Fault Unit × Session
  | [], s => (.ok (), s)
  | c :: cs, s =>
    let (r, s) := s.run clear c
    let s := { s with trace := r :: s.trace }
    match r with
    | .error (.session f) => (.error f, s)
    | _ => runScript clear cs s

/-- Runs the handler of a monitor. -/
def runHandler (clear : InterruptionCheck) (s : Session) : Handler → Except Fault Unit × Session
  | .tap button => s.tap clear button
  | .script commands => runScript clear commands s

end ScreenPages.Session
