import ScreenPages.Snapshot
import ScreenPages.Text.Stored

/-!
# Devices

A **device** holds the screens of running applications and receives calls: it is asked for
the screen of an application, for the frame of a node or whether it can be tapped, and it
performs gestures on nodes.  Nodes are given by queries and found again on the screen as it
is at that moment.  A device keeps a record of the calls that reached it.  Calls of a kind
can be made to fail before they reach it, and a hook says how taps change the screens.  They
may also change by themselves between two calls, whatever the device is used for.  Beside the
record stands another one of all calls that were made, whatever became of them; nothing that a
device does depends on it.

## Main definitions

* `Device.Fault` — the ways a call fails.
* `Device.Call` — the calls.
* `Device.TapHook`, `Device.TapRule` — how taps change the screens, and rules for it.
* `Device.Drift` — how the screens change by themselves.
* `Device` — screens, how they change, and the record of calls.
* `Device.snapshot`, `Device.tap`, `Device.typeText`, … — what each call does.
* `Device.reached`, `Device.attempt` — the device when a call reaches it, or does not.
* `Device.Gesture`, `Device.perform` — the calls that touch a node.
-/

namespace ScreenPages

/-- The ways a call to a device fails. -/
inductive Device.Fault where
  /-- The device says why. -/
  | failed (reason : String) : Device.Fault
  | notConnected : Device.Fault
  /-- The application shows no screen. -/
  | notRunning (application : String) : Device.Fault
  /-- Nothing on the screen is what the query asks for. -/
  | notFound (query : String) : Device.Fault
  | timeout : Device.Fault
  | io (reason : String) : Device.Fault
  | badDump (reason : String) : Device.Fault
  deriving DecidableEq, Repr, Inhabited

/-- The wording of a fault. -/
def Device.Fault.message : Device.Fault → String
  | failed reason => "Command failed: " ++ reason
  | notConnected => "Not connected to automation backend"
  | notRunning application => "Application not running: " ++ application
  | notFound query => "Element not found: " ++ query
  | timeout => "Operation timed out"
  | io reason => "IO error: " ++ reason
  | badDump reason => "JSON parse error: " ++ reason

/-- Reads the dump of a screen. -/
def Node.ofDump (s : String) : Except Device.Fault Node :=
  (Json.Decoder.run Node.decoder s).mapError fun fault => .badDump fault.message

/-- Reads the dump of a screen from a file. -/
def Node.ofFile (file : Text.File) : Except Device.Fault Node :=
  match Text.stored file with
  | .error reason => .error (.io reason)
  | .ok s => Node.ofDump s

namespace Device

/-- What a device can be called for. -/
inductive Service where
  | snapshot | tap | typeText | scroll | isHittable | frame
  deriving DecidableEq, Repr, Inhabited

/-- A call to a device. -/
inductive Call where
  | snapshot (application : Option String) : Call
  | tap (query : Query) : Call
  | typeText (query : Query) (text : String) : Call
  | scroll (query : Query) (dx dy : Float) : Call
  | isHittable (query : Query) : Call
  | frame (query : Query) : Call
  deriving Repr, Inhabited

/-- What a call is for. -/
def Call.service : Call → Service
  | snapshot _ => .snapshot
  | tap _ => .tap
  | typeText _ _ => .typeText
  | scroll _ _ _ => .scroll
  | isHittable _ => .isHittable
  | frame _ => .frame

/-- The query a call is addressed to, if it is addressed to a node. -/
def Call.query? : Call → Option Query
  | snapshot _ => none
  | tap q | typeText q _ | scroll q _ _ | isHittable q | frame q => some q

/-- The application a call is addressed to. -/
def Call.application : Call → Option String
  | snapshot application => application
  | tap q | typeText q _ | scroll q _ _ | isHittable q | frame q => q.application

/-- The screens of applications; the application under test has no identifier. -/
abbrev Screens := List (Option String × Node)

namespace Screens

/-- The screen of an application. -/
def get? (ss : Screens) (application : Option String) : Option Node :=
  (ss.find? fun s => s.1 == application).map Prod.snd

/-- Takes the screen of an application away. -/
def erase (ss : Screens) (application : Option String) : Screens :=
  ss.filter fun s => s.1 != application

/-- Gives an application a screen, or takes it away. -/
def put (ss : Screens) (application : Option String) : Option Node → Screens
  | none => ss.erase application
  | some tree => (application, tree) :: ss.erase application

/-- Takes the nodes with an identifier from the children of the root of a screen. -/
def dropChildren (ss : Screens) (application : Option String) (identifier : String) : Screens :=
  ss.map fun s =>
    if s.1 == application then
      (s.1, { s.2 with
        children := s.2.children.filter fun n => n.step.identifier != identifier })
    else s

end Screens

/-- What becomes of the screens when the node of a query was tapped. -/
abbrev TapHook := Query → Screens → Screens

/-- One way in which a tap changes the screens. -/
structure TapRule where
  /-- The application the tap has to be in, if the rule says so. -/
  application : Option String
  /-- The label of the tapped node, if the rule says so. -/
  label : Option String
  /-- The identifier of the tapped node, if the rule says so. -/
  identifier : Option String
  /-- An application and its screen from then on. -/
  put : Option (Option String × Option Node)
  /-- An application and the identifier of the nodes that go away below its root. -/
  drop : Option (Option String × String)
  deriving Repr, Inhabited

namespace TapRule

/-- Whether a wish is fulfilled; no wish always is. -/
def fits (wish found : Option String) : Bool := wish.isNone || wish == found

/-- Whether a rule is about the tapped node. -/
def applies (r : TapRule) (q : Query) : Bool :=
  let target := q.path.getLast?
  fits r.application q.application && fits r.label (target.map Step.label)
    && fits r.identifier (target.map Step.identifier)

/-- The screens after a rule. -/
def apply (r : TapRule) (q : Query) (ss : Screens) : Screens :=
  if r.applies q then
    let ss := match r.put with
      | none => ss
      | some (application, tree) => ss.put application tree
    match r.drop with
    | none => ss
    | some (application, identifier) => ss.dropChildren application identifier
  else ss

/-- The hook that applies some rules in order. -/
def hook (rules : List TapRule) : TapHook := fun q ss => rules.foldl (fun ss r => r.apply q ss) ss

end TapRule

/-- What becomes of the screens by themselves before a call, given the number of calls that
came before it. -/
abbrev Drift := Nat → Screens → Screens

/-- How often calls of a kind fail, always if no number is given, and with which fault. -/
structure Failure where
  fault : Fault
  times : Option Nat
  deriving Repr, Inhabited

end Device

/-- The screens of running applications, and what goes with them. -/
structure Device where
  screens : Device.Screens := []
  /-- What a tap that was performed does to the screens. -/
  hook : Device.TapHook := fun _ screens => screens
  /-- What the screens do by themselves. -/
  drift : Device.Drift := fun _ screens => screens
  /-- The calls that reached the device, oldest first. -/
  calls : Array Device.Call := #[]
  /-- The calls that were made, also those that did not reach the device, oldest first. -/
  attempts : Array Device.Call := #[]
  /-- The kinds of calls that are made to fail. -/
  failures : List (Device.Service × Device.Failure) := []
  /-- Whether the device knows the frames of nodes. -/
  reportsFrames : Bool := true
  deriving Inhabited

namespace Device

/-! ### Failing calls -/

/-- Makes the next calls of a kind fail. -/
def makeFail (d : Device) (k : Service) (f : Failure) : Device :=
  { d with failures := (k, f) :: d.failures.filter fun g => g.1 != k }

/-- The fault that awaits a call of a kind, and the device when the call has met it. -/
def nextFailure (d : Device) (k : Service) : Option (Fault × Device) :=
  match d.failures.find? fun f => f.1 == k with
  | none => none
  | some (_, ⟨fault, none⟩) => some (fault, d)
  | some (_, ⟨_, some 0⟩) => none
  | some (_, ⟨fault, some (n + 1)⟩) => some (fault, d.makeFail k ⟨fault, some n⟩)

/-- The device when a call reaches it. -/
def reached (d : Device) (c : Call) : Device :=
  { d with
    screens := d.drift d.calls.size d.screens
    calls := d.calls.push c
    attempts := d.attempts.push c }

/-- The device when a call was made that does not reach it. -/
def attempt (d : Device) (c : Call) : Device := { d with attempts := d.attempts.push c }

/-- Makes a call: it meets the fault that awaits its kind, or reaches the device. -/
def receive {α : Type} (d : Device) (c : Call) (act : Device → Except Fault α × Device) :
    Except Fault α × Device :=
  match d.nextFailure c.service with
  | some (fault, d) => (.error fault, d.attempt c)
  | none => act (d.reached c)

/-! ### Calls -/

/-- The fault of an application without a screen. -/
def notRunning (application : Option String) : Fault :=
  .notRunning (application.getD "application under test")

/-- The entry a query asks for on the screen as it is. -/
def find (d : Device) (q : Query) : Except Fault Snapshot.Entry :=
  match d.screens.get? q.application with
  | none => .error (notRunning q.application)
  | some tree =>
    let s := Snapshot.ofTree tree
    match (s.locate q.location).bind s.entry? with
    | none => .error (.notFound q.text)
    | some e => .ok e

/-- The screen of an application. -/
def snapshot (d : Device) (application : Option String) : Except Fault Node × Device :=
  d.receive (.snapshot application) fun d =>
    match d.screens.get? application with
    | none => (.error (notRunning application), d)
    | some tree => (.ok tree, d)

/-- Taps a node; if it is found, the hook changes the screens. -/
def tap (d : Device) (q : Query) : Except Fault Unit × Device :=
  d.receive (.tap q) fun d =>
    match d.find q with
    | .error fault => (.error fault, d)
    | .ok _ => (.ok (), { d with screens := d.hook q d.screens })

/-- Types into a node. -/
def typeText (d : Device) (q : Query) (text : String) : Except Fault Unit × Device :=
  d.receive (.typeText q text) fun d => ((d.find q).map fun _ => (), d)

/-- Scrolls a node by a vector. -/
def scroll (d : Device) (q : Query) (dx dy : Float) : Except Fault Unit × Device :=
  d.receive (.scroll q dx dy) fun d => ((d.find q).map fun _ => (), d)

/-- A call that touches a node. -/
inductive Gesture where
  | tap : Gesture
  | typeText (text : String) : Gesture
  | scroll (dx dy : Float) : Gesture
  deriving Repr, Inhabited

/-- The call that a gesture on a node is. -/
def Gesture.call (q : Query) : Gesture → Call
  | .tap => .tap q
  | .typeText text => .typeText q text
  | .scroll dx dy => .scroll q dx dy

/-- Performs a gesture on a node. -/
def perform (d : Device) (q : Query) : Gesture → Except Fault Unit × Device
  | .tap => d.tap q
  | .typeText text => d.typeText q text
  | .scroll dx dy => d.scroll q dx dy

/-- Whether a node can be tapped: it can unless the screen denies it. -/
def isHittable (d : Device) (q : Query) : Except Fault Bool × Device :=
  d.receive (.isHittable q) fun d => ((d.find q).map fun e => e.hittable.getD true, d)

/-- The frame of a node, if there is one.  A device that knows no frames is not even asked. -/
def frame (d : Device) (q : Query) : Except Fault (Option Frame) × Device :=
  if d.reportsFrames then d.receive (.frame q) fun d => ((d.find q).map Snapshot.Entry.frame, d)
  else (.ok none, d.attempt (.frame q))

/-! ### The calls that were made -/

/-- A failure that a call meets is none of the calls. -/
theorem attempts_of_nextFailure {d d' : Device} {k : Service} {fault : Fault}
    (h : d.nextFailure k = some (fault, d')) : d'.attempts = d.attempts := by
  rw [nextFailure] at h
  split at h
  · cases h
  · cases h; rfl
  · cases h
  · cases h; rfl

/-- **A call that is made is recorded, whether it reaches the device or not.** -/
theorem attempts_receive {α : Type} (d : Device) (c : Call)
    (act : Device → Except Fault α × Device) (h : ∀ d, (act d).2.attempts = d.attempts) :
    (d.receive c act).2.attempts = d.attempts.push c := by
  rw [receive]
  cases hfailure : d.nextFailure c.service with
  | none => exact h _
  | some failure => simp [attempt, attempts_of_nextFailure hfailure]

@[simp] theorem attempts_snapshot (d : Device) (application : Option String) :
    (d.snapshot application).2.attempts = d.attempts.push (.snapshot application) := by
  refine d.attempts_receive _ _ ?_
  intro d
  split <;> rfl

@[simp] theorem attempts_perform (d : Device) (q : Query) (g : Gesture) :
    (d.perform q g).2.attempts = d.attempts.push (g.call q) := by
  cases g with
  | tap =>
    refine d.attempts_receive _ _ ?_
    intro d
    split <;> rfl
  | typeText text => exact d.attempts_receive _ _ fun _ => rfl
  | scroll dx dy => exact d.attempts_receive _ _ fun _ => rfl

@[simp] theorem attempts_frame (d : Device) (q : Query) :
    (d.frame q).2.attempts = d.attempts.push (.frame q) := by
  rw [frame]
  split
  · exact d.attempts_receive _ _ fun _ => rfl
  · rfl

end Device

end ScreenPages
