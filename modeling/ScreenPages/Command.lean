import ScreenPages.Action
import ScreenPages.Device
import ScreenPages.Element
import ScreenPages.Variable

/-!
# Commands

A script tells a session what to do by **commands**: what to look for, wait for and touch,
what happens to the screens meanwhile, and which monitors watch for interruptions.  The
handler of a monitor is a list of commands itself.

## Main definitions

* `Command` — what a session can be told.
* `Handler` — what a monitor does when its page shows up.
-/

namespace ScreenPages

/-- What a session can be told; pages are given by number, times in milliseconds. -/
inductive Command where
  | check (page : Nat) : Command
  | pageExists (page : Nat) : Command
  | waitForExistence (page : Nat) (timeout : Option Nat) : Command
  | tap (element : Element) : Command
  | tapAny (element : Element) : Command
  | typeText (element : Element) (text : String) : Command
  | scroll (element : Element) (dx dy : Float) : Command
  | isHittable (element : Element) : Command
  | waitUntilHittable (element : Element) (timeout : Option Nat) : Command
  /-- Gives an application a screen, or takes it away. -/
  | setScreen (application : Option String) (screen : Option Node) : Command
  /-- Does so as soon as the session sleeps past a time. -/
  | schedule (time : Nat) (application : Option String) (screen : Option Node) : Command
  | onTap (rules : List Device.TapRule) : Command
  | makeFail (service : Device.Service) (failure : Device.Failure) : Command
  /-- Adds a monitor under a name. -/
  | addMonitor (name : String) (page : Nat) (handler : List Command) : Command
  /-- Removes the monitor that was last added under a name. -/
  | removeMonitor (name : String) : Command
  | installDefaultMonitors (deny : String) : Command
  | checkInterruptions : Command
  | monitors : Command
  | cached (element : Element) : Command
  | clearCache : Command
  /-- Makes another set of elements the current one of a page. -/
  | setBody (page body : Nat) : Command
  | read (v : Variable) : Command
  | settings : Command
  | log : Command
  /-- Adds an entry to the log a number of times. -/
  | logAction (entry : LogEntry) (count : Nat) : Command
  | calls : Command
  /-- Calls the device directly. -/
  | callDevice (call : Device.Call) : Command
  deriving Repr, Inhabited

/-- What a monitor does when its page shows up. -/
inductive Handler where
  /-- Taps a button. -/
  | tap (button : Element) : Handler
  | script (commands : List Command) : Handler
  deriving Repr, Inhabited

end ScreenPages
