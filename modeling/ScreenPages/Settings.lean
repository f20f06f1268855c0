import ScreenPages.Json.Record
import ScreenPages.Text.Stored

/-!
# Settings

How long a session waits and how often it looks while it does, and whether it declines system
alerts by itself.  Settings are kept in a file as JSON; each setting that the file leaves out
has its default, and a file that cannot be read means the defaults.

## Main definitions

* `Settings` — the settings with their defaults.
* `Settings.ofText`, `Settings.ofBytes`, `Settings.load` — strict reading of a text and of
  bytes, and reading with the fallback.
* `Settings.saved` — the content of the file.
-/

namespace ScreenPages

open Json

/-- The settings of a session; times are in milliseconds. -/
structure Settings where
  /-- How long to wait for a page to exist or an element to become hittable. -/
  waitTimeout : Nat := 10000
  /-- The time between two passes of a wait. -/
  pollInterval : Nat := 1000
  /-- How long to wait for the frame of an element to settle before a tap. -/
  stableTimeout : Nat := 2000
  /-- The time between two looks at a frame. -/
  stablePollInterval : Nat := 100
  /-- Whether system alerts are declined. -/
  defaultMonitors : Bool := true
  /-- The label of the button that declines a permission. -/
  permissionDenyLabel : String := "Don’t Allow"
  deriving DecidableEq, Repr, Inhabited

namespace Settings

/-- The directory of the settings file, below the home directory. -/
def directory : String := ".pagewright"

/-- The settings while they are read. -/
structure Draft where
  waitTimeout : Option Nat := none
  pollInterval : Option Nat := none
  stableTimeout : Option Nat := none
  stablePollInterval : Option Nat := none
  defaultMonitors : Option Bool := none
  permissionDenyLabel : Option String := none

/-- The fields of the settings file; any of them may be left out. -/
def fields : List (RecordField Draft) :=
  [ .of "wait_timeout_ms" Draft.waitTimeout (fun a s => { s with waitTimeout := some a })
      (.natural "u64") .anywhere,
    .of "poll_interval_ms" Draft.pollInterval (fun a s => { s with pollInterval := some a })
      (.natural "u64") .anywhere,
    .of "stable_timeout_ms" Draft.stableTimeout (fun a s => { s with stableTimeout := some a })
      (.natural "u64") .anywhere,
    .of "stable_poll_interval_ms" Draft.stablePollInterval
      (fun a s => { s with stablePollInterval := some a }) (.natural "u64") .anywhere,
    .of "default_monitors" Draft.defaultMonitors
      (fun a s => { s with defaultMonitors := some a }) Decoder.flag .anywhere,
    .of "permission_deny_label" Draft.permissionDenyLabel
      (fun a s => { s with permissionDenyLabel := some a }) Decoder.text .anywhere ]

/-- The settings of a draft, with the defaults for all that it leaves out. -/
def ofDraft (d : Draft) : Settings :=
  let default : Settings := {}
  { waitTimeout := d.waitTimeout.getD default.waitTimeout
    pollInterval := d.pollInterval.getD default.pollInterval
    stableTimeout := d.stableTimeout.getD default.stableTimeout
    stablePollInterval := d.stablePollInterval.getD default.stablePollInterval
    defaultMonitors := d.defaultMonitors.getD default.defaultMonitors
    permissionDenyLabel := d.permissionDenyLabel.getD default.permissionDenyLabel }

/-- Reads settings. -/
def decoder : Decoder Settings := fun limit d => do
  return ofDraft (← Decoder.record "struct PagewrightConfig" fields false {} limit d)

/-- Reads the text of a settings file. -/
def ofText (s : String) : Except Fault Settings := Decoder.run decoder s

/-- Reads the bytes of a settings file, which may not all be those of characters. -/
def ofBytes (bytes : ByteArray) : Except Fault Settings := Decoder.runBytes decoder bytes

/-- The settings from a file, the defaults if it cannot be read. -/
def load (file : Text.File) : Settings :=
  match Text.stored file with
  | .error _ => {}
  | .ok s => (ofText s).toOption.getD {}

/-- Settings in JSON, in their declared order. -/
def json (s : Settings) : Value :=
  .object [("wait_timeout_ms", .ofNat s.waitTimeout), ("poll_interval_ms", .ofNat s.pollInterval),
    ("stable_timeout_ms", .ofNat s.stableTimeout),
    ("stable_poll_interval_ms", .ofNat s.stablePollInterval),
    ("default_monitors", .flag s.defaultMonitors),
    ("permission_deny_label", .text s.permissionDenyLabel)]

/-- The content of the settings file. -/
def saved (s : Settings) : String := s.json.pretty

end Settings

end ScreenPages
