import ScreenPages.Proofs.Conduct
import ScreenPages.Proofs.Polling
import ScreenPages.Proofs.Reentrancy

/-!
# The log of a run

What a command adds to the log can be told from the command alone and from the checks for
interruptions that it makes.  An interaction makes one check, then it does what it is for, and
in the end it is recorded.  A wait makes one check in each of its rounds and is recorded once, when
it is over.  A check in which a handler runs adds what the handler adds, and then one entry for the
handler.  Nothing else is recorded, but what a test adds by itself.

So the entries of a run can be listed without a log, in the order in which the actions came to an
end.  The log is the tail of this list, since a full log forgets its oldest entry for each that is
added.  A wait that panics is not recorded, and its run ends there; what is said of runs is said of
those that no panic ends.

## Main definitions

* `ActionLog.pushAll` — adding some entries.
* `Session.entryOf` — the entry for an action.
* `Session.commandEntries`, `Session.handlerEntries` — what commands and handlers add.
* `Session.checkEntries` — what a check for interruptions adds.
* `Session.runEntries` — all entries of a run.
* `Session.Logged` — what the log tells of a run.

## Main results

* `ActionLog.reverse_entries_pushAll` — a log is the tail of what was added to it.
* `Session.actions_run` — every command adds its entries.
* `Session.chronicled_interruptions` — every check for interruptions does.
* `Session.executeAll_chronicle` — **the log of a run is the tail of its entries.**
-/

namespace ScreenPages

namespace ActionLog

variable {l : ActionLog}

/-- Adds some entries, one after the other. -/
def pushAll (l : ActionLog) (es : List LogEntry) : ActionLog := es.foldl push l

@[simp] theorem pushAll_nil (l : ActionLog) : l.pushAll [] = l := rfl

@[simp] theorem pushAll_cons (l : ActionLog) (e : LogEntry) (es : List LogEntry) :
    l.pushAll (e :: es) = (l.push e).pushAll es := rfl

theorem pushAll_append (l : ActionLog) (es fs : List LogEntry) :
    l.pushAll (es ++ fs) = (l.pushAll es).pushAll fs := List.foldl_append

/-- Adding an entry a number of times is adding that many copies. -/
theorem pushTimes_eq_pushAll (l : ActionLog) (e : LogEntry) (n : Nat) :
    l.pushTimes e n = l.pushAll (List.replicate n e) := by
  induction n generalizing l with
  | zero => rfl
  | succ n ih => rw [pushTimes, ih, List.replicate_succ, pushAll_cons]

/-- All entries are counted. -/
theorem total_pushAll (l : ActionLog) (es : List LogEntry) :
    (l.pushAll es).total = l.total + es.length := by
  induction es generalizing l with
  | nil => rfl
  | cons e es ih =>
    have hpush : (l.push e).total = l.total + 1 := rfl
    rw [pushAll_cons, ih, hpush, List.length_cons]
    omega

/-- What was forgotten stays forgotten: it makes no difference whether a list is cut before or
after others are put in front of it. -/
theorem take_append_take {α : Type} (xs ys : List α) (n : Nat) :
    (xs ++ ys.take n).take n = (xs ++ ys).take n := by
  rw [List.take_append, List.take_append, List.take_take, Nat.min_eq_left (Nat.sub_le n _)]

/-- **A log keeps the last of what is added to it.** -/
theorem entries_pushAll (h : l.entries.length ≤ capacity) (es : List LogEntry) :
    (l.pushAll es).entries = (es.reverse ++ l.entries).take capacity := by
  induction es generalizing l with
  | nil => exact (List.take_of_length_le h).symm
  | cons e es ih =>
    rw [pushAll_cons, ih (length_push_le l e), push, take_append_take, List.reverse_cons,
      List.append_assoc, List.singleton_append]

/-- **The log, oldest entry first, is the tail of what was added to it.** -/
theorem reverse_entries_pushAll (es : List LogEntry) :
    (({} : ActionLog).pushAll es).entries.reverse = es.drop (es.length - capacity) := by
  rw [entries_pushAll (Nat.zero_le _), List.append_nil, List.take_reverse, List.reverse_reverse]

end ActionLog

namespace Session

variable {α : Type} {clear : InterruptionCheck} {checked : Session → List LogEntry}
  {s t : Session}

section

variable {engine : Template.Engine}

/-! ### The entries of a run -/

/-- The entry for an action that was begun in a state, from what it came to. -/
def entryOf (action : Action) (s : Session) (r : Except Fault α × Session) : LogEntry where
  action
  outcome := match r.1 with
    | .ok _ => .success
    | .error f => .failure f.message
  duration := some ((r.2.clock - s.clock) % LogEntry.durationModulus)

section

-- what a check for interruptions adds that is made in a state
variable (clear : InterruptionCheck) (checked : Session → List LogEntry)

/-- What an interaction adds: what its check adds, and its own entry. -/
def interactionEntries [Template.Engine] (i : Interaction) (e : Element) (s : Session) :
    List LogEntry :=
  checked s ++ [entryOf (i.action e) s (i.run clear e s)]

/-- What a wait adds: what the checks of its rounds add, and its own entry; nothing if it
panics. -/
def waitEntries (action : Action) (timeout : Duration) (pass : Session → Pass α × Session)
    (s : Session) : List LogEntry :=
  match s.waitFor action timeout pass with
  | (none, _) => []
  | (some result, t) =>
    (s.waitingRounds pass timeout).flatMap checked ++ [entryOf action s (result, t)]

/-- What a command adds to the log, oldest first. -/
def commandEntries [Template.Engine] (s : Session) : Command → List LogEntry
  | .tap e => interactionEntries clear checked .tap e s
  | .tapAny e => interactionEntries clear checked .tapAny e s
  | .typeText e text => interactionEntries clear checked (.typeText text) e s
  | .scroll e dx dy => interactionEntries clear checked (.scroll dx dy) e s
  | .waitForExistence n timeout =>
    let limit := s.timeLimit (timeout.map .ofMillis)
    waitEntries checked (.waitForExistence (s.page n).name limit.logged) limit
      (existencePass clear n limit) s
  | .waitUntilHittable e timeout =>
    let limit := s.timeLimit (timeout.map .ofMillis)
    waitEntries checked (.waitUntilHittable e.text limit.logged) limit
      (hittablePass clear e limit) s
  | .isHittable _ | .checkInterruptions => checked s
  | .logAction entry count => List.replicate count entry
  | _ => []

/-- What the commands of a handler add, as many of them as are run. -/
def scriptEntries [Template.Engine] : List Command → Session → List LogEntry
  | [], _ => []
  | c :: cs, s =>
    let (r, t) := s.run clear c
    s.commandEntries clear checked c ++ match r with
      | .error (.session _) => []
      | _ => scriptEntries cs { t with trace := r :: t.trace }

/-- What the handler of a monitor adds. -/
def handlerEntries [Template.Engine] (s : Session) : Handler → List LogEntry
  | .tap button => interactionEntries clear checked .tap button s
  | .script cs => scriptEntries clear checked cs s

end

/-- What a check for interruptions adds, unless it is made within another: what the handler adds
that runs, whose own checks are idle, and then the entry for the handler. -/
def checkEntries [Template.Engine] (s : Session) : List LogEntry :=
  if s.checking then []
  else
    match firstShown s.monitors { s with checking := true } with
    | (none, _) => []
    | (some m, t) =>
      let r := t.runHandler idle m.handler
      t.handlerEntries idle (fun _ => []) m.handler
        ++ [entryOf (.handleInterruption (r.2.page m.page).name) t r]

/-- The entries of a run, oldest first. -/
def runEntries [Template.Engine] : Session → List Command → List LogEntry
  | _, [] => []
  | s, c :: cs =>
    ({ s with trace := [] } : Session).commandEntries Session.clear checkEntries c
      ++ runEntries (s.execute c).2 cs

/-! ### What is not recorded -/

theorem actions_resolve [Template.Engine] (n : Nat) (s : Session) :
    (s.resolve n).2.actions = s.actions := by
  cases hread : Expectation.ofElements (s.lookAt n).1 with
  | error a => rw [resolve_of_error hread]; rfl
  | ok xs => rw [resolve_of_ok hread]; rfl

theorem actions_check [Template.Engine] (n : Nat) (s : Session) :
    (s.check n).2.actions = s.actions :=
  actions_resolve n s

theorem actions_locate (e : Element) (s : Session) : (s.locate e).2.actions = s.actions := by
  rw [locate]
  split
  · rfl
  · split
    · rfl
    · rename_i entry _
      have hpass := actions_resolve entry.page s
      simp only
      split
      · exact hpass
      · split
        · exact hpass
        · exact hpass

theorem actions_settle (q : Query) (deadline fuel : Nat) (last : Frame) (s : Session) :
    (settle q deadline fuel last s).actions = s.actions := by
  induction fuel generalizing last s with
  | zero => rfl
  | succ fuel ih =>
    rw [settle]
    split
    · rfl
    · simp only
      split
      · split
        · rfl
        · exact ih _ _
      · rfl

theorem actions_waitUntilStable (q : Query) (s : Session) :
    (s.waitUntilStable q).actions = s.actions := by
  rw [waitUntilStable]
  simp only
  split
  · exact actions_settle q _ _ _ _
  · rfl

/-- What an interaction does with its node is not recorded by itself. -/
theorem actions_perform (i : Interaction) (e : Element) (q : Query) (s : Session) :
    (i.perform e q s).2.actions = s.actions := by
  refine (touchAll_keep (fun _ _ => rfl) i.gestures _).trans ?_
  rw [Interaction.approach]
  split
  · exact actions_waitUntilStable q s
  · rfl

/-- Looking for the pages of monitors is not recorded. -/
theorem actions_firstShown [Template.Engine] (ms : List Monitor) (s : Session) :
    (firstShown ms s).2.actions = s.actions := by
  induction ms generalizing s with
  | nil => rfl
  | cons m ms ih =>
    have hcheck := actions_check m.page s
    rw [firstShown]
    simp only
    split
    · split
      · exact hcheck
      · exact (ih _).trans hcheck
    · exact (ih _).trans hcheck

/-! ### Commands -/

/-- A check for interruptions adds what it is said to add. -/
def Chronicled (clear : InterruptionCheck) (checked : Session → List LogEntry) : Prop :=
  ∀ s, (clear s).2.actions = s.actions.pushAll (checked s)

/-- An action is recorded once, when it has come to its end. -/
theorem actions_log (action : Action) (result : Except Fault α) :
    (t.log action s.clock result).actions
      = t.actions.push (entryOf action s (result, t.log action s.clock result)) := rfl

/-- What is recorded of an action stands behind all that was added in the meantime. -/
theorem actions_log_of_pushAll {action : Action} {result : Except Fault α} {es : List LogEntry}
    (h : t.actions = s.actions.pushAll es) :
    (t.log action s.clock result).actions
      = s.actions.pushAll (es ++ [entryOf action s (result, t.log action s.clock result)]) := by
  rw [actions_log, h, ActionLog.pushAll_append]
  rfl

section

variable (hclear : Chronicled clear checked)

include hclear

/-- What is added when an element was looked for after a check for interruptions. -/
theorem actions_locate_clear [Template.Engine] (e : Element) (s : Session) :
    ((clear s).2.locate e).2.actions = s.actions.pushAll (checked s) :=
  (actions_locate e _).trans (hclear s)

theorem actions_interaction (i : Interaction) (e : Element) (s : Session) :
    (i.run clear e s).2.actions
      = s.actions.pushAll (interactionEntries clear checked i e s) := by
  have hfront := actions_locate_clear hclear e s
  rw [interactionEntries, i.run_eq_interact, interact]
  refine actions_log_of_pushAll ?_
  split
  · exact (actions_perform i e _ _).trans hfront
  · exact hfront

theorem actions_isHittable (e : Element) (s : Session) :
    (s.isHittable clear e).2.actions = s.actions.pushAll (checked s) := by
  have hfront := actions_locate_clear hclear e s
  rw [isHittable]
  simp only
  split
  · exact hfront
  · exact hfront

theorem actions_existencePass (n : Nat) (timeout : Duration) (s : Session) :
    (existencePass clear n timeout s).2.actions = s.actions.pushAll (checked s) := by
  have hcheck := (actions_check n _).trans (hclear s)
  rw [existencePass]
  simp only
  split
  · exact hcheck
  · split
    · exact hcheck
    · exact hcheck

theorem actions_hittablePass (e : Element) (timeout : Duration) (s : Session) :
    (hittablePass clear e timeout s).2.actions = s.actions.pushAll (checked s) := by
  have hfront := actions_locate_clear hclear e s
  rw [hittablePass]
  simp only
  split
  · split
    · exact hfront
    · exact hfront
    · exact hfront
  · exact hfront
  · exact hfront

omit hclear in
/-- The rounds of a wait add what their passes add, one after the other. -/
theorem actions_poll {pass : Session → Pass α × Session}
    (hpass : ∀ s, (pass s).2.actions = s.actions.pushAll (checked s)) (deadline fuel : Nat)
    (s : Session) :
    (poll pass deadline fuel s).2.actions
      = s.actions.pushAll ((rounds pass deadline fuel s).flatMap checked) := by
  induction fuel generalizing s with
  | zero =>
    have hfirst := hpass s
    rw [poll, rounds]
    cases hanswer : pass s with
    | mk answer t =>
      rw [hanswer] at hfirst
      cases answer with
      | finished result => simpa using hfirst
      | unfinished f =>
        have hlast : t.actions = s.actions.pushAll ([s].flatMap checked) := by simpa using hfirst
        simp only
        split
        · exact hlast
        · exact hlast
  | succ fuel ih =>
    have hfirst := hpass s
    rw [poll, rounds]
    cases hanswer : pass s with
    | mk answer t =>
      rw [hanswer] at hfirst
      cases answer with
      | finished result => simpa using hfirst
      | unfinished f =>
        simp only
        by_cases hlate : deadline ≤ t.instant
        · rw [if_pos hlate, if_pos hlate]
          simpa using hfirst
        · -- the sleep before the next round adds nothing
          have hsleep : (t.sleep t.settings.pollInterval).actions = t.actions := rfl
          rw [if_neg hlate, if_neg hlate, ih, hsleep, hfirst, List.flatMap_cons,
            ActionLog.pushAll_append]

omit hclear in
/-- A wait is recorded once, behind what its rounds add. -/
theorem actions_waitFor {pass : Session → Pass α × Session}
    (hpass : ∀ s, (pass s).2.actions = s.actions.pushAll (checked s)) (action : Action)
    (timeout : Duration) (s : Session) :
    (s.waitFor action timeout pass).2.actions
      = s.actions.pushAll (waitEntries checked action timeout pass s) := by
  rw [waitEntries]
  by_cases hclock : s.KeepsTime timeout
  · rw [waitFor_of_keepsTime hclock]
    exact actions_log_of_pushAll (actions_poll hpass _ _ s)
  · rw [waitFor_of_not_keepsTime hclock]
    rfl

/-- **Every command adds its entries to the log**, and nothing else. -/
theorem actions_run [Template.Engine] (c : Command) (s : Session) :
    (s.run clear c).2.actions = s.actions.pushAll (s.commandEntries clear checked c) := by
  cases c with
  | check n => rw [run, answer_snd]; exact actions_check n s
  | pageExists n => rw [run, answer_snd]; exact actions_check n s
  | waitForExistence n timeout =>
    rw [run, waitAnswer_snd, waitForExistence, commandEntries]
    exact actions_waitFor (actions_existencePass hclear n _) _ _ s
  | tap e => rw [run, answer_snd]; exact actions_interaction hclear .tap e s
  | tapAny e => rw [run, answer_snd]; exact actions_interaction hclear .tapAny e s
  | typeText e text => rw [run, answer_snd]; exact actions_interaction hclear (.typeText text) e s
  | scroll e dx dy => rw [run, answer_snd]; exact actions_interaction hclear (.scroll dx dy) e s
  | isHittable e => rw [run, answer_snd]; exact actions_isHittable hclear e s
  | waitUntilHittable e timeout =>
    rw [run, waitAnswer_snd, waitUntilHittable, commandEntries]
    exact actions_waitFor (actions_hittablePass hclear e _) _ _ s
  | checkInterruptions => exact hclear s
  | logAction entry count => exact ActionLog.pushTimes_eq_pushAll s.actions entry count
  | removeMonitor name =>
    rw [run]
    split
    · rfl
    · rfl
  | callDevice call =>
    obtain ⟨device, hcall⟩ := exists_callDevice_snd s call
    rw [run, hcall]
    rfl
  | _ => rfl

/-- The commands of a handler add their entries one after the other, up to the first that
fails. -/
theorem actions_runScript (cs : List Command) (s : Session) :
    (runScript clear cs s).2.actions = s.actions.pushAll (scriptEntries clear checked cs s) := by
  induction cs generalizing s with
  | nil => rfl
  | cons c cs ih =>
    have hfirst := actions_run hclear c s
    rw [runScript, scriptEntries]
    generalize s.run clear c = r at hfirst ⊢
    obtain ⟨result, t⟩ := r
    simp only [ActionLog.pushAll_append, ← hfirst]
    cases result with
    | ok a => exact ih _
    | error fault =>
      cases fault with
      | session f => rfl
      | device f => exact ih _

theorem actions_runHandler [Template.Engine] (handler : Handler) (s : Session) :
    (s.runHandler clear handler).2.actions
      = s.actions.pushAll (s.handlerEntries clear checked handler) := by
  cases handler with
  | tap button => exact actions_interaction hclear .tap button s
  | script cs => exact actions_runScript hclear cs s

end

/-! ### Checks for interruptions -/

/-- An idle check adds nothing. -/
theorem chronicled_idle : Chronicled idle fun _ => [] := fun _ => rfl

/-- **A check for interruptions adds the entries of the handler that runs, and then one for the
handler**; it adds nothing if no handler runs. -/
theorem chronicled_interruptions (level : Nat) :
    Chronicled (interruptions (level + 1)) checkEntries := by
  intro s
  cases hchecking : s.checking with
  | true =>
    rw [interruptions_of_checking _ hchecking, checkEntries, if_pos hchecking]
    rfl
  | false =>
    have hlook := actions_firstShown s.monitors { s with checking := true }
    have hmoves : Moves idle { s with checking := true }
        (firstShown s.monitors { s with checking := true }).2 := firstShown_moves _ _
    have hmark := hmoves.checking_eq fun _ => rfl
    rw [interruptions, checkEntries, hchecking]
    simp only [Bool.false_eq_true, if_false]
    generalize firstShown s.monitors { s with checking := true } = shown at hlook hmark ⊢
    obtain ⟨found, t⟩ := shown
    cases found with
    | none => exact hlook
    | some m =>
      -- the handler is interrupted by no other
      have hhandler := actions_runHandler chronicled_idle m.handler t
      simp only [runHandler_eq_idle level m.handler hmark]
      rw [← (show t.actions = s.actions from hlook)]
      exact actions_log_of_pushAll hhandler

/-- A check for interruptions adds something exactly if a handler runs. -/
theorem checkEntries_eq_nil_iff (level : Nat) (s : Session) :
    s.checkEntries = [] ↔ (interruptions (level + 1) s).1 = none := by
  rw [checkEntries, interruptions]
  split
  · simp
  · split
    · rename_i t hshown
      simp [hshown]
    · rename_i m t hshown
      simp [hshown]

/-! ### Runs -/

/-- **A run that no panic ends adds its entries to the log**, whatever the session was before. -/
theorem actions_executeAll [Template.Engine] (cs : List Command) {s : Session}
    (h : (s.executeAll cs).2.panicked = false) :
    (s.executeAll cs).2.actions = s.actions.pushAll (s.runEntries cs) := by
  induction cs generalizing s with
  | nil => rfl
  | cons c cs ih =>
    have hfirst : (s.execute c).2.actions = _ :=
      actions_run (chronicled_interruptions 1) c { s with trace := [] }
    rw [executeAll] at h ⊢
    simp only at h ⊢
    by_cases hpanic : (s.execute c).2.panicked = true
    · rw [if_pos hpanic, hpanic] at h
      cases h
    · rw [if_neg hpanic] at h ⊢
      rw [runEntries, ActionLog.pushAll_append]
      exact (ih h).trans (by rw [hfirst]; rfl)

/-- A session begins with an empty log. -/
theorem actions_startUntil (last : Nat) (settings : Settings) (device : Device)
    (pages : List Page) (next : Nat) :
    (startUntil last settings device pages next).actions = {} := by
  rw [startUntil]
  split
  · rfl
  · rfl

/-- What the log of a session tells of a run. -/
structure Logged [Template.Engine] (s : Session) (cs : List Command) : Prop where
  /-- The log, oldest entry first, is the tail of the entries. -/
  tail : (s.executeAll cs).2.actions.entries.reverse
    = (s.runEntries cs).drop ((s.runEntries cs).length - ActionLog.capacity)
  /-- It has as many entries as it can hold. -/
  length : (s.executeAll cs).2.actions.entries.length
    = min (s.runEntries cs).length ActionLog.capacity
  /-- All are counted. -/
  total : (s.executeAll cs).2.actions.total = (s.runEntries cs).length

end

/-- The commands of a test that watches for an offer, which it declines, and waits for a page. -/
def offeredCommands : List Command :=
  [.addMonitor "offer" 1 [.tap ⟨.declared 2, .button, none, some "No", none, []⟩],
    .waitForExistence 0 (some 0)]

/-- A session for this test, on a screen that shows both the page and the offer. -/
def offeredRun : Session :=
  let button (label : String) : Node := ⟨{ kind := .button, label }, none, none, []⟩
  let page (n : Nat) (label : String) : Page.Body :=
    ⟨[⟨.declared n, .button, none, some label, none, []⟩], []⟩
  start { defaultMonitors := false }
    { screens := [(none, ⟨{ kind := .application }, none, none, [button "Pay", button "No"]⟩)] }
    [{ name := "Till", bodies := [page 1 "Pay"] }, { name := "Offer", bodies := [page 2 "No"] }] 3

/-- The time that a wait was given, as its entry has it. -/
def loggedTimeout (entry : LogEntry) : Option Nat :=
  match entry.action with
  | .waitForExistence _ timeout | .waitUntilHittable _ timeout => some timeout
  | _ => none

/-- A session that waits for a page that is not there, and looks for it at intervals of half the
time that an entry can give. -/
def patientRun : Session :=
  start { defaultMonitors := false, pollInterval := 9223372036854775815 } {}
    [{ name := "Till", bodies := [⟨[⟨.declared 1, .button, none, some "Pay", none, []⟩], []⟩] }] 2

end Session

end ScreenPages
