import ScreenPages.Proofs.Run
import ScreenPages.Proofs.Search

/-!
# One handler at a time

A check for interruptions goes before every interaction and before every pass of a wait, and
the handlers that it runs interact and wait themselves.  A mark says that a check is running;
a check that finds it there does nothing.  So the checks that a handler makes, at whatever
depth, are idle, and a handler may be understood without thinking of any other.

The monitors are looked for from the one added last to the one added first.  A handler may
add and remove monitors, but it runs when the look is over.

## Main definitions

* `Session.idle` — a check that finds nothing and does nothing.
* `Session.PassedOver`, `Session.Looked` — looking for the first monitor whose page is there.
* `Session.Checked` — what becomes of a session by a check.
* `Session.Ordered` — the monitors stand in the order in which they were added.

## Main results

* `Session.checking_interruptions` — a check leaves the mark as it was.
* `Session.runHandler_eq_idle` — the checks that a handler makes are idle.
* `Session.interruptions_lifo` — the last of the monitors that are shown is handled, and no
  other.
-/

namespace ScreenPages.Session

section

variable {engine : Template.Engine}

/-- A check for interruptions that finds nothing and does nothing. -/
def idle : InterruptionCheck := fun s => (none, s)

variable {clear clear' : InterruptionCheck} {s t : Session}

/-! ### The mark of a running check -/

/-- **A check leaves the mark as it was**, whatever the handler does. -/
theorem checking_interruptions [Template.Engine] (level : Nat) (s : Session) :
    (interruptions level s).2.checking = s.checking := by
  cases level with
  | zero => rfl
  | succ level =>
    rw [interruptions]
    by_cases h : s.checking = true
    · rw [if_pos h]
    · rw [if_neg h]
      have hfalse : false = s.checking := (Bool.eq_false_iff.mpr h).symm
      simp only
      split
      · exact hfalse
      · exact hfalse

/-- While a check is running no other is made. -/
theorem interruptions_of_checking (level : Nat) (h : s.checking = true) :
    interruptions level s = (none, s) := by
  cases level with
  | zero => rfl
  | succ level => rw [interruptions, if_pos h]

/-- What moves leave the mark alone if checks do. -/
theorem Moves.checking_eq [Template.Engine] (hclear : ∀ s, (clear s).2.checking = s.checking)
    (h : Moves clear s t) : t.checking = s.checking := by
  induction h with
  | refl => rfl
  | tail _ hlast ih =>
    cases hlast with
    | step _ hchecking => exact hchecking.trans ih
    | check => exact (hclear _).trans ih

/-! ### Operations during a check -/

section Agreement

-- two checks that do the same while a check is running, and leave the mark there
variable (hagree : ∀ s, s.checking = true → clear s = clear' s)

include hagree

theorem interact_congr (action : Action) (e : Element)
    (perform : Query → Session → Except Fault Unit × Session) (h : s.checking = true) :
    s.interact clear action e perform = s.interact clear' action e perform := by
  rw [interact, interact, hagree s h]

theorem isHittable_congr (e : Element) (h : s.checking = true) :
    s.isHittable clear e = s.isHittable clear' e := by
  rw [isHittable, isHittable, hagree s h]

theorem existencePass_congr [Template.Engine] (n : Nat) (timeout : Duration)
    (h : s.checking = true) :
    existencePass clear n timeout s = existencePass clear' n timeout s := by
  rw [existencePass, existencePass, hagree s h]

theorem hittablePass_congr [Template.Engine] (e : Element) (timeout : Duration)
    (h : s.checking = true) :
    hittablePass clear e timeout s = hittablePass clear' e timeout s := by
  rw [hittablePass, hittablePass, hagree s h]

omit hagree in
theorem poll_congr {α : Type} {pass pass' : Session → Pass α × Session}
    (hpass : ∀ s, s.checking = true → pass s = pass' s)
    (hkeep : ∀ s, (pass s).2.checking = s.checking) (deadline fuel : Nat)
    (h : s.checking = true) : poll pass deadline fuel s = poll pass' deadline fuel s := by
  induction fuel generalizing s with
  | zero => rw [poll, poll, hpass s h]
  | succ fuel ih =>
    have hmark := hkeep s
    rw [poll, poll, ← hpass s h]
    cases hs : pass s with
    | mk outcome t =>
      rw [hs, h] at hmark
      cases outcome with
      | finished result => rfl
      | unfinished f =>
        have hrest := ih (s := t.sleep t.settings.pollInterval) hmark
        simp only [hrest]

variable (hkeep : ∀ s, (clear s).2.checking = s.checking)

include hkeep

omit hagree hkeep in
/-- A wait does the same with passes that do the same. -/
theorem waitFor_congr {α : Type} {pass pass' : Session → Pass α × Session}
    (hpass : ∀ s, s.checking = true → pass s = pass' s)
    (hkeep : ∀ s, (pass s).2.checking = s.checking) (action : Action) (timeout : Duration)
    (h : s.checking = true) : s.waitFor action timeout pass = s.waitFor action timeout pass' := by
  rw [waitFor, waitFor, poll_congr hpass hkeep _ _ h]

theorem waitForExistence_congr (n : Nat) (timeout : Option Duration) (h : s.checking = true) :
    s.waitForExistence clear n timeout = s.waitForExistence clear' n timeout :=
  waitFor_congr (fun _ => existencePass_congr hagree n _)
    (fun s => (existencePass_moves n _ s).checking_eq hkeep) _ _ h

theorem waitUntilHittable_congr (e : Element) (timeout : Option Duration)
    (h : s.checking = true) :
    s.waitUntilHittable clear e timeout = s.waitUntilHittable clear' e timeout :=
  waitFor_congr (fun _ => hittablePass_congr hagree e _)
    (fun s => (hittablePass_moves e _ s).checking_eq hkeep) _ _ h

/-- A command does the same with both checks. -/
theorem run_congr (c : Command) (h : s.checking = true) : s.run clear c = s.run clear' c := by
  cases c with
  | waitForExistence n timeout =>
    rw [run, run, waitForExistence_congr hagree hkeep n _ h]
  | tap e => rw [run, run, tap, tap, interact_congr hagree _ e _ h]
  | tapAny e => rw [run, run, tapAny, tapAny, interact_congr hagree _ e _ h]
  | typeText e text => rw [run, run, typeText, typeText, interact_congr hagree _ e _ h]
  | scroll e dx dy => rw [run, run, scroll, scroll, interact_congr hagree _ e _ h]
  | isHittable e => rw [run, run, isHittable_congr hagree e h]
  | waitUntilHittable e timeout =>
    rw [run, run, waitUntilHittable_congr hagree hkeep e _ h]
  | checkInterruptions => rw [run, run, hagree s h]
  | _ => rfl

/-- The commands of a handler do the same with both checks, one after the other. -/
theorem runScript_congr (cs : List Command) (h : s.checking = true) :
    runScript clear cs s = runScript clear' cs s := by
  induction cs generalizing s with
  | nil => rfl
  | cons c cs ih =>
    have hmark := ((run_moves c s).checking_eq hkeep).trans h
    have hrest := fun answers => ih (s := { (s.run clear c).2 with trace := answers }) hmark
    rw [runScript, runScript, ← run_congr hagree hkeep c h]
    simp only [hrest]

theorem runHandler_congr (handler : Handler) (h : s.checking = true) :
    s.runHandler clear handler = s.runHandler clear' handler := by
  cases handler with
  | tap button => rw [runHandler, runHandler, tap, tap, interact_congr hagree _ button _ h]
  | script cs => exact runScript_congr hagree hkeep cs h

end Agreement

/-- **The checks that a handler makes are idle**, by itself or through what it does. -/
theorem runHandler_eq_idle (level : Nat) (handler : Handler) (h : s.checking = true) :
    s.runHandler (interruptions level) handler = s.runHandler idle handler :=
  runHandler_congr (fun _ h => interruptions_of_checking level h)
    (checking_interruptions level) handler h

/-! ### Looking for the pages of monitors -/

/-- Some monitors are looked for in order, and each is passed over: its page is not there, or
cannot be read. -/
inductive PassedOver [Template.Engine] : Session → List Monitor → Session → Prop
  | nil (s : Session) : PassedOver s [] s
  | cons {s t : Session} {m : Monitor} {ms : List Monitor}
      (absent : ∀ c, (s.check m.page).1 = .ok c → c.isExisting = false)
      (rest : PassedOver (s.check m.page).2 ms t) : PassedOver s (m :: ms) t

/-- What looking for the first of some monitors finds: all are passed over, or the first whose
page is there is found, and no other is looked for after it. -/
inductive Looked [Template.Engine] (s : Session) (ms : List Monitor) :
    Option Monitor × Session → Prop
  | nowhere {t : Session} (passed : PassedOver s ms t) : Looked s ms (none, t)
  | shown {m : Monitor} {before after : List Monitor} {t u : Session} {c : PageCheck}
      (split : ms = before ++ m :: after) (passed : PassedOver s before t)
      (found : t.check m.page = (.ok c, u)) (existing : c.isExisting = true) :
      Looked s ms (some m, u)

/-- A monitor that is passed over is put in front of those that are looked for. -/
theorem Looked.cons {m : Monitor} {ms : List Monitor} {r : Option Monitor × Session}
    (absent : ∀ c, (s.check m.page).1 = .ok c → c.isExisting = false)
    (h : Looked (s.check m.page).2 ms r) : Looked s (m :: ms) r := by
  cases h with
  | nowhere passed => exact .nowhere (.cons absent passed)
  | shown split passed found existing =>
    exact .shown (by rw [split, List.cons_append]) (.cons absent passed) found existing

/-- **The first monitor whose page is there is found.** -/
theorem firstShown_looked [Template.Engine] (ms : List Monitor) (s : Session) :
    Looked s ms (firstShown ms s) := by
  induction ms generalizing s with
  | nil => exact .nowhere (.nil s)
  | cons m ms ih =>
    rw [firstShown]
    by_cases hexists : ∃ c, (s.check m.page).1 = .ok c ∧ c.isExisting = true
    · obtain ⟨c, hanswer, hc⟩ := hexists
      simp only [hanswer, hc, if_true]
      have hcheck : s.check m.page = (.ok c, (s.check m.page).2) := by rw [← hanswer]
      exact .shown (show m :: ms = [] ++ m :: ms from rfl) (.nil s) hcheck hc
    · -- the page cannot be read, or something of it is missing
      have habsent : ∀ c, (s.check m.page).1 = .ok c → c.isExisting = false := by
        intro c hanswer
        rw [Bool.eq_false_iff]
        exact fun hc => hexists ⟨c, hanswer, hc⟩
      have hrest := (ih (s.check m.page).2).cons habsent
      cases hanswer : (s.check m.page).1 with
      | error f => simpa only [hanswer] using hrest
      | ok c => simpa [hanswer, habsent c hanswer] using hrest

/-! ### The order of monitors -/

/-- The monitors of a session stand in the order in which they were added, the last in front:
they are numbered as they are added, and none has a number that is still to be given. -/
structure Ordered (s : Session) : Prop where
  latest : s.monitors.Pairwise fun m n => n.id < m.id
  numbered : ∀ m ∈ s.monitors, m.id < s.monitorsAdded

namespace Ordered

/-- The order is about nothing but the monitors. -/
theorem of_eq (h : s.Ordered) (hmonitors : t.monitors = s.monitors)
    (hadded : t.monitorsAdded = s.monitorsAdded) : t.Ordered := by
  refine ⟨?_, ?_⟩
  · rw [hmonitors]
    exact h.latest
  · rw [hmonitors, hadded]
    exact h.numbered

theorem addMonitor (h : s.Ordered) (n : Nat) (handler : Handler) :
    (s.addMonitor n handler).2.Ordered := by
  refine ⟨List.pairwise_cons.mpr ⟨h.numbered, h.latest⟩, ?_⟩
  intro m hm
  rcases List.mem_cons.mp hm with rfl | hm
  · exact Nat.lt_succ_self _
  · exact Nat.lt_succ_of_lt (h.numbered m hm)

theorem addAlertMonitor (h : s.Ordered) (build : Nat → SystemAlert) :
    (s.addAlertMonitor build).2.Ordered := by
  -- the page of the alert and the identities that it takes are of no concern
  refine addMonitor ?_ _ _
  exact h.of_eq rfl rfl

theorem installDefaultMonitors (h : s.Ordered) (deny : String) :
    (s.installDefaultMonitors deny).2.Ordered :=
  (h.addAlertMonitor (SystemAlert.any none)).addAlertMonitor (SystemAlert.permission deny none)

theorem removeMonitor (h : s.Ordered) (id : Nat) : (s.removeMonitor id).2.Ordered := by
  refine ⟨h.latest.filter _, ?_⟩
  intro m hm
  exact h.numbered m (List.mem_filter.mp hm).1

theorem run_of_isDirect (h : s.Ordered) (clear : InterruptionCheck) {c : Command}
    (hdirect : c.isDirect = true) : (s.run clear c).2.Ordered := by
  cases c with
  | addMonitor name n handler => exact (h.addMonitor n (.script handler)).of_eq rfl rfl
  | installDefaultMonitors deny => exact h.installDefaultMonitors deny
  | removeMonitor name =>
    rw [run]
    split
    · exact h
    · exact h.removeMonitor _
  | callDevice call =>
    obtain ⟨device, hcall⟩ := exists_callDevice_snd s call
    rw [run, hcall]
    exact h.of_eq rfl rfl
  | _ => first | exact h.of_eq rfl rfl | cases hdirect

end Ordered

/-- A step keeps the monitors in order. -/
theorem Step.ordered (h : Step s t) (hs : s.Ordered) : t.Ordered := by
  cases h with
  | resolve _ n =>
    cases hread : Expectation.ofElements (s.lookAt n).1 with
    | error a =>
      rw [resolve_of_error hread]
      exact hs.of_eq rfl rfl
    | ok xs =>
      rw [resolve_of_ok hread]
      exact hs.of_eq rfl rfl
  | touch _ h g => exact hs.of_eq rfl rfl
  | frame => exact hs.of_eq rfl rfl
  | isHittable => exact hs.of_eq rfl rfl
  | sleep => exact hs.of_eq rfl rfl
  | log => exact hs.of_eq rfl rfl
  | setChecking => exact hs.of_eq rfl rfl
  | setTrace => exact hs.of_eq rfl rfl
  | panic => exact hs.of_eq rfl rfl
  | direct _ clear c h => exact hs.run_of_isDirect clear h

theorem ordered_startUntil (last : Nat) (settings : Settings) (device : Device)
    (pages : List Page) (next : Nat) :
    (startUntil last settings device pages next).Ordered := by
  have hempty :
      ({ settings, device, pages, nextIdentity := next, lastInstant := last } : Session).Ordered :=
    ⟨List.Pairwise.nil, fun _ hm => absurd hm List.not_mem_nil⟩
  rw [startUntil]
  split
  · exact hempty.installDefaultMonitors _
  · exact hempty

/-- **The monitors of every state that a run goes through stand in the order in which they were
added.** -/
theorem Steps.ordered {settings : Settings} {device : Device} {pages : List Page}
    {last next : Nat} (h : Steps (startUntil last settings device pages next) s) : s.Ordered :=
  h.keep (fun _ _ hstep hs => hstep.ordered hs)
    (ordered_startUntil last settings device pages next)

/-! ### A whole check -/

/-- A session after the handler of a monitor, for which checks find nothing, and the entry for
it in the log, whether the handler succeeded or not. -/
def handled [Template.Engine] (m : Monitor) (s : Session) : Session :=
  let (result, t) := s.runHandler idle m.handler
  t.log (.handleInterruption (t.page m.page).name) s.clock result

/-- What becomes of a session by a check that is not made within another: the monitors are
looked for from the one added last on, and the first that is shown is handled. -/
inductive Checked [Template.Engine] (s : Session) : Option Nat × Session → Prop
  | quiet {t : Session} (looked : Looked { s with checking := true } s.monitors (none, t)) :
      Checked s (none, { t with checking := false })
  | interrupted {m : Monitor} {t : Session}
      (looked : Looked { s with checking := true } s.monitors (some m, t)) :
      Checked s (some m.id, { t.handled m with checking := false })

/-- A check that is not made within another does what it should. -/
theorem interruptions_checked [Template.Engine] (level : Nat) (h : s.checking = false) :
    Checked s (interruptions (level + 1) s) := by
  have hlooked := firstShown_looked s.monitors { s with checking := true }
  have hmoves : Moves idle { s with checking := true }
      (firstShown s.monitors { s with checking := true }).2 := firstShown_moves _ _
  have hmark := hmoves.checking_eq (fun _ => rfl)
  rw [interruptions, h]
  simp only
  generalize firstShown s.monitors { s with checking := true } = r at hlooked hmark ⊢
  obtain ⟨found, t⟩ := r
  cases found with
  | none => exact .quiet hlooked
  | some m =>
    simp only [runHandler_eq_idle level m.handler hmark]
    exact .interrupted hlooked

/-- A command leaves no mark of a check. -/
theorem checking_executeAll (h : s.checking = false) (cs : List Command) :
    (s.executeAll cs).2.checking = false := by
  induction cs generalizing s with
  | nil => exact h
  | cons c cs ih =>
    have hrun := (run_moves c { s with trace := [] }).checking_eq (checking_interruptions 2)
    have hfirst : (s.execute c).2.checking = false := hrun.trans h
    rw [executeAll]
    simp only
    split
    · exact hfirst
    · exact ih hfirst

/-- **Of all monitors whose pages are there the one added last is handled, and no other**: a
check that is not made within another looks for the monitors from the one added last on, and
ends with the first whose page is there.  All checks that its handler makes, by itself or
through what it does, find nothing and do nothing.  And no command leaves the mark of a
check. -/
theorem interruptions_lifo (level : Nat) (h : s.checking = false) :
    Checked s (interruptions (level + 1) s) ∧
      (∀ last settings device pages next, Steps (startUntil last settings device pages next) s →
        s.monitors.Pairwise fun m n => n.id < m.id) ∧
      (∀ u : Session, u.checking = true → interruptions level u = (none, u) ∧
        ∀ handler, u.runHandler (interruptions level) handler = u.runHandler idle handler) ∧
      ∀ cs, (s.executeAll cs).2.checking = false := by
  refine ⟨interruptions_checked level h, ?_, ?_, checking_executeAll h⟩
  · intro last settings device pages next hsteps
    exact hsteps.ordered.latest
  · intro u hu
    exact ⟨interruptions_of_checking level hu, fun handler => runHandler_eq_idle level handler hu⟩

end

/-- A session with three monitors on a screen that shows the pages of the first two.  The
handler of the second checks for interruptions itself. -/
def watchedRun : Session :=
  let button (n : Nat) (label : String) : Page.Body :=
    ⟨[⟨.declared n, .button, none, some label, none, []⟩], []⟩
  ((start { defaultMonitors := false } { screens := [(none, Resolution.sampleScreen)] }
      [ { name := "Question", bodies := [button 1 "OK"] },
        { name := "Till", bodies := [⟨[⟨.declared 2, .cell, none, none, none, []⟩], []⟩] },
        { name := "Offer", bodies := [button 3 "No"] } ] 4).executeAll
    [ .addMonitor "question" 0 [], .addMonitor "till" 1 [.checkInterruptions],
      .addMonitor "offer" 2 [] ]).2

/-- In the sample session the monitor added last is passed over, and the one before it is
handled. -/
theorem interruptions_lifo_watched : Checked watchedRun (interruptions 2 watchedRun) ∧
    (watchedRun.monitors.Pairwise fun m n => n.id < m.id) ∧
    (interruptions 2 watchedRun).1 = some 1 ∧
    (interruptions 2 watchedRun).2.actions.total = 1 := by
  have hmark : watchedRun.checking = false := by decide +kernel
  obtain ⟨hchecked, hordered, -, -⟩ := interruptions_lifo 1 hmark
  refine ⟨hchecked, hordered _ _ _ _ _ (executeAll_steps _ _), ?_, ?_⟩
  · decide +kernel
  · decide +kernel

end ScreenPages.Session
