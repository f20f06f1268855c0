import Mathlib.Logic.Relation
import ScreenPages.Session.Interruption

/-!
# Runs of a session

All that a session does, under whatever commands and whatever monitors, is made of a few
**steps**: a pass over a page, a gesture at a place that the last pass found, a look at a
node, a sleep, an entry in the log, and what a test changes by itself.  A property of
sessions holds throughout a run if each of these steps keeps it.

Checks for interruptions go before most operations, and they run handlers, which are made of
operations again.  So an operation is first taken apart into **moves**, where a check counts
as one; what a check is made of is said afterwards.

The side condition on gestures is what a session promises its device: a query is not made up
and not kept from an earlier pass.

## Main definitions

* `Session.Located` — the pass of an interaction found its element, and where.
* `Action.aim` — the location that a gesture is aimed at.
* `Session.Step`, `Session.Steps` — the steps of a session, and several in a row.
* `Session.Move`, `Session.Moves` — the moves of an operation, and several in a row.
* `Session.Untouched` — nothing has happened, though the state of a test may have changed.

## Main results

* `Session.resolve_of_ok`, `Session.resolve_of_error` — what a pass does.
* `Session.located_of_locate` — an element that can be acted on was found by a pass just now.
* `Session.untouched_run_of_isDirect` — what a command does that makes neither pass nor gesture.
* `Session.keepsTime_ofMillis` — a clock that goes far enough keeps the times that settings and
  scripts give.
* `Session.waitFor_of_not_keepsTime` — a wait whose time the clock cannot keep panics.
* `Session.run_moves` — a command is made of moves.
* `Session.executeAll_steps` — a run is made of steps.
* `Session.Steps.keep` — what each step keeps is kept by a run.
-/

namespace ScreenPages

variable {engine : Template.Engine}

/-- The location that a gesture is aimed at, given where its element was found: a tap on any
of several nodes is aimed at the first of them. -/
def Action.aim : Action → Location → Location
  | .tapAny _, l => { l with index := 0 }
  | _, l => l

/-- Whether a command only changes or shows the state of a test, without a pass or gesture. -/
def Command.isDirect : Command → Bool
  | .check _ | .pageExists _ | .waitForExistence _ _ | .tap _ | .tapAny _ | .typeText _ _
  | .scroll _ _ _ | .isHittable _ | .waitUntilHittable _ _ | .checkInterruptions => false
  | _ => true

namespace Session

/-- What an interaction has done so far when it acts on its element: its pass found the
element at a location, and after it came nothing but gestures of the same interaction. -/
structure Located (events : List Event) (action : Action) (e : Element) (v : Survey)
    (l : Location) : Prop where
  found : v.found.location e.identity = some l
  since : ∃ (touches : List Touch) (older : List Event),
    events = touches.map .touch ++ .survey v :: older ∧
      ∀ t ∈ touches, t.action = action ∧ t.element = e

/-- A step of a session. -/
inductive Step [Template.Engine] : Session → Session → Prop
  /-- A pass over a page. -/
  | resolve (s : Session) (n : Nat) : Step s (s.resolve n).2
  /-- A gesture for an element that the last pass found. -/
  | touch (s : Session) {action : Action} {e : Element} {v : Survey} {l : Location}
      (h : Located s.history action e v l) (g : Device.Gesture) :
      Step s (s.touch action e g (.ofLocation v.application (action.aim l))).2
  | frame (s : Session) (q : Query) : Step s (s.call fun d => d.frame q).2
  | isHittable (s : Session) (q : Query) : Step s (s.call fun d => d.isHittable q).2
  | sleep (s : Session) (ms : Nat) : Step s (s.sleep ms)
  | log {α : Type} (s : Session) (action : Action) (start : Nat) (result : Except Fault α) :
      Step s (s.log action start result)
  /-- A check for interruptions begins or ends. -/
  | setChecking (s : Session) (b : Bool) : Step s { s with checking := b }
  /-- The answers of handlers are kept or forgotten. -/
  | setTrace (s : Session) (answers : List (Except Command.Fault Answer)) :
      Step s { s with trace := answers }
  | panic (s : Session) : Step s { s with panicked := true }
  /-- A command of the test that needs neither a pass nor a gesture. -/
  | direct (s : Session) (clear : InterruptionCheck) (c : Command) (h : c.isDirect = true) :
      Step s (s.run clear c).2

/-- Some steps in a row. -/
abbrev Steps [Template.Engine] : Session → Session → Prop := Relation.ReflTransGen Step

/-- **What each step keeps is kept by all of a run.** -/
theorem Steps.keep {P : Session → Prop} (hstep : ∀ s t, Step s t → P s → P t) {s t : Session}
    (h : Steps s t) (hs : P s) : P t := by
  induction h with
  | refl => exact hs
  | tail _ hlast ih => exact hstep _ _ hlast ih

/-- A move of an operation: a step that leaves alone whether a check is running, or a check. -/
inductive Move [Template.Engine] (clear : InterruptionCheck) (s : Session) : Session → Prop
  | step {t : Session} (h : Step s t) (checking : t.checking = s.checking) : Move clear s t
  | check : Move clear s (clear s).2

/-- Some moves in a row. -/
abbrev Moves [Template.Engine] (clear : InterruptionCheck) : Session → Session → Prop :=
  Relation.ReflTransGen (Move clear)

variable {s t : Session} {clear : InterruptionCheck}

/-- **Moves are made of steps if checks are.** -/
theorem Moves.steps (hclear : ∀ s, Steps s (clear s).2) (h : Moves clear s t) : Steps s t := by
  induction h with
  | refl => exact .refl
  | tail _ hlast ih =>
    cases hlast with
    | step h _ => exact ih.tail h
    | check => exact ih.trans (hclear _)

/-- The answer of a device leaves all of a session but the device as it is. -/
theorem deviceAnswer_snd {α : Type} (f : α → Answer) (s : Session)
    (r : Except Device.Fault α × Device) : (deviceAnswer f s r).2 = { s with device := r.2 } := by
  obtain ⟨result, device⟩ := r
  cases result with
  | error fault => rfl
  | ok a => rfl

/-- A direct call changes nothing but the device. -/
theorem exists_callDevice_snd (s : Session) (call : Device.Call) :
    ∃ device, (s.callDevice call).2 = { s with device } := by
  cases call with
  | snapshot application => exact ⟨_, deviceAnswer_snd _ s _⟩
  | tap q => exact ⟨_, deviceAnswer_snd _ s _⟩
  | typeText q text => exact ⟨_, deviceAnswer_snd _ s _⟩
  | scroll q dx dy => exact ⟨_, deviceAnswer_snd _ s _⟩
  | isHittable q => exact ⟨_, deviceAnswer_snd _ s _⟩
  | frame q => exact ⟨_, deviceAnswer_snd _ s _⟩

/-! ### A pass -/

/-- The pass over a page whose expectations were read. -/
def surveyOf (s : Session) (n : Nat) (xs : List Expectation) : Survey :=
  let screen := (s.device.snapshot (s.page n).application).1.toOption
  ⟨n, (s.page n).application, (s.lookAt n).1, screen, .ofPage xs screen⟩

/-- A pass that cannot read the page fails, and has only looked at the page. -/
theorem resolve_of_error {n : Nat} {a : Template.Ambiguity}
    (h : Expectation.ofElements (s.lookAt n).1 = .error a) :
    s.resolve n = (.error (.template a), (s.lookAt n).2) := by
  rw [resolve]
  simp only [h]

/-- A pass that can read the page answers with what it found, and stores it. -/
theorem resolve_of_ok {n : Nat} {xs : List Expectation}
    (h : Expectation.ofElements (s.lookAt n).1 = .ok xs) :
    s.resolve n =
      (.ok (⟨(s.surveyOf n xs).found.missing, (s.surveyOf n xs).screen.map Node.describe⟩,
          (s.surveyOf n xs).found),
        { (s.lookAt n).2 with
          device := (s.device.snapshot (s.page n).application).2
          cache := (s.surveyOf n xs).found.resolved.foldl (fun c f => c.set f.1 n f.2)
            (s.cache.register n (Element.identities (s.lookAt n).1))
          captured := s.captured.record (s.surveyOf n xs).found.captures
          history := .survey (s.surveyOf n xs) :: s.history }) := by
  rw [resolve]
  simp only [h]
  rfl

/-- A pass leaves alone whether a check is running. -/
theorem checking_resolve (n : Nat) (s : Session) : (s.resolve n).2.checking = s.checking := by
  cases hread : Expectation.ofElements (s.lookAt n).1 with
  | error a => rw [resolve_of_error hread]; rfl
  | ok xs => rw [resolve_of_ok hread]; rfl

/-- A check of a page is one pass. -/
theorem check_moves (n : Nat) (s : Session) : Moves clear s (s.check n).2 :=
  .single (.step (.resolve s n) (checking_resolve n s))

/-! ### Finding an element -/

/-- Locating an element is at most one pass. -/
theorem locate_moves (e : Element) (s : Session) : Moves clear s (s.locate e).2 := by
  rw [locate]
  split
  · exact .refl
  · split
    · exact .refl
    · rename_i entry _
      refine .head (.step (.resolve s entry.page) (checking_resolve _ s)) ?_
      simp only
      split
      · exact .refl
      · split
        · exact .refl
        · exact .refl

/-- **An element that can be acted on was found by a pass just now**, and the query for it says
where. -/
theorem located_of_locate {e : Element} {q : Query} (h : s.locate e = (.ok q, t))
    (action : Action) :
    ∃ v l, Located t.history action e v l ∧ q = .ofLocation v.application l := by
  rw [locate] at h
  -- nothing is located if the element is dynamic, its page unchecked or the pass without it
  split at h
  · cases h
  · split at h
    · cases h
    · rename_i entry _
      cases hread : Expectation.ofElements (s.lookAt entry.page).1 with
      | error a => simp only [resolve_of_error hread] at h; cases h
      | ok xs =>
        simp only [resolve_of_ok hread] at h
        split at h
        · cases h
        · rename_i l hfound
          cases h
          refine ⟨s.surveyOf entry.page xs, l, ⟨hfound, [], s.history, rfl, ?_⟩, rfl⟩
          intro t ht
          cases ht

/-! ### Gestures -/

/-- A gesture of an interaction leaves its element located. -/
theorem Located.touch {action : Action} {e : Element} {v : Survey} {l : Location}
    (h : Located s.history action e v l) (g : Device.Gesture) (q : Query) :
    Located (s.touch action e g q).2.history action e v l := by
  obtain ⟨touches, older, hevents, htouches⟩ := h.since
  refine ⟨h.found, ⟨action, e, q, g, s.device⟩ :: touches, older, ?_, ?_⟩
  · rw [List.map_cons, List.cons_append, ← hevents]
    rfl
  · intro t ht
    rcases List.mem_cons.mp ht with rfl | ht
    · exact ⟨rfl, rfl⟩
    · exact htouches t ht

/-- The looks at a frame are moves that leave the history as it is. -/
theorem settle_moves (q : Query) (deadline fuel : Nat) (last : Frame) (s : Session) :
    Moves clear s (settle q deadline fuel last s) ∧
      (settle q deadline fuel last s).history = s.history := by
  induction fuel generalizing last s with
  | zero => exact ⟨.refl, rfl⟩
  | succ fuel ih =>
    rw [settle]
    by_cases htime : deadline ≤ s.clock
    · rw [if_pos htime]
      exact ⟨.refl, rfl⟩
    · rw [if_neg htime]
      have hlook : Moves clear s
          ((s.sleep s.settings.stablePollInterval).call fun d => d.frame q).2 :=
        .tail (.single (.step (.sleep s _) rfl)) (.step (.frame _ q) rfl)
      simp only
      split
      · split
        · exact ⟨hlook, rfl⟩
        · obtain ⟨hrest, hhistory⟩ := ih _ _
          exact ⟨hlook.trans hrest, hhistory⟩
      · exact ⟨hlook, rfl⟩

/-- Waiting for a frame to settle looks and sleeps, and makes neither a pass nor a gesture. -/
theorem waitUntilStable_moves (q : Query) (s : Session) :
    Moves clear s (s.waitUntilStable q) ∧ (s.waitUntilStable q).history = s.history := by
  have hlook : Moves clear s (s.call fun d => d.frame q).2 := .single (.step (.frame s q) rfl)
  rw [waitUntilStable]
  simp only
  split
  · obtain ⟨hrest, hhistory⟩ := settle_moves q _ _ _ (s.call fun d => d.frame q).2
    exact ⟨hlook.trans hrest, hhistory⟩
  · exact ⟨hlook, rfl⟩

/-- An interaction is made of moves if what it does with a located element is. -/
theorem interact_moves (action : Action) (e : Element)
    {perform : Query → Session → Except Fault Unit × Session}
    (hperform : ∀ s v l, Located s.history action e v l →
      Moves clear s (perform (.ofLocation v.application l) s).2) (s : Session) :
    Moves clear s (interact clear action e perform s).2 := by
  rw [interact]
  simp only
  generalize hlocate : (clear s).2.locate e = located
  have hfront : Moves clear s located.2 := by
    rw [← hlocate]
    exact .head .check (locate_moves e _)
  obtain ⟨found, t⟩ := located
  refine hfront.trans ?_
  cases found with
  | error f => exact .single (.step (.log t action _ _) rfl)
  | ok q =>
    obtain ⟨v, l, hlocated, rfl⟩ := located_of_locate hlocate action
    exact (hperform t v l hlocated).tail (.step (.log _ action _ _) rfl)

theorem tap_moves (e : Element) (s : Session) : Moves clear s (s.tap clear e).2 := by
  refine interact_moves _ e ?_ s
  intro s v l hlocated
  obtain ⟨hwait, hhistory⟩ := waitUntilStable_moves (.ofLocation v.application l) s
  rw [← hhistory] at hlocated
  exact hwait.tail (.step (.touch _ hlocated .tap) rfl)

theorem tapAny_moves (e : Element) (s : Session) : Moves clear s (s.tapAny clear e).2 := by
  refine interact_moves _ e ?_ s
  intro s v l hlocated
  exact .single (.step (.touch s hlocated .tap) rfl)

theorem typeText_moves (e : Element) (text : String) (s : Session) :
    Moves clear s (s.typeText clear e text).2 := by
  refine interact_moves _ e ?_ s
  intro s v l hlocated
  obtain ⟨hwait, hhistory⟩ : Moves clear s _ ∧ _ :=
    waitUntilStable_moves (.ofLocation v.application l) s
  rw [← hhistory] at hlocated
  -- the tap that focuses the node, and the typing if it succeeds
  have hfocus := hwait.tail (.step (.touch _ hlocated .tap) rfl)
  simp only
  split
  · exact hfocus.tail (.step (.touch _ (hlocated.touch .tap _) (.typeText text)) rfl)
  · exact hfocus

theorem scroll_moves (e : Element) (dx dy : Float) (s : Session) :
    Moves clear s (s.scroll clear e dx dy).2 := by
  refine interact_moves _ e ?_ s
  intro s v l hlocated
  exact .single (.step (.touch s hlocated (.scroll dx dy)) rfl)

theorem isHittable_moves (e : Element) (s : Session) : Moves clear s (s.isHittable clear e).2 := by
  rw [isHittable]
  have hfront : Moves clear s ((clear s).2.locate e).2 := .head .check (locate_moves e _)
  simp only
  split
  · exact hfront.tail (.step (.isHittable _ _) rfl)
  · exact hfront

/-! ### Waits -/

theorem existencePass_moves [Template.Engine] (n : Nat) (timeout : Duration) (s : Session) :
    Moves clear s (existencePass clear n timeout s).2 := by
  have hcheck : Moves clear s ((clear s).2.check n).2 := .head .check (check_moves n _)
  rw [existencePass]
  simp only
  split
  · exact hcheck
  · split
    · exact hcheck
    · exact hcheck

theorem hittablePass_moves [Template.Engine] (e : Element) (timeout : Duration) (s : Session) :
    Moves clear s (hittablePass clear e timeout s).2 := by
  have hfront : Moves clear s ((clear s).2.locate e).2 := .head .check (locate_moves e _)
  rw [hittablePass]
  simp only
  split
  · split
    · exact hfront.tail (.step (.isHittable _ _) rfl)
    · exact hfront.tail (.step (.isHittable _ _) rfl)
    · exact hfront.tail (.step (.isHittable _ _) rfl)
  · exact hfront
  · exact hfront

theorem poll_moves {α : Type} {pass : Session → Pass α × Session}
    (hpass : ∀ s, Moves clear s (pass s).2) (deadline fuel : Nat) (s : Session) :
    Moves clear s (poll pass deadline fuel s).2 := by
  induction fuel generalizing s with
  | zero =>
    have hfirst := hpass s
    rw [poll]
    split
    · rename_i h; rwa [h] at hfirst
    · rename_i h
      rw [h] at hfirst
      split
      · exact hfirst
      · exact hfirst
  | succ fuel ih =>
    -- the pass ends the wait, or the time is up, or there is a sleep and another pass
    have hfirst := hpass s
    rw [poll]
    split
    · rename_i h; rwa [h] at hfirst
    · rename_i t h
      rw [h] at hfirst
      split
      · exact hfirst
      · exact (hfirst.tail (.step (.sleep t _) rfl)).trans (ih _)

/-- **A clock keeps every time of settings and scripts** if it goes far enough: these times are in
milliseconds of 64 bits, and so is what has gone by so far. -/
theorem keepsTime_ofMillis {ms : Nat}
    (hlast : (Duration.ofMillis (2 * Nat.pow 2 64)).nanos ≤ s.lastInstant)
    (hclock : s.clock < Nat.pow 2 64) (hms : ms < Nat.pow 2 64) :
    s.KeepsTime (.ofMillis ms) := by
  rw [KeepsTime, deadline, instant]
  simp only [Duration.ofMillis] at hlast ⊢
  omega

/-- What a wait does whose time the clock keeps. -/
theorem waitFor_of_keepsTime {α : Type} {timeout : Duration} (h : s.KeepsTime timeout)
    (action : Action) (pass : Session → Pass α × Session) :
    s.waitFor action timeout pass =
      (some (poll pass (s.deadline timeout) (s.passes timeout) s).1,
        (poll pass (s.deadline timeout) (s.passes timeout) s).2.log action s.clock
          (poll pass (s.deadline timeout) (s.passes timeout) s).1) := by
  rw [waitFor, if_pos h]

/-- **A wait whose time the clock cannot keep panics**, and does nothing before. -/
theorem waitFor_of_not_keepsTime {α : Type} {timeout : Duration} (h : ¬ s.KeepsTime timeout)
    (action : Action) (pass : Session → Pass α × Session) :
    s.waitFor action timeout pass = (none, { s with panicked := true }) := by
  rw [waitFor, if_neg h]

theorem waitFor_moves {α : Type} {pass : Session → Pass α × Session}
    (hpass : ∀ s, Moves clear s (pass s).2) (action : Action) (timeout : Duration) (s : Session) :
    Moves clear s (s.waitFor action timeout pass).2 := by
  by_cases htime : s.KeepsTime timeout
  · rw [waitFor_of_keepsTime htime]
    exact (poll_moves hpass _ _ s).tail (.step (.log _ action _ _) rfl)
  · rw [waitFor_of_not_keepsTime htime]
    exact .single (.step (.panic s) rfl)

/-! ### Commands and handlers -/

/-- The answer to an operation is given in the state that the operation leaves. -/
theorem answer_snd {α : Type} (f : α → Answer) (r : Except Fault α × Session) :
    (answer f r).2 = r.2 := by
  obtain ⟨result, s⟩ := r
  cases result with
  | error fault => rfl
  | ok a => rfl

/-- So is the answer to a wait. -/
theorem waitAnswer_snd {α : Type} (f : α → Answer) (r : Option (Except Fault α) × Session) :
    (waitAnswer f r).2 = r.2 := by
  obtain ⟨result, s⟩ := r
  cases result with
  | none => rfl
  | some result => exact answer_snd f (result, s)

/-- What a command leaves alone that needs neither a pass nor a gesture: whether a check is
running, what happened and what was captured; and the cache, unless it is emptied. -/
structure Untouched (s t : Session) : Prop where
  checking : t.checking = s.checking
  history : t.history = s.history
  captured : t.captured = s.captured
  cache : (t.cache = s.cache ∧ t.emptied = s.emptied) ∨ (t.cache = {} ∧ t.emptied = s.history)

/-- **A command that needs neither a pass nor a gesture** adds nothing to what happened. -/
theorem untouched_run_of_isDirect [Template.Engine] (clear : InterruptionCheck) (s : Session)
    {c : Command} (h : c.isDirect = true) : Untouched s (s.run clear c).2 := by
  cases c with
  | clearCache => exact ⟨rfl, rfl, rfl, .inr ⟨rfl, rfl⟩⟩
  | removeMonitor name =>
    rw [run]
    split
    · exact ⟨rfl, rfl, rfl, .inl ⟨rfl, rfl⟩⟩
    · exact ⟨rfl, rfl, rfl, .inl ⟨rfl, rfl⟩⟩
  | callDevice call =>
    obtain ⟨device, hcall⟩ := exists_callDevice_snd s call
    rw [run, hcall]
    exact ⟨rfl, rfl, rfl, .inl ⟨rfl, rfl⟩⟩
  | _ => first | exact ⟨rfl, rfl, rfl, .inl ⟨rfl, rfl⟩⟩ | cases h

/-- **Every command is made of moves.** -/
theorem run_moves [Template.Engine] (c : Command) (s : Session) :
    Moves clear s (s.run clear c).2 := by
  by_cases hdirect : c.isDirect = true
  · have hchecking := (untouched_run_of_isDirect clear s hdirect).checking
    exact .single (.step (.direct s clear c hdirect) hchecking)
  · -- what is left are the commands that look for a page or an element
    cases c with
    | check n => rw [run, answer_snd]; exact check_moves n s
    | pageExists n => rw [run, answer_snd]; exact check_moves n s
    | waitForExistence n timeout =>
      rw [run, waitAnswer_snd, waitForExistence]
      exact waitFor_moves (existencePass_moves n _) _ _ s
    | tap e => rw [run, answer_snd]; exact tap_moves e s
    | tapAny e => rw [run, answer_snd]; exact tapAny_moves e s
    | typeText e text => rw [run, answer_snd]; exact typeText_moves e text s
    | scroll e dx dy => rw [run, answer_snd]; exact scroll_moves e dx dy s
    | isHittable e => rw [run, answer_snd]; exact isHittable_moves e s
    | waitUntilHittable e timeout =>
      rw [run, waitAnswer_snd, waitUntilHittable]
      exact waitFor_moves (hittablePass_moves e _) _ _ s
    | checkInterruptions => exact .single .check
    | _ => exact absurd rfl hdirect

/-- The commands of a handler are made of moves, as many of them as are run. -/
theorem runScript_moves (cs : List Command) (s : Session) :
    Moves clear s (runScript clear cs s).2 := by
  induction cs generalizing s with
  | nil => exact .refl
  | cons c cs ih =>
    have hfirst : Moves clear s { (s.run clear c).2 with
        trace := (s.run clear c).1 :: (s.run clear c).2.trace } :=
      (run_moves c s).tail (.step (.setTrace _ _) rfl)
    rw [runScript]
    simp only
    split
    · exact hfirst
    · exact hfirst.trans (ih _)

theorem runHandler_moves (handler : Handler) (s : Session) :
    Moves clear s (s.runHandler clear handler).2 := by
  cases handler with
  | tap button => exact tap_moves button s
  | script cs => exact runScript_moves cs s

/-! ### Checks for interruptions -/

/-- Looking for the first monitor whose page is there is a number of passes. -/
theorem firstShown_moves (ms : List Monitor) (s : Session) :
    Moves clear s (firstShown ms s).2 := by
  induction ms generalizing s with
  | nil => exact .refl
  | cons m ms ih =>
    have hcheck : Moves clear s (s.check m.page).2 := check_moves m.page s
    rw [firstShown]
    simp only
    split
    · split
      · exact hcheck
      · exact hcheck.trans (ih _)
    · exact hcheck.trans (ih _)

/-- A check for interruptions is made of steps, whatever its level. -/
theorem interruptions_steps (level : Nat) (s : Session) : Steps s (interruptions level s).2 := by
  induction level generalizing s with
  | zero => exact .refl
  | succ level ih =>
    rw [interruptions]
    split
    · exact .refl
    · -- the handler is interrupted by checks of a lower level only
      have hstart : Steps s { s with checking := true } := .single (.setChecking s true)
      have hshown := hstart.trans ((firstShown_moves s.monitors _).steps ih)
      simp only
      split
      · exact hshown.tail (.setChecking _ false)
      · rename_i m _
        have hhandler := hshown.trans ((runHandler_moves m.handler _).steps ih)
        exact (hhandler.tail (.log _ _ _ _)).tail (.setChecking _ false)

/-! ### Runs -/

theorem execute_steps (s : Session) (c : Command) : Steps s (s.execute c).2 :=
  .head (.setTrace s []) ((run_moves c _).steps (interruptions_steps 2))

/-- **A run is made of steps.** -/
theorem executeAll_steps (s : Session) (cs : List Command) : Steps s (s.executeAll cs).2 := by
  induction cs generalizing s with
  | nil => exact .refl
  | cons c cs ih =>
    have hfirst : Steps s (s.execute c).2 := execute_steps s c
    rw [executeAll]
    simp only
    split
    · exact hfirst
    · exact hfirst.trans (ih _)

end Session

end ScreenPages
