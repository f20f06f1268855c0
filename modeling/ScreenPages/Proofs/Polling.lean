import Mathlib.Algebra.Order.Floor.Div
import ScreenPages.Proofs.Aim
import ScreenPages.Proofs.Freshness
import ScreenPages.Proofs.Reentrancy
import ScreenPages.Proofs.Renaming

/-!
# Polling

A wait goes on in **rounds**.  Each round makes one pass, and what the pass says decides whether
the wait is over; if it is not, the time is looked at, and only if it is not up the session sleeps
for one interval before the next round.  So the time is up for a round only after its pass: there
is always a pass at or after the deadline before a wait is given up.

As long as no handler runs, passes take no time, and the rounds begin at the start of the wait and
after one, two, three, … intervals.

All this holds on a clock that keeps the time of the wait, so that a sleep of so long ends exactly
when it should; if there is no such instant, the wait panics at once (`waitFor_of_not_keepsTime`).

## Main definitions

* `Session.Polled` — the rounds of a wait, one after the other.
* `Session.rounds`, `Session.waitingRounds` — the states in which the rounds begin.
* `Session.Onward` — the time did not go back.
* `Session.Steady` — no time went by, and pages, monitors and settings are the same.
* `Session.Timetable` — what a wait comes to whose rounds take no time.
* `Session.interval`, `Session.intervals` — the time between rounds, and how often a wait sleeps.
* `Session.Visit` — the pass that a round makes over the page that is waited for.
* `Session.Awaited` — a wait for a page during which no handler runs.

## Main results

* `Session.waitFor_polled` — every wait goes on in rounds until it is over.
* `Session.steady_interruptions` — a check in which no handler runs takes no time.
* `Session.Polled.exists_timetable` — when the rounds begin that take no time, and how they end.
* `Session.waitForExistence_awaited` — a wait for a page ends with the first pass that finds it,
  and is not given up before the time is up.
-/

namespace ScreenPages.Session

variable {α : Type} {s t u : Session} {pass : Session → Pass α × Session}

section

variable {engine : Template.Engine}

/-! ### Rounds -/

/-- The rounds of a wait, given by the states in which they begin, and how the wait ends. -/
inductive Polled (pass : Session → Pass α × Session) (deadline : Nat) :
    Session → List Session → Except Fault α × Session → Prop
  /-- The pass decides the wait. -/
  | finished {s t : Session} {result : Except Fault α} (h : pass s = (.finished result, t)) :
      Polled pass deadline s [s] (result, t)
  /-- The pass does not decide the wait, and the time is up after it. -/
  | timeUp {s t : Session} {f : Fault} (h : pass s = (.unfinished f, t))
      (late : deadline ≤ t.instant) : Polled pass deadline s [s] (.error f, t)
  /-- The pass does not decide the wait, and after an interval there is another round. -/
  | again {s t : Session} {f : Fault} {rs : List Session} {r : Except Fault α × Session}
      (h : pass s = (.unfinished f, t)) (early : t.instant < deadline)
      (rest : Polled pass deadline (t.sleep t.settings.pollInterval) rs r) :
      Polled pass deadline s (s :: rs) r

namespace Polled

variable {deadline : Nat} {rs : List Session} {r : Except Fault α × Session}

/-- A wait begins with a round. -/
theorem mem (h : Polled pass deadline s rs r) : s ∈ rs := by
  cases h with
  | finished => exact List.mem_singleton_self s
  | timeUp => exact List.mem_singleton_self s
  | again => exact List.mem_cons_self

/-- A wait ends with the first pass that decides it. -/
theorem eq_of_finished {result : Except Fault α} (h : Polled pass deadline s rs r)
    (hpass : pass s = (.finished result, t)) : r = (result, t) := by
  cases h with
  | finished h' =>
    rw [hpass] at h'
    cases h'
    rfl
  | timeUp h' =>
    rw [hpass] at h'
    cases h'
  | again h' =>
    rw [hpass] at h'
    cases h'

/-- A pass that does not decide the wait before the time is up is followed by another round. -/
theorem exists_of_unfinished {f : Fault} (h : Polled pass deadline s rs r)
    (hpass : pass s = (.unfinished f, t)) (hearly : t.instant < deadline) :
    ∃ rs', rs = s :: rs' ∧ Polled pass deadline (t.sleep t.settings.pollInterval) rs' r := by
  cases h with
  | finished h' =>
    rw [hpass] at h'
    cases h'
  | timeUp h' late =>
    rw [hpass] at h'
    cases h'
    exact absurd hearly (Nat.not_lt.mpr late)
  | again h' early rest =>
    rw [hpass] at h'
    cases h'
    exact ⟨_, rfl, rest⟩

end Polled

/-- The states in which the rounds of a wait begin; `fuel` bounds the number of rounds after the
first. -/
def rounds (pass : Session → Pass α × Session) (deadline : Nat) : Nat → Session → List Session
  | fuel, s =>
    s :: match pass s with
      | (.finished _, _) => []
      | (.unfinished _, t) =>
        if deadline ≤ t.instant then []
        else
          match fuel with
          | 0 => []
          | fuel + 1 => rounds pass deadline fuel (t.sleep t.settings.pollInterval)

/-- The states in which the rounds of a wait begin that may take `timeout`. -/
def waitingRounds (pass : Session → Pass α × Session) (timeout : Duration) (s : Session) :
    List Session :=
  rounds pass (s.deadline timeout) (s.passes timeout) s

/-- The time between two rounds, in nanoseconds. -/
def interval (s : Session) : Nat := (Duration.ofMillis s.settings.pollInterval).nanos

/-- How many intervals it takes for a time to be over. -/
def intervals (s : Session) (timeout : Duration) : Nat := timeout.nanos ⌈/⌉ s.interval

theorem interval_pos (h : 0 < s.settings.pollInterval) : 0 < s.interval :=
  Nat.mul_pos (Nat.zero_lt_succ _) h

/-- A sleep takes the time on by as much as was slept. -/
theorem instant_sleep (s : Session) (ms : Nat) :
    (s.sleep ms).instant = s.instant + (Duration.ofMillis ms).nanos :=
  Nat.mul_add 1000000 s.clock ms

theorem interval_sleep (s : Session) (ms : Nat) : (s.sleep ms).interval = s.interval := rfl

/-- What a round leaves alone that may run handlers: the time does not go back, and the settings
are the same. -/
structure Onward (s t : Session) : Prop where
  clock : s.clock ≤ t.clock
  settings : t.settings = s.settings

theorem Onward.instant (h : Onward s t) : s.instant ≤ t.instant :=
  Nat.mul_le_mul_left 1000000 h.clock

theorem Onward.interval (h : Onward s t) : t.interval = s.interval := by
  rw [Session.interval, Session.interval, h.settings]

/-- **Every step of a session goes onward.** -/
theorem Step.onward (h : Step s t) : Onward s t := by
  cases h with
  | resolve _ n =>
    cases hread : Expectation.ofElements (s.lookAt n).1 with
    | error a => rw [resolve_of_error hread]; exact ⟨le_rfl, rfl⟩
    | ok xs => rw [resolve_of_ok hread]; exact ⟨le_rfl, rfl⟩
  | sleep _ ms => exact ⟨Nat.le_add_right _ _, rfl⟩
  | direct _ clear c hdirect =>
    cases c with
    | removeMonitor name =>
      rw [run]
      split
      · exact ⟨le_rfl, rfl⟩
      · exact ⟨le_rfl, rfl⟩
    | callDevice call =>
      obtain ⟨device, hcall⟩ := exists_callDevice_snd s call
      rw [run, hcall]
      exact ⟨le_rfl, rfl⟩
    | _ => first | exact ⟨le_rfl, rfl⟩ | cases hdirect
  | _ => exact ⟨le_rfl, rfl⟩

/-- Some steps in a row go onward. -/
theorem Steps.onward (h : Steps s t) : Onward s t := by
  induction h with
  | refl => exact ⟨le_rfl, rfl⟩
  | tail _ hstep ih =>
    exact ⟨ih.clock.trans hstep.onward.clock, hstep.onward.settings.trans ih.settings⟩

/-- **Every wait goes on in rounds until it is over**, if passes go onward and the rounds that are
allowed reach the deadline. -/
theorem polled_poll (hpass : ∀ s, Onward s (pass s).2) {deadline : Nat} (fuel : Nat)
    (hfuel : deadline ≤ s.instant + fuel * s.interval) :
    Polled pass deadline s (rounds pass deadline fuel s) (poll pass deadline fuel s) := by
  induction fuel generalizing s with
  | zero =>
    have hnext := hpass s
    rw [rounds, poll]
    cases hanswer : pass s with
    | mk answer t =>
      rw [hanswer] at hnext
      cases answer with
      | finished result => exact .finished hanswer
      | unfinished f =>
        -- the deadline was over before the pass
        have hlate : deadline ≤ t.instant := by
          rw [Nat.zero_mul, Nat.add_zero] at hfuel
          exact hfuel.trans hnext.instant
        simp only [if_pos hlate]
        exact .timeUp hanswer hlate
  | succ fuel ih =>
    have hnext := hpass s
    rw [rounds, poll]
    cases hanswer : pass s with
    | mk answer t =>
      rw [hanswer] at hnext
      cases answer with
      | finished result => exact .finished hanswer
      | unfinished f =>
        by_cases hlate : deadline ≤ t.instant
        · simp only [if_pos hlate]
          exact .timeUp hanswer hlate
        · simp only [if_neg hlate]
          refine .again hanswer (Nat.lt_of_not_le hlate) (ih ?_)
          have hinterval : (t.sleep t.settings.pollInterval).interval = s.interval := by
            rw [interval_sleep, hnext.interval]
          have hinstant : s.instant + s.interval
              ≤ (t.sleep t.settings.pollInterval).instant := by
            rw [instant_sleep, ← interval, hnext.interval]
            exact Nat.add_le_add_right hnext.instant _
          rw [hinterval]
          rw [Nat.succ_mul] at hfuel
          omega

/-- One interval more than fit into a time makes up for it. -/
theorem le_div_succ_mul (time : Nat) {interval : Nat} (h : 0 < interval) :
    time ≤ (time / interval + 1) * interval := by
  rw [Nat.mul_comm]
  exact (Nat.lt_mul_div_succ time h).le

/-- The rounds that a wait allows itself reach its deadline. -/
theorem le_passes_mul (timeout : Duration) (h : 0 < s.settings.pollInterval) :
    timeout.nanos ≤ s.passes timeout * s.interval := by
  rw [passes, Nat.max_eq_left h]
  exact le_div_succ_mul _ (interval_pos h)

/-- **A wait goes on in rounds until it is over**, and then it is recorded. -/
theorem waitFor_polled (hpass : ∀ s, Onward s (pass s).2) (action : Action) {timeout : Duration}
    (hclock : s.KeepsTime timeout) (hinterval : 0 < s.settings.pollInterval) :
    ∃ r t, s.waitFor action timeout pass = (some r, t.log action s.clock r) ∧
      Polled pass (s.deadline timeout) s (s.waitingRounds pass timeout) (r, t) :=
  ⟨_, _, waitFor_of_keepsTime hclock action pass,
    polled_poll hpass _ (Nat.add_le_add_left (le_passes_mul timeout hinterval) _)⟩

/-! ### Checks in which no handler runs -/

/-- No time went by from one state to another, and pages, monitors and settings are the same. -/
structure Steady (s t : Session) : Prop where
  clock : t.clock = s.clock
  settings : t.settings = s.settings
  pages : t.pages = s.pages
  monitors : t.monitors = s.monitors
  /-- Identities may have been given. -/
  nextIdentity : s.nextIdentity ≤ t.nextIdentity

theorem Steady.trans (h : Steady s t) (h' : Steady t u) : Steady s u :=
  ⟨h'.clock.trans h.clock, h'.settings.trans h.settings, h'.pages.trans h.pages,
    h'.monitors.trans h.monitors, h.nextIdentity.trans h'.nextIdentity⟩

theorem Steady.instant (h : Steady s t) : t.instant = s.instant := by
  rw [Session.instant, Session.instant, h.clock]

theorem Steady.interval (h : Steady s t) : t.interval = s.interval := by
  rw [Session.interval, Session.interval, h.settings]

/-- The pages of a session are the same. -/
theorem Steady.page (h : Steady s t) (n : Nat) : t.page n = s.page n := by
  rw [Session.page, Session.page, h.pages]

/-- A pass is steady. -/
theorem steady_resolve [Template.Engine] (n : Nat) (s : Session) : Steady s (s.resolve n).2 := by
  have hgiven : s.nextIdentity ≤ (s.lookAt n).2.nextIdentity := Nat.le_add_right _ _
  cases hread : Expectation.ofElements (s.lookAt n).1 with
  | error a => rw [resolve_of_error hread]; exact ⟨rfl, rfl, rfl, rfl, hgiven⟩
  | ok xs => rw [resolve_of_ok hread]; exact ⟨rfl, rfl, rfl, rfl, hgiven⟩

/-- Passing over the pages of monitors is steady. -/
theorem PassedOver.steady {ms : List Monitor} (h : PassedOver s ms t) : Steady s t := by
  induction h with
  | nil => exact ⟨rfl, rfl, rfl, rfl, le_rfl⟩
  | @cons s t m ms _ _ ih => exact (steady_resolve m.page s).trans ih

/-- The monitors that a check for interruptions looks for: none if it is made within another. -/
def lookedFor (level : Nat) (s : Session) : List Monitor :=
  if level = 0 ∨ s.checking = true then [] else s.monitors

/-- **A check for interruptions in which no handler runs passes over all monitors that it looks
for**, and does nothing else. -/
theorem exists_passedOver {level : Nat} (h : (interruptions level s).1 = none) :
    ∃ t, PassedOver { s with checking := true } (s.lookedFor level) t ∧
      (interruptions level s).2 = { t with checking := s.checking } := by
  cases level with
  | zero => exact ⟨_, .nil _, rfl⟩
  | succ level =>
    cases hchecking : s.checking with
    | true =>
      rw [interruptions_of_checking _ hchecking, lookedFor, if_pos (.inr hchecking)]
      exact ⟨_, .nil _, by rw [← hchecking]⟩
    | false =>
      have hchecked := interruptions_checked level hchecking
      rw [lookedFor, if_neg (by simp [hchecking])]
      generalize interruptions (level + 1) s = r at h hchecked ⊢
      cases hchecked with
      | interrupted => cases h
      | quiet looked =>
        cases looked with
        | nowhere passed => exact ⟨_, passed, rfl⟩

/-- **A check for interruptions is steady if no handler runs.** -/
theorem steady_interruptions (level : Nat) (h : (interruptions level s).1 = none) :
    Steady s (interruptions level s).2 := by
  obtain ⟨t, hpassed, ht⟩ := exists_passedOver h
  have hsteady := hpassed.steady
  rw [ht]
  exact ⟨hsteady.clock, hsteady.settings, hsteady.pages, hsteady.monitors, hsteady.nextIdentity⟩

/-! ### Rounds that take no time -/

/-- What a wait comes to whose rounds take no time, from a round on: `earlier` are the rounds that
do not decide the wait and are not the last, and `last` is the last. -/
structure Timetable {β : Type} (Round : Session → β → Prop) (answer : β → Pass α)
    (deadline : Nat) (s : Session) (rs : List Session) (earlier : List β) (last : β)
    (r : Except Fault α × Session) : Prop where
  rounds : List.Forall₂ Round rs (earlier ++ [last])
  times : rs.map Session.instant
    = (List.range (earlier.length + 1)).map fun k => s.instant + k * s.interval
  instant : r.2.instant = s.instant + earlier.length * s.interval
  /-- The time was not up before the last round. -/
  early : ∀ k < earlier.length, s.instant + k * s.interval < deadline
  undecided : ∀ v ∈ earlier, ∃ f, answer v = .unfinished f
  finished : ∀ result, answer last = .finished result → r.1 = result
  timeUp : ∀ f, answer last = .unfinished f → deadline ≤ r.2.instant ∧ r.1 = .error f

/-- **The timetable of a wait whose rounds take no time.**  What a round does is known only from
something that holds when it begins, and holds for the next one if the time is not up. -/
theorem Polled.exists_timetable {β : Type} {Round : Session → β → Prop} {answer : β → Pass α}
    {P : Session → Prop} {deadline : Nat} {rs : List Session} {r : Except Fault α × Session}
    (h : Polled pass deadline s rs r)
    (hround : ∀ u ∈ rs, P u → ∃ v t, Round u v ∧ Steady u t ∧ pass u = (answer v, t) ∧
      (t.instant < deadline → P (t.sleep t.settings.pollInterval)))
    (hs : P s) : ∃ earlier last, Timetable Round answer deadline s rs earlier last r := by
  induction h with
  | @finished s t result hpass =>
    obtain ⟨v, u, hv, hsteady, hanswer, -⟩ := hround s (by simp) hs
    rw [hpass, Prod.mk.injEq] at hanswer
    obtain ⟨hanswer, rfl⟩ := hanswer
    refine ⟨[], v, .cons hv .nil, by simp, by simpa using hsteady.instant, by simp, by simp,
      ?_, ?_⟩
    · intro result' hresult
      rw [← hanswer, Pass.finished.injEq] at hresult
      exact hresult
    · intro f hf
      rw [← hanswer] at hf
      cases hf
  | @timeUp s t f hpass late =>
    obtain ⟨v, u, hv, hsteady, hanswer, -⟩ := hround s (by simp) hs
    rw [hpass, Prod.mk.injEq] at hanswer
    obtain ⟨hanswer, rfl⟩ := hanswer
    refine ⟨[], v, .cons hv .nil, by simp, by simpa using hsteady.instant, by simp, by simp,
      ?_, ?_⟩
    · intro result hresult
      rw [← hanswer] at hresult
      cases hresult
    · intro f' hf
      rw [← hanswer, Pass.unfinished.injEq] at hf
      exact ⟨late, congrArg Except.error hf⟩
  | @again s t f rs r hpass early rest ih =>
    obtain ⟨v, u, hv, hsteady, hanswer, hnext⟩ := hround s (by simp) hs
    rw [hpass, Prod.mk.injEq] at hanswer
    obtain ⟨hanswer, rfl⟩ := hanswer
    -- the next round begins an interval later, with the same settings
    have hinterval : (t.sleep t.settings.pollInterval).interval = s.interval := by
      rw [interval_sleep, hsteady.interval]
    have hinstant : (t.sleep t.settings.pollInterval).instant = s.instant + s.interval := by
      rw [instant_sleep, ← Session.interval, hsteady.interval, hsteady.instant]
    obtain ⟨earlier, last, hcourse⟩ :=
      ih (fun u hu => hround u (List.mem_cons_of_mem _ hu)) (hnext early)
    refine ⟨v :: earlier, last, .cons hv hcourse.rounds, ?_, ?_, ?_, ?_, hcourse.finished,
      hcourse.timeUp⟩
    · rw [List.map_cons, hcourse.times, hinstant, hinterval, List.length_cons,
        List.range_succ_eq_map (n := earlier.length + 1), List.map_cons, List.map_map]
      simp only [Nat.zero_mul, Nat.add_zero, List.cons.injEq, true_and]
      refine List.map_congr_left fun k _ => ?_
      rw [Function.comp_apply, Nat.succ_mul, Nat.add_comm (k * _), Nat.add_assoc]
    · rw [hcourse.instant, hinstant, hinterval, List.length_cons, Nat.succ_mul]
      omega
    · intro k hk
      cases k with
      | zero => rwa [Nat.zero_mul, Nat.add_zero, ← hsteady.instant]
      | succ k =>
        have := hcourse.early k (Nat.lt_of_succ_lt_succ hk)
        rw [hinstant, hinterval] at this
        rw [Nat.succ_mul]
        omega
    · intro w hw
      rcases List.mem_cons.mp hw with rfl | hw
      · exact ⟨f, hanswer.symm⟩
      · exact hcourse.undecided w hw

namespace Timetable

variable {β : Type} {Round : Session → β → Prop} {answer : β → Pass α} {timeout : Duration}
  {rs : List Session} {earlier : List β} {last : β} {r : Except Fault α × Session}

/-- No round begins after the first at or behind the deadline. -/
theorem length_le (h : Timetable Round answer (s.deadline timeout) s rs earlier last r)
    (hinterval : 0 < s.settings.pollInterval) : earlier.length ≤ s.intervals timeout := by
  by_contra hlonger
  have hearly := h.early _ (Nat.lt_of_not_le hlonger)
  have hceil := le_smul_ceilDiv (β := Nat) (b := timeout.nanos) (interval_pos hinterval)
  rw [smul_eq_mul, Nat.mul_comm, ← intervals] at hceil
  rw [deadline] at hearly
  omega

/-- A round after which the time is up is the first at or behind the deadline. -/
theorem length_eq (h : Timetable Round answer (s.deadline timeout) s rs earlier last r)
    (hinterval : 0 < s.settings.pollInterval) (hlate : s.deadline timeout ≤ r.2.instant) :
    earlier.length = s.intervals timeout := by
  rw [h.instant, deadline, Nat.add_le_add_iff_left, Nat.mul_comm] at hlate
  exact (h.length_le hinterval).antisymm
    ((ceilDiv_le_iff_le_mul (interval_pos hinterval)).mpr hlate)

/-- A wait is over less than an interval after the deadline. -/
theorem instant_lt (h : Timetable Round answer (s.deadline timeout) s rs earlier last r)
    (hinterval : 0 < s.settings.pollInterval) :
    r.2.instant < s.deadline timeout + s.interval := by
  have hpositive := interval_pos hinterval
  rw [h.instant]
  cases hcount : earlier.length with
  | zero =>
    rw [deadline]
    omega
  | succ k =>
    have hearly := h.early k (hcount ▸ Nat.lt_succ_self k)
    rw [Nat.succ_mul]
    omega

end Timetable

/-! ### Waiting for a page -/

/-- The pass that a round makes over the page with a number, right after its check for
interruptions. -/
structure Visit [Template.Engine] (level n : Nat) (s : Session) (v : Survey) : Prop where
  page : v.page = n
  application : v.application = (s.page n).application
  /-- The screen is the one that the device gives at that moment, if it gives one. -/
  screen : v.screen
    = ((interruptions level s).2.device.snapshot v.application).1.toOption
  /-- What is found is what the page makes of this screen. -/
  genuine : v.Genuine
  history : ((interruptions level s).2.check n).2.history
    = .survey v :: (interruptions level s).2.history

/-- The body of a page that can be read can be read whenever it is looked at. -/
theorem exists_ofElements_lookAt {n : Nat}
    (hreads : ∃ xs, Expectation.ofElements (s.page n).body.elements = .ok xs) :
    ∃ xs, Expectation.ofElements (s.lookAt n).1 = .ok xs := by
  obtain ⟨xs, hxs⟩ := hreads
  simp only [lookAt, Page.Body.lookAt, Expectation.ofElements_mapIdentityList, hxs]
  exact ⟨_, rfl⟩

/-- What a round answers whose pass found this. -/
def roundAnswer (name : String) (timeout : Duration) (v : Survey) : Pass PageCheck :=
  if v.found.isComplete then .finished (.ok ⟨v.found.missing, v.screen.map Node.describe⟩)
  else .unfinished (.pageMissing name timeout v.found.missing)

/-- A check that can read its page answers with what its pass found, and stores it. -/
theorem check_eq {n : Nat} {xs : List Expectation}
    (h : Expectation.ofElements (s.lookAt n).1 = .ok xs) :
    s.check n =
      (.ok ⟨(s.surveyOf n xs).found.missing, (s.surveyOf n xs).screen.map Node.describe⟩,
        { (s.lookAt n).2 with
          device := (s.device.snapshot (s.page n).application).2
          cache := s.cache.afterPass n (Element.identities (s.lookAt n).1)
            (s.surveyOf n xs).found.resolved
          captured := s.captured.record (s.surveyOf n xs).found.captures
          history := .survey (s.surveyOf n xs) :: s.history }) := by
  rw [check, resolve_of_ok h]
  rfl

/-- A check that can read its page answers with what its pass found, and the pass is the last
thing that happened. -/
theorem check_of_ok {n : Nat} {xs : List Expectation}
    (h : Expectation.ofElements (s.lookAt n).1 = .ok xs) :
    (s.check n).1 = .ok ⟨(s.surveyOf n xs).found.missing,
        (s.surveyOf n xs).screen.map Node.describe⟩ ∧
      (s.check n).2.history = .survey (s.surveyOf n xs) :: s.history := by
  rw [check_eq h]
  exact ⟨rfl, rfl⟩

/-- What a round answers by its check. -/
theorem existencePass_of_check {clear : InterruptionCheck} {n : Nat} {timeout : Duration}
    {v : Survey}
    (h : (clear s).2.check n = (.ok ⟨v.found.missing, v.screen.map Node.describe⟩, t)) :
    existencePass clear n timeout s = (roundAnswer (t.page n).name timeout v, t) := by
  rw [existencePass, roundAnswer]
  simp only [h]
  by_cases hcomplete : v.found.isComplete = true
  · rw [if_pos hcomplete]
    exact if_pos hcomplete
  · rw [if_neg hcomplete]
    exact if_neg hcomplete

/-- The pass over a page right after a check for interruptions in which no handler runs. -/
theorem visit_surveyOf {level n : Nat} {xs : List Expectation}
    (hquiet : (interruptions level s).1 = none)
    (hread : Expectation.ofElements ((interruptions level s).2.lookAt n).1 = .ok xs) :
    Visit level n s ((interruptions level s).2.surveyOf n xs) :=
  ⟨rfl, congrArg Page.application ((steady_interruptions level hquiet).page n), rfl,
    ⟨xs, hread, rfl⟩, (check_of_ok hread).2⟩

/-- **A round in which no handler runs makes one pass over the page**, and takes no time. -/
theorem exists_visit {level n : Nat} (timeout : Duration)
    (hquiet : (interruptions level s).1 = none)
    (hreads : ∃ xs, Expectation.ofElements (s.page n).body.elements = .ok xs) :
    ∃ v t, Visit level n s v ∧ Steady s t ∧
      existencePass (interruptions level) n timeout s
        = (roundAnswer (s.page n).name timeout v, t) := by
  have hsteady := steady_interruptions level hquiet
  obtain ⟨xs, hxs⟩ :=
    exists_ofElements_lookAt (s := (interruptions level s).2) (hsteady.page n ▸ hreads)
  have hround := hsteady.trans (steady_resolve n _)
  refine ⟨_, ((interruptions level s).2.check n).2, visit_surveyOf hquiet hxs, hround, ?_⟩
  rw [← hround.page n]
  exact existencePass_of_check (Prod.ext (check_of_ok hxs).1 rfl)

/-- A wait for a page with a number during which no handler runs: all rounds but the last make
the passes `earlier`, the last makes the pass `last`. -/
structure Awaited [Template.Engine] (level n : Nat) (timeout : Duration) (s : Session)
    (earlier : List Survey) (last : Survey) (r : Except Fault PageCheck × Session) : Prop where
  /-- The rounds are those of the wait; when it is over it is recorded. -/
  polled : ∃ t, Polled (existencePass (interruptions level) n timeout) (s.deadline timeout) s
      (s.waitingRounds (existencePass (interruptions level) n timeout) timeout) (r.1, t) ∧
    r.2 = t.log (.waitForExistence (s.page n).name timeout.logged) s.clock r.1
  /-- Each round makes one pass over the page. -/
  visits : List.Forall₂ (Visit level n)
    (s.waitingRounds (existencePass (interruptions level) n timeout) timeout) (earlier ++ [last])
  /-- The rounds begin after no, one, two, … intervals. -/
  times : (s.waitingRounds (existencePass (interruptions level) n timeout) timeout).map
    Session.instant
      = (List.range (earlier.length + 1)).map fun k => s.instant + k * s.interval
  /-- The wait is over right after its last pass. -/
  instant : r.2.instant = s.instant + earlier.length * s.interval
  /-- No pass but the last finds the page. -/
  absent : ∀ v ∈ earlier, v.found.isComplete = false
  /-- No pass is made after the first at or behind the deadline. -/
  bound : earlier.length ≤ s.intervals timeout
  /-- If the last pass finds the page, the wait succeeds. -/
  shown : last.found.isComplete = true → r.1 = .ok ⟨[], last.screen.map Node.describe⟩
  /-- If it does not, it is the first at or behind the deadline, and the wait fails with what is
  missing. -/
  missing : last.found.isComplete = false →
    earlier.length = s.intervals timeout ∧
      r.1 = .error (.pageMissing (s.page n).name timeout last.found.missing)
  /-- A wait that fails has lasted for its time, and for less than an interval more. -/
  lasted : ∀ f, r.1 = .error f → s.deadline timeout ≤ r.2.instant ∧
    r.2.instant < s.deadline timeout + s.interval

/-- **The timetable of a wait for a page during which no handler runs.** -/
theorem Polled.exists_visits {level n deadline : Nat} {timeout : Duration} {rs : List Session}
    {r : Except Fault PageCheck × Session}
    (h : Polled (existencePass (interruptions level) n timeout) deadline s rs r)
    (hquiet : ∀ u ∈ rs, (interruptions level u).1 = none)
    (hreads : ∃ xs, Expectation.ofElements (s.page n).body.elements = .ok xs) :
    ∃ earlier last, Timetable (Visit level n) (roundAnswer (s.page n).name timeout) deadline s rs
      earlier last r := by
  -- the page is the same in all rounds
  refine h.exists_timetable (P := fun u => u.page n = s.page n) ?_ rfl
  intro u hu hpage
  obtain ⟨v, t, hvisit, hsteady, hanswer⟩ := exists_visit timeout (hquiet u hu) (hpage ▸ hreads)
  exact ⟨v, t, hvisit, hsteady, hpage ▸ hanswer, fun _ => (hsteady.page n).trans hpage⟩

end

/-- A session that watches for system alerts, while the screen of the application comes up only
after two and a half seconds; the first call for a screen fails. -/
def lateScreen : Session :=
  let total : Element := ⟨.declared 1, .staticText, none, some "Total", none, []⟩
  let s := start {} { failures := [(.snapshot, ⟨.timeout, some 1⟩)] }
    [{ name := "Checkout", bodies := [⟨[total], []⟩] }] 2
  { s with schedule := [(2500, none, some Resolution.sampleScreen)] }

/-- How long the sample session waits. -/
def lateLimit : Duration := .ofMillis 2500

end ScreenPages.Session
