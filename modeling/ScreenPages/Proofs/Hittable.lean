import ScreenPages.Proofs.Ownership

/-!
# Waiting until an element can be tapped

Each round of a wait for an element makes a pass over the page that owns the element.  If the owner
declares the element, so does the owner in all later rounds, and the wait goes on to the first round
that finds the element and can tap it, or until the time is up.

If the owner has come to declare other elements, the first round does not find the element, as it
should not, but its pass also takes the element from the cache; and the second round fails because
the element seems never to have been checked, however much time is left.

## Main definitions

* `Session.Trial`, `Session.Tried` — what a round finds.
* `Session.Sustained` — the page that owns the element declares it.
* `Session.Pursued` — a wait that goes on until the element can be tapped or the time is up.

## Main results

* `Session.hittablePass_of_owner` — what a round does.
* `Session.Ready.round` — a round leaves all ready for the next one.
* `Session.waitUntilHittable_pursued` — a wait during which no handler runs.
* `Session.not_forall_waitUntilHittable_pursued` — it may fail before the time is up.
-/

namespace ScreenPages.Session

variable {s t : Session} {n level : Nat} {i : Identity} {e : Element}

section

variable {engine : Template.Engine}

/-! ### One round -/

/-- One try of a wait: a pass over a page, and the device right after it. -/
structure Trial where
  survey : Survey
  device : Device

/-- Whether a try succeeds: the pass finds the element, and its node can be tapped. -/
def Trial.hits (x : Trial) (i : Identity) : Bool :=
  (x.survey.found.location i).any fun l =>
    (x.device.isHittable (.ofLocation x.survey.application l)).1.toOption == some true

/-- The try that a pass over a page makes. -/
def trialOf [Template.Engine] (s : Session) (n : Nat) (xs : List Expectation) : Trial :=
  ⟨s.surveyOf n xs, (s.resolve n).2.device⟩

/-- The try that a round makes right after its check for interruptions. -/
structure Tried [Template.Engine] (level : Nat) (e : Element) (s : Session) (x : Trial) : Prop where
  /-- It is a pass over the page that owns the element. -/
  owner : (interruptions level s).2.owner e.identity = some x.survey.page
  visit : Visit level x.survey.page s x.survey
  device : x.device = ((interruptions level s).2.resolve x.survey.page).2.device

/-- What a round answers that made this try. -/
def tryAnswer (e : Element) (timeout : Duration) (x : Trial) : Pass Unit :=
  if x.hits e.identity then .finished (.ok ()) else .unfinished (.notHittable e.text timeout)

theorem tryAnswer_of_hits {x : Trial} (h : x.hits e.identity = true) (timeout : Duration) :
    tryAnswer e timeout x = .finished (.ok ()) := if_pos h

theorem tryAnswer_of_misses {x : Trial} (h : x.hits e.identity = false) (timeout : Duration) :
    tryAnswer e timeout x = .unfinished (.notHittable e.text timeout) := by
  rw [tryAnswer, h]
  rfl

/-- The device does not fail when it is asked whether the element can be tapped. -/
def Answered [Template.Engine] (level : Nat) (e : Element) (s : Session) : Prop :=
  ∀ f, (s.isHittable (interruptions level) e).1 ≠ .error (.device f)

instance [Template.Engine] (level : Nat) (e : Element) (s : Session) :
    Decidable (s.Answered level e) :=
  match h : (s.isHittable (interruptions level) e).1 with
  | .error (.device f) => .isFalse fun hanswered => hanswered f h
  | .ok _ => .isTrue fun _ hf => by rw [h] at hf; cases hf
  | .error (.template _) | .error (.pageMissing ..) | .error (.notChecked _)
  | .error (.unresolved ..) | .error (.dynamicElement _) | .error (.notHittable ..) =>
    .isTrue fun _ hf => by rw [h] at hf; cases hf

/-- What locating an element says that a page owns. -/
theorem locate_of_owner {xs : List Expectation} (hi : e.identity ≠ .dynamic)
    (howner : s.owner e.identity = some n)
    (hread : Expectation.ofElements (s.lookAt n).1 = .ok xs) :
    s.locate e = (match (s.surveyOf n xs).found.location e.identity with
      | none => .error (.unresolved e.text (s.page n).name)
      | some l => .ok (.ofLocation (s.page n).application l), (s.resolve n).2) := by
  obtain ⟨entry, hentry, rfl⟩ := Option.map_eq_some_iff.mp howner
  have hstatic : e.isDynamic = false := by simpa [Element.isDynamic] using hi
  have hpage : (s.resolve entry.page).2.page entry.page = s.page entry.page :=
    (steady_resolve _ s).page _
  rw [resolve_of_ok hread] at hpage
  rw [locate, hstatic]
  simp only [Bool.false_eq_true, if_false, hentry, resolve_of_ok hread, hpage]
  cases (s.surveyOf entry.page xs).found.location e.identity with
  | none => rfl
  | some l => rfl

/-- An element without an owner counts as not checked. -/
theorem hittablePass_of_owner_eq_none (timeout : Duration) (hi : e.identity ≠ .dynamic)
    (hnone : (interruptions level s).2.owner e.identity = none) :
    hittablePass (interruptions level) e timeout s
      = (.finished (.error (.notChecked e.text)), (interruptions level s).2) := by
  have hget := Option.map_eq_none_iff.mp hnone
  have hstatic : e.isDynamic = false := by simpa [Element.isDynamic] using hi
  rw [hittablePass]
  simp only [locate, hstatic, hget, Bool.false_eq_true, if_false]

/-- What a round leaves behind that makes its try over a page: what the pass right after its check
for interruptions does, with the device as it is in the end. -/
def afterTry [Template.Engine] (level n : Nat) (device : Device) (s : Session) : Session :=
  { ((interruptions level s).2.resolve n).2 with device }

/-- A round in which no handler runs is steady. -/
theorem steady_afterTry (hquiet : (interruptions level s).1 = none) (n : Nat) (device : Device) :
    Steady s (s.afterTry level n device) := by
  have hpass := (steady_interruptions level hquiet).trans (steady_resolve n _)
  exact ⟨hpass.clock, hpass.settings, hpass.pages, hpass.monitors, hpass.nextIdentity⟩

/-- **A round makes its try over the page that owns the element.** -/
theorem hittablePass_of_owner (timeout : Duration) {xs : List Expectation}
    (hi : e.identity ≠ .dynamic)
    (howner : (interruptions level s).2.owner e.identity = some n)
    (hread : Expectation.ofElements ((interruptions level s).2.lookAt n).1 = .ok xs)
    (hcalls : s.Answered level e) :
    ∃ device, hittablePass (interruptions level) e timeout s
      = (tryAnswer e timeout ((interruptions level s).2.trialOf n xs),
        s.afterTry level n device) := by
  rw [Answered, isHittable] at hcalls
  rw [hittablePass, tryAnswer, Trial.hits, trialOf]
  simp only [locate_of_owner hi howner hread] at hcalls ⊢
  cases hfound : ((interruptions level s).2.surveyOf n xs).found.location e.identity with
  | none => exact ⟨_, rfl⟩
  | some l =>
    have happlication : ((interruptions level s).2.surveyOf n xs).application
        = ((interruptions level s).2.page n).application := rfl
    simp only [hfound, call, happlication, Option.any_some] at hcalls ⊢
    generalize ((interruptions level s).2.resolve n).2.device.isHittable
      (.ofLocation ((interruptions level s).2.page n).application l) = answer at hcalls ⊢
    obtain ⟨answer, device⟩ := answer
    refine ⟨device, ?_⟩
    cases answer with
    | error f => exact absurd rfl (hcalls f)
    | ok b =>
      cases b with
      | false => rfl
      | true => rfl

/-- A round makes a try by a pass over the page that owns the element. -/
theorem tried_trialOf {xs : List Expectation} (hquiet : (interruptions level s).1 = none)
    (howner : (interruptions level s).2.owner e.identity = some n)
    (hread : Expectation.ofElements ((interruptions level s).2.lookAt n).1 = .ok xs) :
    Tried level e s ((interruptions level s).2.trialOf n xs) :=
  ⟨howner, visit_surveyOf hquiet hread, rfl⟩

/-- A pass over a page that does not declare an identity does not find it. -/
theorem hits_trialOf_of_not_kept {xs : List Expectation} (hi : s.Given i)
    (hread : Expectation.ofElements (s.lookAt n).1 = .ok xs)
    (hkept : i ∉ (s.page n).body.kept) : (s.trialOf n xs).hits i = false := by
  have hgenuine : (s.surveyOf n xs).Genuine := ⟨xs, hread, rfl⟩
  have hnone : (s.surveyOf n xs).found.location i = none := by
    rw [Resolution.location, Option.map_eq_none_iff, List.find?_eq_none]
    intro f hf hidentity
    rw [beq_iff_eq] at hidentity
    exact hkept ((hi.mem_lookAt_iff n).mp (hidentity ▸ hgenuine.mem_identities hf))
  rw [Trial.hits, trialOf, hnone, Option.any_none]

/-! ### The whole wait -/

/-- What is known of a session in which a round begins: the element has an owner when the monitors
have been looked for, and unless the time is up by then, the owner declares the element. -/
structure Ready [Template.Engine] (level : Nat) (e : Element) (deadline : Nat) (s : Session) :
    Prop where
  settled : s.Settled
  owned : (interruptions level s).1 = none → ∃ n,
    (interruptions level s).2.owner e.identity = some n ∧ (interruptions level s).2.Readable n ∧
      (s.instant < deadline → (interruptions level s).2.Declares n e.identity)

/-- **A round makes its try, and leaves all ready for the next one.** -/
theorem Ready.round {timeout : Duration} {deadline : Nat} (h : Ready level e deadline s)
    (hquiet : (interruptions level s).1 = none) (hcalls : s.Answered level e) :
    ∃ x t, Tried level e s x ∧ Steady s t ∧
      hittablePass (interruptions level) e timeout s = (tryAnswer e timeout x, t) ∧
      (t.instant < deadline → Ready level e deadline (t.sleep t.settings.pollInterval)) := by
  have hs := h.settled.interruptions level
  obtain ⟨n, howner, hreads, hdeclares⟩ := h.owned hquiet
  have hi := hs.given howner
  obtain ⟨xs, hread⟩ := exists_ofElements_lookAt hreads
  obtain ⟨device, hpass⟩ := hittablePass_of_owner timeout hi.declared howner hread hcalls
  have hround := steady_afterTry hquiet n device
  refine ⟨_, _, tried_trialOf hquiet howner hread, hround, hpass, ?_⟩
  intro hearly
  generalize hnext : (s.afterTry level n device).sleep _ = t
  have hheld : t.Held e.identity :=
    hnext ▸ (hdeclares (hround.instant ▸ hearly)).held_resolve hs hi
  have hsettled : t.Settled := hnext ▸ (hs.resolve n).mono rfl rfl le_rfl
  refine ⟨hsettled, fun hquiet' => ?_⟩
  obtain ⟨m, hm, hdeclared⟩ := hheld.interruptions hsettled hquiet'
  exact ⟨m, hm, hdeclared.1, fun _ => hdeclared⟩

/-- **An element whose owner does not declare it has no owner in the next round.** -/
theorem owner_next_eq_none (hs : s.Settled) (hi : s.Given i)
    (hquiet : (interruptions level s).1 = none)
    (howner : (interruptions level s).2.owner i = some n)
    (hreads : (interruptions level s).2.Readable n)
    (hkept : i ∉ ((interruptions level s).2.page n).body.kept) {device : Device} {ms : Nat}
    (hnext : t = (s.afterTry level n device).sleep ms)
    (hquiet' : (interruptions level t).1 = none) : (interruptions level t).2.owner i = none := by
  have hs' := hs.interruptions level
  have hsteady := steady_afterTry hquiet n device
  -- a page of a monitor that declares it would own it by now
  have hnot := not_declares_of_not_held hs hi hquiet fun ⟨m, hm, hdeclares⟩ => by
    rw [howner, Option.some.injEq] at hm
    exact hkept (hm ▸ hdeclares.2)
  have hlooked : t.lookedFor level = s.lookedFor level := by
    have hmark : t.checking = s.checking := by
      rw [hnext]
      exact (checking_resolve n _).trans (checking_interruptions level s)
    have hmonitors : t.monitors = s.monitors := hnext ▸ hsteady.monitors
    rw [lookedFor, lookedFor, hmark, hmonitors]
  refine owner_interruptions_eq_none ?_ ?_ hquiet' ?_ ?_
  · exact hnext ▸ (hs'.resolve n).mono rfl rfl le_rfl
  · rw [hnext]
    exact ⟨hi.declared, hi.before.mono hsteady.nextIdentity⟩
  · rw [hlooked]
    intro m hm hdeclares
    rw [hnext] at hdeclares
    exact hnot m hm (hsteady.declares_iff.mp hdeclares)
  · have hgone : ((interruptions level s).2.resolve n).2.owner i = none := by
      rw [owner_resolve hs' (hs'.given howner) hreads, if_neg hkept, howner]
      simp [Option.filter]
    exact hnext ▸ hgone

/-- The states in which the rounds of a wait for an element begin that may take `timeout`. -/
def hittableRounds [Template.Engine] (level : Nat) (e : Element) (timeout : Duration)
    (s : Session) : List Session :=
  s.waitingRounds (hittablePass (interruptions level) e timeout) timeout

/-- When the monitors have been looked for a first time, a page owns the element, and if there is
any time to wait, this page declares it. -/
def Sustained [Template.Engine] (level : Nat) (e : Element) (timeout : Duration)
    (s : Session) : Prop :=
  ∃ n, (interruptions level s).2.owner e.identity = some n ∧
    (0 < timeout.nanos → (interruptions level s).2.Declares n e.identity)

/-- A wait for an element during which no handler runs, and which goes on until the element can be
tapped or the time is up: all rounds but the last make the tries `earlier`, the last makes the try
`last`. -/
structure Pursued [Template.Engine] (level : Nat) (e : Element) (timeout : Duration)
    (s : Session) (earlier : List Trial) (last : Trial) (r : Except Fault Unit × Session) :
    Prop where
  /-- The rounds are those of the wait; when it is over it is recorded. -/
  polled : ∃ t, Polled (hittablePass (interruptions level) e timeout) (s.deadline timeout) s
      (s.hittableRounds level e timeout) (r.1, t) ∧
    r.2 = t.log (.waitUntilHittable e.text timeout.logged) s.clock r.1
  /-- Each round makes one try. -/
  tries : List.Forall₂ (Tried level e) (s.hittableRounds level e timeout) (earlier ++ [last])
  /-- The rounds begin after no, one, two, … intervals. -/
  times : (s.hittableRounds level e timeout).map Session.instant
    = (List.range (earlier.length + 1)).map fun k => s.instant + k * s.interval
  /-- The wait is over right after its last try. -/
  instant : r.2.instant = s.instant + earlier.length * s.interval
  /-- No try but the last succeeds. -/
  failed : ∀ x ∈ earlier, x.hits e.identity = false
  /-- No try is made after the first at or behind the deadline. -/
  bound : earlier.length ≤ s.intervals timeout
  /-- If the last try succeeds, so does the wait. -/
  hit : last.hits e.identity = true → r.1 = .ok ()
  /-- If it does not, it is the first at or behind the deadline, and the wait fails. -/
  missed : last.hits e.identity = false →
    earlier.length = s.intervals timeout ∧
      r.1 = .error (.notHittable e.text timeout)
  /-- A wait that fails has lasted for its time, and for less than an interval more. -/
  lasted : ∀ f, r.1 = .error f → s.deadline timeout ≤ r.2.instant ∧
    r.2.instant < s.deadline timeout + s.interval

/-- **A wait for an element that is sustained goes on.** -/
theorem Polled.exists_tries {timeout : Duration} {deadline : Nat} {rs : List Session}
    {r : Except Fault Unit × Session}
    (h : Polled (hittablePass (interruptions level) e timeout) deadline s rs r)
    (hready : Ready level e deadline s) (hquiet : ∀ u ∈ rs, (interruptions level u).1 = none)
    (hcalls : ∀ u ∈ rs, u.Answered level e) :
    ∃ earlier last,
      Timetable (Tried level e) (tryAnswer e timeout) deadline s rs earlier last r :=
  h.exists_timetable (fun u hu hready => hready.round (hquiet u hu) (hcalls u hu)) hready

/-- **A wait for an element that is not sustained fails at once or in the second round**, as if
the element had not been checked. -/
theorem Polled.notChecked {timeout : Duration} {rs : List Session}
    {r : Except Fault Unit × Session}
    (h : Polled (hittablePass (interruptions level) e timeout) (s.deadline timeout) s rs r)
    (hs : s.Settled) (hi : s.Given e.identity)
    (hreads : (interruptions level s).2.OwnerReadable e.identity)
    (hnot : ¬ s.Sustained level e timeout) (hquiet : ∀ u ∈ rs, (interruptions level u).1 = none)
    (hcalls : ∀ u ∈ rs, u.Answered level e) :
    r.1 = .error (.notChecked e.text) ∧ r.2.clock = s.clock +
      if ((interruptions level s).2.owner e.identity).isSome then s.settings.pollInterval
      else 0 := by
  have hfirst := hquiet s h.mem
  cases howner : (interruptions level s).2.owner e.identity with
  | none =>
    rw [h.eq_of_finished (hittablePass_of_owner_eq_none timeout hi.declared howner)]
    exact ⟨rfl, (steady_interruptions level hfirst).clock⟩
  | some n =>
    -- there is time for a second round, and the owner does not declare the element
    have hlost : 0 < timeout.nanos ∧ ¬ (interruptions level s).2.Declares n e.identity := by
      by_contra hcontra
      exact hnot ⟨n, howner, fun htime => by_contra fun hd => hcontra ⟨htime, hd⟩⟩
    have hkept : e.identity ∉ ((interruptions level s).2.page n).body.kept :=
      fun hmem => hlost.2 ⟨hreads n howner, hmem⟩
    obtain ⟨xs, hread⟩ := exists_ofElements_lookAt (hreads n howner)
    obtain ⟨device, hpass⟩ := hittablePass_of_owner timeout hi.declared howner hread
      (hcalls s h.mem)
    have hround := steady_afterTry hfirst n device
    have hi' := (hs.interruptions level).given howner
    rw [tryAnswer_of_misses (hits_trialOf_of_not_kept hi' hread hkept)] at hpass
    obtain ⟨rs', rfl, hrest⟩ :=
      h.exists_of_unfinished hpass (by rw [hround.instant, deadline]; omega)
    have hsecond := hquiet _ (List.mem_cons_of_mem s hrest.mem)
    have hgone := owner_next_eq_none hs hi hfirst howner (hreads n howner) hkept rfl hsecond
    rw [hrest.eq_of_finished (hittablePass_of_owner_eq_none timeout hi.declared hgone)]
    refine ⟨rfl, (steady_interruptions level hsecond).clock.trans ?_⟩
    rw [← hround.clock, ← hround.settings]
    rfl

/-- **A wait for an element ends with the first round that finds it and can tap it, and is not
given up before the time is up, if the page that owns the element declares it.**  If the page does
not, the element has no owner any more in the second round, and the wait fails as if it had never
been checked.  On a clock that does not keep the time of the wait there is no wait at all. -/
theorem waitUntilHittable_pursued (level : Nat) (e : Element) (timeout : Option Duration)
    {limit : Duration} (hlimit : s.timeLimit timeout = limit) (hs : s.Settled)
    (hinterval : 0 < s.settings.pollInterval)
    (howner : ∃ n, s.owner e.identity = some n ∧ s.Readable n)
    (hquiet : ∀ u ∈ s.hittableRounds level e limit, (interruptions level u).1 = none)
    (hcalls : ∀ u ∈ s.hittableRounds level e limit, u.Answered level e) :
    (s.KeepsTime limit → s.Sustained level e limit → ∃ earlier last r,
      s.waitUntilHittable (interruptions level) e timeout = (some r.1, r.2) ∧
        Pursued level e limit s earlier last r) ∧
    (s.KeepsTime limit → ¬ s.Sustained level e limit → ∃ t,
      s.waitUntilHittable (interruptions level) e timeout
          = (some (.error (.notChecked e.text)), t) ∧
        t.clock = s.clock +
          if ((interruptions level s).2.owner e.identity).isSome then s.settings.pollInterval
          else 0) ∧
    (¬ s.KeepsTime limit → s.waitUntilHittable (interruptions level) e timeout
      = (none, { s with panicked := true })) := by
  rw [waitUntilHittable, hlimit]
  have honward : ∀ s, Onward s (hittablePass (interruptions level) e limit s).2 := fun s =>
    (Moves.steps (interruptions_steps level) (hittablePass_moves e limit s)).onward
  obtain ⟨n₀, howner₀, hreads₀⟩ := howner
  have hi := hs.given howner₀
  have hreads (hfirst : (interruptions level s).1 = none) :
      (interruptions level s).2.OwnerReadable e.identity := by
    refine OwnerReadable.interruptions ?_ hs hi hfirst
    intro n hn
    rw [howner₀, Option.some.injEq] at hn
    exact hn ▸ hreads₀
  refine ⟨?_, ?_, fun hclock => waitFor_of_not_keepsTime hclock _ _⟩
  · rintro hclock ⟨n, hn, hdeclares⟩
    obtain ⟨result, t, hwait, hpolled⟩ := waitFor_polled honward
      (.waitUntilHittable e.text limit.logged) hclock hinterval
    have hready : Ready level e (s.deadline limit) s := by
      refine ⟨hs, fun hfirst => ⟨n, hn, hreads hfirst n hn, fun hearly => hdeclares ?_⟩⟩
      rw [deadline] at hearly
      omega
    obtain ⟨earlier, last, htimes⟩ := hpolled.exists_tries hready hquiet hcalls
    have hmissed : last.hits e.identity = false → s.deadline limit ≤ t.instant ∧
        result = .error (.notHittable e.text limit) :=
      fun hlast => htimes.timeUp _ (tryAnswer_of_misses hlast limit)
    have hhit : last.hits e.identity = true → result = .ok () :=
      fun hlast => htimes.finished _ (tryAnswer_of_hits hlast limit)
    refine ⟨earlier, last, (result, t.log _ s.clock result), hwait, ⟨t, hpolled, rfl⟩,
      htimes.rounds, htimes.times, htimes.instant, ?_, htimes.length_le hinterval, hhit, ?_, ?_⟩
    · intro x hx
      obtain ⟨f, hf⟩ := htimes.undecided x hx
      by_contra hhits
      rw [tryAnswer_of_hits (Bool.eq_true_of_not_eq_false hhits)] at hf
      cases hf
    · intro hlast
      exact ⟨htimes.length_eq hinterval (hmissed hlast).1, (hmissed hlast).2⟩
    · rintro f rfl
      have hlast : last.hits e.identity = false := by
        by_contra hhits
        cases hhit (Bool.eq_true_of_not_eq_false hhits)
      exact ⟨(hmissed hlast).1, htimes.instant_lt hinterval⟩
  · intro hclock hnot
    obtain ⟨result, t, hwait, hpolled⟩ := waitFor_polled honward
      (.waitUntilHittable e.text limit.logged) hclock hinterval
    obtain ⟨rfl, htime⟩ := hpolled.notChecked hs hi (hreads (hquiet s hpolled.mem)) hnot hquiet
      hcalls
    exact ⟨_, hwait, htime⟩

end

/-- The button of the sample screen. -/
def tillButton : Element := ⟨.declared 2, .button, some "ok", some "OK", none, []⟩

/-- A page with a text and this button, of which another body has the text only. -/
def tillPage : Page :=
  let total : Element := ⟨.declared 1, .staticText, none, some "Total", none, []⟩
  { name := "Till", bodies := [⟨[total, tillButton], []⟩, ⟨[total], []⟩] }

/-- A session that knows the page. -/
def tillStart : Session := start {} {} [tillPage] 3

/-- The page was checked, and its screen will come up after two and a half seconds. -/
def tillRun : Session :=
  (tillStart.executeAll [.check 0, .schedule 2500 none (some Resolution.sampleScreen)]).2

theorem settled_executeAll_tillStart (cs : List Command) :
    (tillStart.executeAll cs).2.Settled := by
  have hpages : ∀ p ∈ [tillPage], ∀ b ∈ p.bodies, ∀ i ∈ Element.identities b.elements,
      i.Before 3 := by decide
  rw [tillStart, start]
  exact settled_of_steps hpages (executeAll_steps _ cs)

/-- How long the sample session waits for the button. -/
def tillLimit : Duration := .ofMillis 2500

/-- The wait for the button goes on until the end of the interval in which the screen comes up. -/
theorem waitUntilHittable_pursued_till :
    ∃ earlier last r, tillRun.waitUntilHittable (interruptions 2) tillButton (some tillLimit)
        = (some r.1, r.2) ∧ Pursued 2 tillButton tillLimit tillRun earlier last r ∧
      earlier.length = 3 ∧ last.hits (.declared 2) = true := by
  have hsustained : tillRun.Sustained 2 tillButton tillLimit :=
    ⟨0, by decide +kernel, fun _ => by decide +kernel⟩
  obtain ⟨earlier, last, r, hwait, h⟩ := (waitUntilHittable_pursued 2 tillButton (some tillLimit)
    (s := tillRun) rfl (settled_executeAll_tillStart _) (by decide +kernel)
    ⟨0, by decide +kernel, by decide +kernel⟩ (by decide +kernel) (by decide +kernel)).1
    (by decide +kernel) hsustained
  have hinstant : (tillRun.waitUntilHittable (interruptions 2) tillButton
      (some tillLimit)).2.instant = 3000000000 := by decide +kernel
  have hok : ((tillRun.waitUntilHittable (interruptions 2) tillButton (some tillLimit)).1.any
      Except.isOk) = true := by decide +kernel
  rw [hwait] at hinstant hok
  refine ⟨earlier, last, r, hwait, h, ?_, ?_⟩
  · have hstart : tillRun.instant = 0 ∧ tillRun.interval = 1000000000 := by decide +kernel
    have htime := h.instant.symm.trans hinstant
    rw [hstart.1, hstart.2] at htime
    omega
  · by_contra hmissed
    have hfails := (h.missed (Bool.eq_false_of_not_eq_true hmissed)).2
    rw [hfails] at hok
    cases hok

/-- The page was checked, and then it lost the button. -/
def soldOutRun : Session := (tillStart.executeAll [.check 0, .setBody 0 1]).2

/-- **A wait for an element may fail before the time is up**, though the clock keeps this time, the
element was checked, no handler runs and no call fails.  The wait for the button that the page has
lost is over after one of two seconds. -/
theorem not_forall_waitUntilHittable_pursued : ¬ ∀ (s : Session) (e : Element) (level : Nat)
    (timeout : Duration), s.Settled → 0 < s.settings.pollInterval → s.KeepsTime timeout →
    (∃ n, s.owner e.identity = some n ∧ s.Readable n) →
    (∀ u ∈ s.hittableRounds level e timeout, (interruptions level u).1 = none) →
    (∀ u ∈ s.hittableRounds level e timeout, u.Answered level e) →
    ∃ earlier last r, s.waitUntilHittable (interruptions level) e (some timeout) = (some r.1, r.2) ∧
      Pursued level e timeout s earlier last r := by
  intro hall
  obtain ⟨earlier, last, r, hwait, h⟩ := hall soldOutRun tillButton 2 (.ofMillis 2000)
    (settled_executeAll_tillStart _) (by decide +kernel) (by decide +kernel)
    ⟨0, by decide +kernel, by decide +kernel⟩ (by decide +kernel) (by decide +kernel)
  have hinstant : (soldOutRun.waitUntilHittable (interruptions 2) tillButton
      (some (.ofMillis 2000))).2.instant = 1000000000 := by decide +kernel
  have hfails : ((soldOutRun.waitUntilHittable (interruptions 2) tillButton
      (some (.ofMillis 2000))).1.any Except.isOk) = false := by decide +kernel
  have hdeadline : soldOutRun.deadline (.ofMillis 2000) = 2000000000 := by decide +kernel
  rw [hwait] at hinstant hfails
  obtain ⟨result, t⟩ := r
  cases result with
  | ok _ => cases hfails
  | error f =>
    have hlasted := (h.lasted f rfl).1
    simp only at hinstant
    rw [hinstant, hdeadline] at hlasted
    omega

end ScreenPages.Session
