import ScreenPages.Proofs.Conduct
import ScreenPages.Proofs.Polling

/-!
# Waiting for a frame to settle

Before its first gesture a tap, or the typing of a text, looks at the frame of its node until it
has settled.  The looks are an interval apart.  The waiting is over with the first look that shows
no frame, or the same frame as the look before, or that comes when the time is up.  What the
looks show is not foreseen: between any two of them the screens may change, and calls may fail.

So all there is to say about such a wait is said by the states in which the looks would be taken
if they went on for ever: the wait ends in the first of them that is calm.

## Main definitions

* `Session.look` — the frame that is seen in a state, if one is.
* `Session.beforeLook` — the states before the looks at a frame, as if they went on for ever.
* `Session.Calm` — a look with which the waiting is over.
* `Session.Waited` — what an interaction does that waits.

## Main results

* `Session.clock_beforeLook`, `Session.attempted_beforeLook` — when the looks are taken.
* `Session.waitUntilStable_eq` — the waiting ends with the first look that is calm.
* `Session.run_calm` — when an interaction that waits makes its gestures.
-/

namespace ScreenPages.Session

variable {q : Query} {s t u : Session}

section

variable {engine : Template.Engine}

/-! ### Looks at a frame -/

/-- The frame that is seen in a state, if one is: there may be none, or the look may fail. -/
def look (q : Query) (s : Session) : Option Frame := (s.device.frame q).1.toOption.join

/-- The state after a look at a frame. -/
def looked (q : Query) (s : Session) : Session := (s.call fun d => d.frame q).2

/-- A look at a frame and the sleep before the next look. -/
def lookOn (q : Query) (s : Session) : Session :=
  (looked q s).sleep s.settings.stablePollInterval

/-- The state before the `k`-th look at a frame, counted from zero, if looks go on for ever. -/
def beforeLook (q : Query) (s : Session) (k : Nat) : Session := (lookOn q)^[k] s

@[simp] theorem beforeLook_zero (q : Query) (s : Session) : beforeLook q s 0 = s := rfl

theorem beforeLook_succ (q : Query) (s : Session) (k : Nat) :
    beforeLook q s (k + 1) = beforeLook q (lookOn q s) k := rfl

theorem beforeLook_succ' (q : Query) (s : Session) (k : Nat) :
    beforeLook q s (k + 1) = lookOn q (beforeLook q s k) :=
  Function.iterate_succ_apply' (lookOn q) k s

@[simp] theorem settings_beforeLook (q : Query) (s : Session) (k : Nat) :
    (beforeLook q s k).settings = s.settings := by
  induction k with
  | zero => rfl
  | succ k ih =>
    rw [beforeLook_succ']
    exact ih

/-- **The looks are taken an interval apart.** -/
theorem clock_beforeLook (q : Query) (s : Session) (k : Nat) :
    (beforeLook q s k).clock = s.clock + k * s.settings.stablePollInterval := by
  induction k with
  | zero => simp
  | succ k ih =>
    have hclock : (lookOn q (beforeLook q s k)).clock
        = (beforeLook q s k).clock + (beforeLook q s k).settings.stablePollInterval := rfl
    rw [beforeLook_succ', hclock, ih, settings_beforeLook, Nat.succ_mul, Nat.add_assoc]

/-- **Between two looks there are no other calls.** -/
theorem attempted_beforeLook (q : Query) (s : Session) (k : Nat) :
    (beforeLook q s k).attempted = s.attempted ++ List.replicate k (.frame q) := by
  induction k with
  | zero => simp
  | succ k ih =>
    have hlook : (lookOn q (beforeLook q s k)).attempted
        = (beforeLook q s k).attempted ++ [.frame q] := attempted_frame q _
    rw [beforeLook_succ', hlook, ih, List.append_assoc, List.replicate_succ']

/-! ### Calm looks -/

/-- Two looks in a row show the same frame. -/
def SameFrame (before after : Option Frame) : Prop :=
  ∃ f g, before = some f ∧ after = some g ∧ (g == f) = true

/-- The waiting is over with the `k`-th look, counted from zero: no frame is seen, or the same as
by the look before, or the deadline is not before it. -/
def Ends (q : Query) (deadline : Nat) (s : Session) (k : Nat) : Prop :=
  look q (beforeLook q s k) = none ∨ deadline ≤ (beforeLook q s k).clock ∨
    ∃ j, k = j + 1 ∧ SameFrame (look q (beforeLook q s j)) (look q (beforeLook q s k))

/-- Unless the second look shows the same frame as the first, the waiting is over with a later
look exactly if it were when it began with the second. -/
theorem ends_succ_iff {deadline k : Nat} (h : ¬ SameFrame (look q s) (look q (lookOn q s))) :
    Ends q deadline s (k + 1) ↔ Ends q deadline (lookOn q s) k := by
  unfold Ends
  rw [← beforeLook_succ]
  refine or_congr_right (or_congr_right ?_)
  constructor
  · rintro ⟨j, hj, hsame⟩
    obtain rfl := Nat.succ.inj hj
    cases k with
    | zero => exact absurd hsame h
    | succ k => exact ⟨k, rfl, hsame⟩
  · rintro ⟨j, rfl, hsame⟩
    exact ⟨j + 1, rfl, hsame⟩

/-- What comes first may be first of all. -/
theorem isLeast_zero {P : Nat → Prop} (h : P 0) : IsLeast {k | P k} 0 :=
  ⟨h, fun _ _ => Nat.zero_le _⟩

/-- What comes first after the beginning, if not there. -/
theorem isLeast_succ {P : Nat → Prop} {k : Nat} (h : ¬ P 0) (hk : IsLeast {k | P (k + 1)} k) :
    IsLeast {k | P k} (k + 1) := by
  refine ⟨hk.1, ?_⟩
  intro j hj
  cases j with
  | zero => exact absurd hj h
  | succ j => exact Nat.succ_le_succ (hk.2 hj)

/-! ### The looks of a session -/

/-- What is done about the frame that is looked for after one was seen. -/
theorem settle_succ (deadline fuel : Nat) (last : Frame) :
    settle q deadline (fuel + 1) last (looked q s) =
      if deadline ≤ s.clock then looked q s
      else match look q (lookOn q s) with
        | some f =>
          if f == last then looked q (lookOn q s)
          else settle q deadline fuel f (looked q (lookOn q s))
        | none => looked q (lookOn q s) := by
  have hclock : (looked q s).clock = s.clock := rfl
  have hsleep : (looked q s).sleep (looked q s).settings.stablePollInterval = lookOn q s := rfl
  rw [settle, hclock, hsleep, look]
  simp only [call, looked]
  cases (lookOn q s).device.frame q with
  | mk answer device => rcases answer with f | _ | f <;> rfl

/-- What is done about the first look. -/
theorem waitUntilStable_eq_settle (q : Query) (s : Session) :
    s.waitUntilStable q = match look q s with
      | some f => settle q (s.clock + s.settings.stableTimeout)
          (s.settings.stableTimeout / max s.settings.stablePollInterval 1 + 1) f (looked q s)
      | none => looked q s := by
  rw [waitUntilStable, look]
  simp only [call, looked]
  cases s.device.frame q with
  | mk answer device => rcases answer with f | _ | f <;> rfl

/-- **Looking at a frame again and again ends with the first look with which it may**, if the looks
that are allowed reach the deadline. -/
theorem settle_eq {last : Frame} {deadline : Nat} (fuel : Nat) (hlast : look q s = some last)
    (hfuel : deadline ≤ s.clock + fuel * s.settings.stablePollInterval) :
    ∃ k, IsLeast {k | Ends q deadline s k} k ∧
      settle q deadline fuel last (looked q s) = looked q (beforeLook q s k) := by
  induction fuel generalizing s last with
  | zero =>
    have hlate : deadline ≤ s.clock := by simpa using hfuel
    exact ⟨0, isLeast_zero (.inr (.inl hlate)), rfl⟩
  | succ fuel ih =>
    rw [settle_succ]
    by_cases hlate : deadline ≤ s.clock
    · exact ⟨0, isLeast_zero (.inr (.inl hlate)), if_pos hlate⟩
    · -- the look shows a frame in time, so the next one decides
      have hfirst : ¬ Ends q deadline s 0 := by
        rintro (hnone | hdeadline | ⟨j, hj, -⟩)
        · rw [beforeLook_zero, hlast] at hnone
          cases hnone
        · exact hlate hdeadline
        · cases hj
      rw [if_neg hlate]
      cases hlook : look q (lookOn q s) with
      | none => exact ⟨1, isLeast_succ hfirst (isLeast_zero (.inl hlook)), rfl⟩
      | some f =>
        simp only
        by_cases hsame : (f == last) = true
        · rw [if_pos hsame]
          refine ⟨1, isLeast_succ hfirst (isLeast_zero ?_), rfl⟩
          exact .inr (.inr ⟨0, rfl, last, f, hlast, hlook, hsame⟩)
        · have hdiffers : ¬ SameFrame (look q s) (look q (lookOn q s)) := by
            rintro ⟨g, f', hg, hf, heq⟩
            rw [hlast] at hg
            rw [hlook] at hf
            cases hg
            cases hf
            exact hsame heq
          have hreach : deadline ≤ (lookOn q s).clock
              + fuel * (lookOn q s).settings.stablePollInterval := by
            have hclock := clock_beforeLook q s 1
            have hsettings := settings_beforeLook q s 1
            rw [beforeLook_succ, beforeLook_zero] at hclock hsettings
            rw [hclock, hsettings]
            rw [Nat.succ_mul] at hfuel
            omega
          obtain ⟨k, hk, hstate⟩ := ih hlook hreach
          rw [if_neg hsame]
          refine ⟨k + 1, isLeast_succ hfirst ?_, hstate⟩
          simpa only [ends_succ_iff hdiffers] using hk

/-! ### The whole wait -/

/-- The waiting is over with the `k`-th look, counted from zero: no frame is seen, or the same as
by the look before, or the time is up that the settings give. -/
def Calm (q : Query) (s : Session) (k : Nat) : Prop :=
  look q (beforeLook q s k) = none ∨
    s.settings.stableTimeout ≤ k * s.settings.stablePollInterval ∨
    ∃ j, k = j + 1 ∧ SameFrame (look q (beforeLook q s j)) (look q (beforeLook q s k))

theorem ends_iff_calm {k : Nat} :
    Ends q (s.clock + s.settings.stableTimeout) s k ↔ Calm q s k := by
  rw [Ends, Calm, clock_beforeLook, Nat.add_le_add_iff_left]

/-- **The waiting ends with the first look that is calm.** -/
theorem waitUntilStable_eq (hinterval : 0 < s.settings.stablePollInterval) :
    ∃ k, IsLeast {k | Calm q s k} k ∧ s.waitUntilStable q = looked q (beforeLook q s k) := by
  rw [waitUntilStable_eq_settle]
  cases hlook : look q s with
  | none => exact ⟨0, isLeast_zero (.inl hlook), rfl⟩
  | some f =>
    have hfuel : s.settings.stableTimeout ≤ (s.settings.stableTimeout
        / max s.settings.stablePollInterval 1 + 1) * s.settings.stablePollInterval := by
      rw [Nat.max_eq_left hinterval]
      exact le_div_succ_mul _ hinterval
    obtain ⟨k, hk, hstate⟩ := settle_eq _ hlook (Nat.add_le_add_left hfuel s.clock)
    exact ⟨k, by simpa only [ends_iff_calm] using hk, hstate⟩

/-- No more looks are taken than reach the time that the settings give. -/
theorem le_of_isLeast_calm {k : Nat} (hinterval : 0 < s.settings.stablePollInterval)
    (hk : IsLeast {k | Calm q s k} k) :
    k ≤ s.settings.stableTimeout ⌈/⌉ s.settings.stablePollInterval := by
  refine hk.2 (.inr (.inl ?_))
  have hceil := le_smul_ceilDiv (β := Nat) (b := s.settings.stableTimeout) hinterval
  rwa [smul_eq_mul, Nat.mul_comm] at hceil

/-- The waiting is over with the first look exactly if it shows no frame, or there is no time. -/
theorem calm_zero_iff : Calm q s 0 ↔ look q s = none ∨ s.settings.stableTimeout = 0 := by
  simp [Calm]

/-- What an interaction that waits before its gestures does after its element was located: it
looks at the frame, `k` times again, and then makes its gestures. -/
structure Waited (i : Interaction) (e : Element) (q : Query) (start : Nat) (s : Session) (k : Nat)
    (r : Except Fault Unit × Session) : Prop where
  /-- The last look is the first that is calm. -/
  calm : IsLeast {k | Calm q s k} k
  /-- There are no looks after the first exactly if it shows no frame, or there is no time. -/
  atOnce : k = 0 ↔ look q s = none ∨ s.settings.stableTimeout = 0
  /-- There is a sleep between any two looks, and not more of them than reach the time. -/
  bound : k ≤ s.settings.stableTimeout ⌈/⌉ s.settings.stablePollInterval
  /-- The looks are taken an interval apart. -/
  times : ∀ j, (beforeLook q s j).clock = s.clock + j * s.settings.stablePollInterval
  /-- Until the gestures there are no other calls. -/
  calls : (looked q (beforeLook q s k)).attempted
    = s.attempted ++ List.replicate (k + 1) (.frame q)
  /-- The gestures are made in turn, right after the last look, and for the query that the element
  was located with; then the interaction is recorded. -/
  gestures : ∃ result t made,
    (looked q (beforeLook q s k)).touchAll (i.action e) e q i.gestures = (result, t) ∧
      TouchedAll (i.action e) e q i.gestures (looked q (beforeLook q s k)) (result, t) made ∧
      r = (result, t.log (i.action e) start result)
  /-- The gestures take no time. -/
  clock : r.2.clock = s.clock + k * s.settings.stablePollInterval

/-- **When an interaction that waits makes its gestures.**  The frame of the node is looked at
when the element was located, and then after each interval, until a look is calm: it shows no
frame, or the same as the look before, or the time is up that the settings give.  Right after this
look the gestures are made for the query that the element was located with, whatever the screens
did in the meantime. -/
theorem run_calm {i : Interaction} (hsettles : i.settles = true) (level : Nat) {e : Element}
    {s t : Session} {q : Query} (hlocate : (interruptions level s).2.locate e = (.ok q, t))
    (hinterval : 0 < t.settings.stablePollInterval) :
    ∃ k, Waited i e q s.clock t k (i.run (interruptions level) e s) := by
  obtain ⟨k, hk, hwait⟩ := waitUntilStable_eq (q := q) hinterval
  have haim : i.aim q = q := by
    cases i with
    | tap => rfl
    | typeText text => rfl
    | _ => cases hsettles
  have hrun : i.run (interruptions level) e s =
      let r := (looked q (beforeLook q t k)).touchAll (i.action e) e q i.gestures
      (r.1, r.2.log (i.action e) s.clock r.1) := by
    rw [i.run_eq_interact, interact]
    simp only [hlocate, Interaction.perform, Interaction.approach, hsettles, if_true, hwait, haim]
  obtain ⟨made, hmade⟩ :=
    exists_touchedAll (i.action e) e q i.gestures (looked q (beforeLook q t k))
  refine ⟨k, hk, ?_, le_of_isLeast_calm hinterval hk, clock_beforeLook q t, ?_,
    ⟨_, _, made, rfl, hmade, hrun⟩, ?_⟩
  · rw [← calm_zero_iff]
    constructor
    · rintro rfl
      exact hk.1
    · exact fun hzero => Nat.le_zero.mp (hk.2 hzero)
  · rw [List.replicate_succ', ← List.append_assoc, ← attempted_beforeLook]
    exact attempted_frame q _
  · -- the gestures take no time
    have hgestures : ((looked q (beforeLook q t k)).touchAll (i.action e) e q i.gestures).2.clock
        = (looked q (beforeLook q t k)).clock := touchAll_keep (fun _ _ => rfl) _ _
    rw [hrun]
    exact hgestures.trans (clock_beforeLook q t k)

end

/-- A session with a button whose frame is gone after a twentieth of a second, before the screen
was a second time looked at. -/
def shakyRun (timeout : Nat) : Session :=
  let screen (frame : Option Frame) : Node :=
    ⟨{ kind := .application }, none, none,
      [⟨{ kind := .button, label := "Pay" }, frame, none, []⟩]⟩
  ((start { defaultMonitors := false, stableTimeout := timeout }
      { screens := [(none, screen (some ⟨0, 0, 40, 20⟩))] }
      [{ name := "Till", bodies := [⟨[⟨.declared 1, .button, none, some "Pay", none, []⟩], []⟩] }]
      2).executeAll [.check 0, .schedule 50 none (some (screen none))]).2

/-- The button of the sample. -/
def payButton : Element := ⟨.declared 1, .button, none, some "Pay", none, []⟩

/-- The element of the sample is located when it is to be tapped. -/
theorem exists_locate_shakyRun (timeout : Nat)
    (h : ((interruptions 2 (shakyRun timeout)).2.locate payButton).1.isOk = true) :
    ∃ q, (interruptions 2 (shakyRun timeout)).2.locate payButton
      = (.ok q, ((interruptions 2 (shakyRun timeout)).2.locate payButton).2) := by
  generalize (interruptions 2 (shakyRun timeout)).2.locate payButton = r at h ⊢
  obtain ⟨result, t⟩ := r
  cases result with
  | error f => cases h
  | ok q => exact ⟨q, rfl⟩

/-- In the sample the second look shows no frame, and the button is tapped long before the time
is up. -/
theorem run_calm_shaky :
    ∃ q k, Waited .tap payButton q 0 ((interruptions 2 (shakyRun 2000)).2.locate payButton).2 k
        (Interaction.tap.run (interruptions 2) payButton (shakyRun 2000)) ∧
      k = 1 ∧ (Interaction.tap.run (interruptions 2) payButton (shakyRun 2000)).1.isOk = true := by
  obtain ⟨q, hlocate⟩ := exists_locate_shakyRun 2000 (by decide +kernel)
  obtain ⟨k, hk⟩ := run_calm (i := .tap) rfl 2 hlocate (by decide +kernel)
  refine ⟨q, k, hk, ?_, by decide +kernel⟩
  have hclock := hk.clock
  have hend : (Interaction.tap.run (interruptions 2) payButton (shakyRun 2000)).2.clock = 100 := by
    decide +kernel
  have hstart : ((interruptions 2 (shakyRun 2000)).2.locate payButton).2.clock = 0 := by
    decide +kernel
  have hinterval :
      ((interruptions 2 (shakyRun 2000)).2.locate payButton).2.settings.stablePollInterval = 100 := by
    decide +kernel
  rw [hend, hstart, hinterval] at hclock
  omega

/-- **A frame that is seen is not always looked at again**: if the settings give no time for it,
the gestures are made right after the first look. -/
theorem not_forall_run_waits : ¬ ∀ (i : Interaction) (e : Element) (s t : Session) (q : Query),
    i.settles = true → (interruptions 2 s).2.locate e = (.ok q, t) →
      0 < t.settings.stablePollInterval → look q t ≠ none →
      ∃ k, 1 ≤ k ∧ (i.run (interruptions 2) e s).2.clock
        = t.clock + k * t.settings.stablePollInterval := by
  intro h
  obtain ⟨q, hlocate⟩ := exists_locate_shakyRun 0 (by decide +kernel)
  -- the first look shows a frame
  have hlook : (((interruptions 2 (shakyRun 0)).2.locate payButton).1.toOption.bind fun q =>
      look q ((interruptions 2 (shakyRun 0)).2.locate payButton).2).isSome = true := by
    decide +kernel
  have hanswer : ((interruptions 2 (shakyRun 0)).2.locate payButton).1 = .ok q := by rw [hlocate]
  rw [hanswer] at hlook
  have hseen := Option.ne_none_iff_isSome.mpr hlook
  obtain ⟨k, hk, hclock⟩ := h .tap payButton _ _ q rfl hlocate (by decide +kernel) hseen
  -- but the tap is made at the time of the location
  have hend : (Interaction.tap.run (interruptions 2) payButton (shakyRun 0)).2.clock = 0 := by
    decide +kernel
  have hstart : ((interruptions 2 (shakyRun 0)).2.locate payButton).2.clock = 0 := by
    decide +kernel
  have hinterval :
      ((interruptions 2 (shakyRun 0)).2.locate payButton).2.settings.stablePollInterval = 100 := by
    decide +kernel
  rw [hend, hstart, hinterval] at hclock
  omega

end ScreenPages.Session
