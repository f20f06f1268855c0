import ScreenPages.Proofs.Capturing
import ScreenPages.Proofs.Parallel
import ScreenPages.Proofs.Settled

/-!
# Quiet monitors

A check for interruptions makes a pass over each monitored page, and each pass leaves traces: it
enters the elements of the page in the cache, captures values even if the page is not there, and
gives identities to what the page declares anew.  As long as none of the pages is shown, this is
all that the monitors do.  So commands on elements that no monitored page has go on as if there
were no monitors: they answer the same, make the same calls besides those for screens, add the
same entries to the log, and leave the same in the cache and in the captured values as far as the
monitored pages have no part in it.

Identities that are given afterwards are given later than without monitors.

## Main definitions

* `Session.Watched`, `Session.WatchedVariable` — what the monitored pages have a part in.
* `Session.Shown`, `Session.IsQuiet` — a page is on the screen of its application, and no
  monitored page is.
* `Session.AlikeElsewhere` — two sessions are alike but for that.
* `Session.Undisturbed` — what passes over quiet monitored pages leave of a session.
* `Session.Unaffected` — a command goes on as if there were no monitors.

## Main results

* `Session.Undisturbed.resolve` — a pass over a monitored page does not disturb the session.
* `Session.Undisturbed.interruptions` — nor does a check for interruptions.
* `Session.run_of_isQuiet` — quiet monitors do not interfere with commands.
-/

namespace ScreenPages

/-! ### Screens that can be had -/

namespace Device

/-- A device that gives the screens of its applications when it is asked for them: none of these
calls is made to fail, and the screens do not change by themselves. -/
structure GivesScreens (d : Device) : Prop where
  unfailing : d.nextFailure .snapshot = none
  still : ∀ n ss, d.drift n ss = ss

variable {d d' : Device}

/-- A call for a screen answers with the screen. -/
theorem GivesScreens.toOption_snapshot (h : d.GivesScreens) (application : Option String) :
    (d.snapshot application).1.toOption = d.screens.get? application := by
  have hscreens : (d.reached (.snapshot application)).screens = d.screens := h.still _ _
  rw [snapshot, receive, Call.service, h.unfailing]
  simp only [hscreens]
  cases d.screens.get? application with
  | none => rfl
  | some tree => rfl

/-- A call for a screen changes nothing but the record of calls. -/
theorem snd_snapshot (h : d.nextFailure .snapshot = none) (application : Option String) :
    (d.snapshot application).2 = d.reached (.snapshot application) := by
  rw [snapshot, receive, Call.service, h]
  simp only
  split
  · rfl
  · rfl

/-- A call that reaches the device leaves the failures that await others. -/
theorem nextFailure_reached {k : Service} (h : d.nextFailure k = none) (c : Call) :
    (d.reached c).nextFailure k = none := by
  rw [nextFailure] at h ⊢
  simp only [reached] at h ⊢
  split at h <;> simp_all

/-- A device that gives its screens still gives the same ones after it was asked for one. -/
theorem GivesScreens.asked (h : d.GivesScreens) (application : Option String) :
    (d.snapshot application).2.GivesScreens ∧
      (d.snapshot application).2.screens = d.screens := by
  rw [snd_snapshot h.unfailing]
  exact ⟨⟨nextFailure_reached h.unfailing _, h.still⟩, h.still _ _⟩

/-- One device that was asked for one more screen is like another that was not. -/
theorem Alike.asked (h : Alike d d') (hfail : d.nextFailure .snapshot = none)
    (application : Option String) : Alike d (d'.snapshot application).2 := by
  have hfail' : d'.nextFailure .snapshot = none := by
    rcases h.nextFailure .snapshot with ⟨-, hnone⟩ | ⟨fault, e, e', hsome, -⟩
    · exact hnone
    · rw [hfail] at hsome
      cases hsome
  have hcall (calls : Array Call) :
      otherCalls (calls.push (.snapshot application)) = otherCalls calls := by
    rw [otherCalls_push]
    exact List.append_nil _
  rw [snd_snapshot hfail']
  exact
    { h with
      screens := (h.still' _ _).trans h.screens
      calls := (hcall _).trans h.calls
      attempts := (hcall _).trans h.attempts }

end Device

namespace Session

variable {s t u : Session} {n : Nat}

section

variable {engine : Template.Engine}

/-! ### Monitored pages -/

/-- An identity that a monitored page keeps, or that was last looked for with one. -/
def Watched (s : Session) (i : Identity) : Prop :=
  ∃ m ∈ s.monitors, i ∈ (s.page m.page).body.kept ∨
    (s.cache.get? i).map Cache.Entry.page = some m.page

instance (s : Session) (i : Identity) : Decidable (s.Watched i) :=
  inferInstanceAs (Decidable (∃ m ∈ s.monitors, i ∈ (s.page m.page).body.kept ∨
    (s.cache.get? i).map Cache.Entry.page = some m.page))

/-- A variable that a monitored page mentions. -/
def WatchedVariable [Template.Engine] (s : Session) (v : Variable) : Prop :=
  ∃ m ∈ s.monitors, Element.Mentions (s.page m.page).body.elements v

/-- The templates of a page can be read, and all of its elements are on the screen of its
application. -/
def Shown [Template.Engine] (s : Session) (n : Nat) : Prop :=
  ∃ xs, Expectation.ofElements (s.lookAt n).1 = .ok xs ∧
    (Resolution.ofPage xs (s.device.screens.get? (s.page n).application)).missing = []

instance [Template.Engine] (s : Session) (n : Nat) : Decidable (s.Shown n) :=
  match h : Expectation.ofElements (s.lookAt n).1 with
  | .error _ => .isFalse fun ⟨_, hread, _⟩ => by rw [h] at hread; cases hread
  | .ok xs =>
    decidable_of_iff
      ((Resolution.ofPage xs (s.device.screens.get? (s.page n).application)).missing.isEmpty = true)
      ⟨fun hempty => ⟨xs, h, List.isEmpty_iff.mp hempty⟩, fun ⟨ys, hread, hempty⟩ => by
        rw [h] at hread
        cases hread
        exact List.isEmpty_iff.mpr hempty⟩

/-- No monitored page is shown. -/
def IsQuiet [Template.Engine] (s : Session) : Prop := ∀ m ∈ s.monitors, ¬ s.Shown m.page

/-- A check tells whether the page is shown. -/
theorem isExisting_of_not_shown (hdevice : s.device.GivesScreens) (h : ¬ s.Shown n)
    {c : PageCheck} (hc : (s.check n).1 = .ok c) : c.isExisting = false := by
  rw [check] at hc
  cases hread : Expectation.ofElements (s.lookAt n).1 with
  | error a =>
    rw [resolve_of_error hread] at hc
    cases hc
  | ok xs =>
    rw [resolve_of_ok hread] at hc
    cases hc
    rw [PageCheck.isExisting, Bool.eq_false_iff]
    intro hempty
    refine h ⟨xs, hread, ?_⟩
    rw [← hdevice.toOption_snapshot]
    exact List.isEmpty_iff.mp hempty

/-- Two sessions go on alike but for what the monitored pages of a session have a part in, `d`
more identities having been given in the second since then. -/
abbrev AlikeElsewhere [Template.Engine] (s : Session) (d : Nat) (t u : Session) : Prop :=
  Alike s.nextIdentity d (fun i => ¬ s.Watched i) (fun v => ¬ s.WatchedVariable v) t u

/-! ### Passes over quiet pages -/

/-- What passes over the monitored pages of a session make of it: what it remembers of other
pages is the same, and what they give and remember was not there before. -/
structure Undisturbed [Template.Engine] (s u : Session) : Prop where
  alike : ∃ d, s.AlikeElsewhere d s u
  monitors : u.monitors = s.monitors
  cached : ∀ x ∈ u.cache.entries, x.1.Before u.nextIdentity

theorem Undisturbed.refl [Template.Engine] (hs : s.Settled) (hdevice : s.device.GivesScreens) :
    Undisturbed s s where
  alike := by
    refine ⟨0, rfl, rfl, rfl, rfl, rfl, .refl hdevice.still, rfl, Nat.le_refl _, hs.body,
      hs.proper, hs.proper, ?_, fun _ _ => rfl⟩
    intro i hi
    cases i with
    | dynamic => rfl
    | declared n =>
      rw [Identity.later, Nat.add_zero, ite_self]
  monitors := rfl
  cached := hs.cached

/-- Identities that were not given without the passes are remembered neither with nor without
them. -/
theorem get?_later_eq_of_before {d : Nat} (hs : s.Settled) {c : Cache} (hc : c.Proper)
    (hcached : ∀ x ∈ c.entries, x.1.Before (s.nextIdentity + d)) {i : Identity}
    (h : i.Before s.nextIdentity → c.get? i = s.cache.get? i) :
    c.get? (i.later s.nextIdentity d) = s.cache.get? i := by
  by_cases hi : i.Before s.nextIdentity
  · rw [Identity.later_of_before hi, h hi]
  · have hlater : ¬ (i.later s.nextIdentity d).Before (s.nextIdentity + d) := by
      cases i with
      | dynamic => exact absurd trivial hi
      | declared k =>
        have hle : s.nextIdentity ≤ k := Nat.not_lt.mp hi
        rw [Identity.later_declared_of_le hle]
        exact Nat.not_lt.mpr (Nat.add_le_add_right hle d)
    rw [Cache.get?_eq_none_of_not_before hc hcached hlater,
      Cache.get?_eq_none_of_not_before hs.proper hs.cached hi]

/-- A pass over a monitored page leaves the entries of identities that no such page has. -/
theorem get?_afterPass_of_not_watched {m : Monitor} (hm : m ∈ s.monitors) {i : Identity}
    (hi : ¬ s.Watched i) (hbefore : i.Before s.nextIdentity) {c : Cache} (hc : c.Proper)
    (hcache : c.get? i = s.cache.get? i) {next : Nat} (hle : s.nextIdentity ≤ next)
    (found : List (Identity × Location))
    (hfound : ∀ f ∈ found, f.1 ∈ Element.identities ((s.page m.page).body.lookAt next)) :
    (c.afterPass m.page (Element.identities ((s.page m.page).body.lookAt next)) found).get? i
      = s.cache.get? i := by
  by_cases hdynamic : i = .dynamic
  · subst hdynamic
    rw [← hcache, Cache.get?_dynamic (hc.afterPass _ _ _), Cache.get?_dynamic hc]
  · -- the page neither keeps the identity nor gives it now
    have hnot : i ∉ Element.identities ((s.page m.page).body.lookAt next) := by
      intro hmem
      rcases Page.Body.mem_lookAt hmem with hkept | ⟨k, rfl⟩
      · exact hi ⟨m, hm, .inl hkept⟩
      · simp only [Identity.Before] at hbefore
        omega
    rcases Cache.get?_afterPass hc m.page _ found hdynamic with ⟨l, hl, -⟩ | ⟨-, hrest⟩
    · exact absurd (hfound _ hl) hnot
    · rw [hrest, if_neg hnot, hcache]
      cases hentry : s.cache.get? i with
      | none => rfl
      | some e =>
        have hpage : e.page ≠ m.page := by
          intro hpage
          exact hi ⟨m, hm, .inr (by rw [hentry, Option.map_some, hpage])⟩
        rw [Option.filter_some_pos (by simpa using hpage)]

/-- Of identities that were given before, only those that are watched may have other entries. -/
theorem Undisturbed.get?_eq (h : Undisturbed s u) {i : Identity} (hi : ¬ s.Watched i)
    (hbefore : i.Before s.nextIdentity) : u.cache.get? i = s.cache.get? i := by
  obtain ⟨d, halike⟩ := h.alike
  rw [← halike.cache i hi, Identity.later_of_before hbefore]

/-- A look at a page only gives identities. -/
theorem Undisturbed.looked (h : Undisturbed s u) (hs : s.Settled) (n : Nat) :
    Undisturbed s (u.lookAt n).2 := by
  obtain ⟨d, halike⟩ := h.alike
  -- the identities that are given now come on top of those that were given before
  have hnext : (u.lookAt n).2.nextIdentity
      = s.nextIdentity + (d + (s.page n).body.renewed.length) := by
    simp only [Session.lookAt, halike.page, halike.nextIdentity]
    omega
  have hcached : ∀ x ∈ (u.lookAt n).2.cache.entries, x.1.Before (u.lookAt n).2.nextIdentity :=
    fun x hx => (h.cached x hx).mono (Nat.le_add_right _ _)
  refine ⟨⟨_, { halike with nextIdentity := hnext, cache := ?_ }⟩, h.monitors, hcached⟩
  intro i hi
  exact get?_later_eq_of_before hs halike.proper' (hnext ▸ hcached) fun hbefore =>
    h.get?_eq hi hbefore

/-- **A pass over a monitored page does not disturb a session.** -/
theorem Undisturbed.resolve [Template.Engine] (h : Undisturbed s u) (hs : s.Settled)
    (hdevice : s.device.GivesScreens) {m : Monitor} (hm : m ∈ s.monitors) :
    Undisturbed s (u.resolve m.page).2 := by
  have hlooked := h.looked hs m.page
  obtain ⟨d, halike⟩ := hlooked.alike
  have hbody : (u.lookAt m.page).1 = (s.page m.page).body.lookAt u.nextIdentity :=
    congrArg (fun p : Page => p.body.lookAt u.nextIdentity) (halike.page m.page)
  have hle : s.nextIdentity ≤ u.nextIdentity := by
    obtain ⟨d, halike⟩ := h.alike
    rw [halike.nextIdentity]
    exact Nat.le_add_right _ _
  cases hread : Expectation.ofElements (u.lookAt m.page).1 with
  | error a =>
    rw [resolve_of_error hread]
    exact hlooked
  | ok xs =>
    have hfound : ∀ f ∈ (u.surveyOf m.page xs).found.resolved,
        f.1 ∈ Element.identities (u.lookAt m.page).1 := by
      have hgenuine : (u.surveyOf m.page xs).Genuine := ⟨xs, hread, rfl⟩
      exact fun f hf => hgenuine.mem_identities hf
    have hproper := halike.proper'.afterPass m.page (Element.identities (u.lookAt m.page).1)
      (u.surveyOf m.page xs).found.resolved
    have hcached : ∀ x ∈ (u.cache.afterPass m.page (Element.identities (u.lookAt m.page).1)
        (u.surveyOf m.page xs).found.resolved).entries,
        x.1.Before (u.lookAt m.page).2.nextIdentity := by
      refine Cache.before_afterPass halike.proper' hlooked.cached m.page (fun i hi => ?_) hfound
      have hbefore := Page.Body.before_of_mem_lookAt (hs.body m.page) hle (hbody ▸ hi)
      rwa [← halike.page m.page] at hbefore
    rw [resolve_of_ok hread]
    refine ⟨⟨d, { halike with
      device := ?_
      proper' := hproper
      cache := ?_
      captured := ?_ }⟩, hlooked.monitors, hcached⟩
    · exact halike.device.asked hdevice.unfailing _
    · intro i hi
      refine get?_later_eq_of_before hs hproper (halike.nextIdentity ▸ hcached) ?_
      intro hbefore
      have hkept := get?_afterPass_of_not_watched hm hi hbefore halike.proper'
        (h.get?_eq hi hbefore) hle (u.surveyOf m.page xs).found.resolved
        fun f hf => hbody ▸ hfound f hf
      rwa [← hbody] at hkept
    · intro v hv
      refine (Captured.get?_record_of_forall_ne _ ?_).trans (halike.captured v hv)
      rintro x hx rfl
      refine hv ⟨m, hm, ?_⟩
      have hmentions := Resolution.mentions_of_mem_captures hread hx
      rwa [hbody, Element.Mentions, Page.Body.lookAt, Element.patterns_mapIdentityList]
        at hmentions

/-- **A quiet page is still not found** after passes over quiet pages. -/
theorem Undisturbed.isExisting (h : Undisturbed s u) (hdevice : s.device.GivesScreens)
    (hn : ¬ s.Shown n) {c : PageCheck} (hc : (u.check n).1 = .ok c) : c.isExisting = false := by
  obtain ⟨d, halike⟩ := h.alike
  have hanswer := (halike.check n).1
  rw [hc] at hanswer
  cases hcheck : (s.check n).1 with
  | error f =>
    rw [hcheck] at hanswer
    cases hanswer
  | ok c' =>
    have hexists := isExisting_of_not_shown hdevice hn hcheck
    rw [hcheck] at hanswer
    cases hanswer
    rw [PageCheck.isExisting_mapIdentity]
    exact hexists

/-- No quiet page is taken for one that is shown. -/
theorem Undisturbed.firstShown (h : Undisturbed s u) (hs : s.Settled)
    (hdevice : s.device.GivesScreens) (hquiet : s.IsQuiet) (ms : List Monitor)
    (hms : ms ⊆ s.monitors) :
    (Session.firstShown ms u).1 = none ∧ Undisturbed s (Session.firstShown ms u).2 := by
  induction ms generalizing u with
  | nil => exact ⟨rfl, h⟩
  | cons m ms ih =>
    obtain ⟨hm, hms⟩ := List.cons_subset.mp hms
    have hpass : Undisturbed s (u.check m.page).2 := h.resolve hs hdevice hm
    have hrest := ih hpass hms
    rw [Session.firstShown]
    simp only
    cases hanswer : (u.check m.page).1 with
    | error f => exact hrest
    | ok c =>
      simp only [h.isExisting hdevice (hquiet m hm) hanswer]
      exact hrest

/-- **A check for interruptions runs no handler and does not disturb a session.** -/
theorem Undisturbed.interruptions [Template.Engine] (h : Undisturbed s u) (hs : s.Settled)
    (hdevice : s.device.GivesScreens) (hquiet : s.IsQuiet) (level : Nat) :
    (Session.interruptions level u).1 = none ∧
      Undisturbed s (Session.interruptions level u).2 := by
  cases level with
  | zero => exact ⟨rfl, h⟩
  | succ level =>
    obtain ⟨⟨d, halike⟩, hmonitors, hcached⟩ := h
    have hbegun : Undisturbed s { u with checking := true } :=
      ⟨⟨d, { halike with }⟩, hmonitors, hcached⟩
    obtain ⟨hnone, hdone⟩ := hbegun.firstShown hs hdevice hquiet u.monitors
      (hmonitors ▸ List.Subset.refl _)
    rw [Session.interruptions]
    split
    · exact ⟨rfl, ⟨d, halike⟩, hmonitors, hcached⟩
    · obtain ⟨⟨d', halike'⟩, hmonitors', hcached'⟩ := hdone
      simp only [hnone]
      exact ⟨trivial, ⟨d', { halike' with }⟩, hmonitors', hcached'⟩

/-! ### Commands -/

/-- An answer whose missing elements are renamed. -/
def renamed (f : Identity → Identity) : Answer → Answer
  | .check c => .check (c.mapIdentity f)
  | a => a

/-- A command has the same outcome in a session with quiet monitors as without them: the answers
are the same, up to the identities that were given since, and so are the calls besides those for
screens, the log, and what is remembered that the monitored pages have no part in. -/
structure Unaffected [Template.Engine] (s : Session) (d : Nat)
    (plain watched : Except Command.Fault Answer × Session) : Prop where
  result : watched.1 = plain.1.map (renamed (Identity.later s.nextIdentity d))
  calls : Device.otherCalls watched.2.device.calls = Device.otherCalls plain.2.device.calls
  attempts :
    Device.otherCalls watched.2.device.attempts = Device.otherCalls plain.2.device.attempts
  actions : watched.2.actions = plain.2.actions
  cache : ∀ i, ¬ s.Watched i →
    watched.2.cache.get? (i.later s.nextIdentity d) = plain.2.cache.get? i
  captured : ∀ v, ¬ s.WatchedVariable v → watched.2.captured.get? v = plain.2.captured.get? v

/-- A command that makes a pass over a page, or acts on an element that no monitored page has. -/
def Admits (s : Session) : Command → Prop
  | .check _ | .pageExists _ => True
  | .tap e | .tapAny e | .typeText e _ | .scroll e _ _ | .isHittable e =>
    e.identity.Before s.nextIdentity ∧ ¬ s.Watched e.identity
  | _ => False

/-- Outcomes in sessions that are alike do not show the monitors. -/
theorem Unaffected.of_alike {d : Nat} {plain watched : Except Command.Fault Answer × Session}
    (hresult : watched.1 = plain.1.map (renamed (Identity.later s.nextIdentity d)))
    (h : s.AlikeElsewhere d plain.2 watched.2) : Unaffected s d plain watched :=
  ⟨hresult, h.device.calls, h.device.attempts, h.actions, h.cache, h.captured⟩

/-- The answers to operations whose results are the same up to a renaming do not show the
monitors. -/
theorem Unaffected.answer {d : Nat} {α : Type} {f : α → Answer} {rename : α → α}
    (hf : ∀ a, f (rename a) = renamed (Identity.later s.nextIdentity d) (f a))
    {plain watched : Except Fault α × Session} (hresult : watched.1 = plain.1.map rename)
    (h : s.AlikeElsewhere d plain.2 watched.2) :
    Unaffected s d (answer f plain) (answer f watched) := by
  refine .of_alike ?_ (by rwa [answer_snd, answer_snd])
  obtain ⟨result, t⟩ := plain
  obtain ⟨_, u⟩ := watched
  cases hresult
  cases result with
  | error fault => rfl
  | ok a => exact congrArg Except.ok (hf a)

/-- The answers to operations with the same result do not show the monitors. -/
theorem Unaffected.of_abreast {d : Nat} {α : Type} {f : α → Answer}
    (hf : ∀ a, f a = renamed (Identity.later s.nextIdentity d) (f a))
    {plain watched : Except Fault α × Session}
    (h : Abreast s.nextIdentity d (fun i => ¬ s.Watched i) (fun v => ¬ s.WatchedVariable v)
      plain watched) : Unaffected s d (Session.answer f plain) (Session.answer f watched) :=
  .answer hf (h.1.trans (congrFun Except.map_id plain.1).symm) h.2

/-- A session without its monitors. -/
def unmonitored (s : Session) : Session := { s with monitors := [] }

/-- A check for interruptions without monitors does nothing. -/
theorem interruptions_unmonitored (s : Session) (level : Nat) :
    interruptions level s.unmonitored = (none, s.unmonitored) := by
  cases level with
  | zero => rfl
  | succ level =>
    rw [interruptions]
    split
    · rfl
    · rename_i hchecking
      rw [Bool.not_eq_true] at hchecking
      simp only [unmonitored, firstShown] at hchecking ⊢
      rw [hchecking]

/-- **A command goes on as if there were no monitors** in a session that quiet monitors left
undisturbed. -/
theorem Undisturbed.run (h : Undisturbed s u) (hs : s.Settled) (hdevice : s.device.GivesScreens)
    (hquiet : s.IsQuiet) {c : Command} (hc : s.Admits c) (level : Nat) :
    ∃ d, Unaffected s d (s.unmonitored.run (Session.interruptions level) c)
      (u.run (Session.interruptions level) c) := by
  obtain ⟨d₀, hbefore⟩ := h.alike
  have hstart : s.AlikeElsewhere d₀ s.unmonitored u := { hbefore with }
  -- after the check for interruptions of the command the sessions still agree
  obtain ⟨d, hlater⟩ := (h.interruptions hs hdevice hquiet level).2.alike
  have hcleared : s.AlikeElsewhere d (Session.interruptions level s.unmonitored).2
      (Session.interruptions level u).2 := by
    rw [interruptions_unmonitored]
    exact { hlater with }
  have hinteract : ∀ (i : Interaction) (e : Element), e.identity.Before s.nextIdentity →
      ¬ s.Watched e.identity →
      Unaffected s d (answer (fun _ => .done)
        (i.run (Session.interruptions level) e s.unmonitored))
        (answer (fun _ => .done) (i.run (Session.interruptions level) e u)) :=
    fun i e hbefore hi =>
      .of_abreast (fun _ => rfl) (interact_abreast hstart.clock hcleared hbefore hi i)
  cases c with
  | check n =>
    obtain ⟨hresult, halike⟩ := hstart.check n
    exact ⟨d₀, .answer (f := Answer.check) (fun _ => rfl) hresult halike⟩
  | pageExists n =>
    obtain ⟨hresult, halike⟩ := hstart.check n
    refine ⟨d₀, .answer (fun c => ?_) hresult halike⟩
    simp only [PageCheck.isExisting_mapIdentity, renamed]
  | tap e => exact ⟨d, hinteract .tap e hc.1 hc.2⟩
  | tapAny e => exact ⟨d, hinteract .tapAny e hc.1 hc.2⟩
  | typeText e text => exact ⟨d, hinteract (.typeText text) e hc.1 hc.2⟩
  | scroll e dx dy => exact ⟨d, hinteract (.scroll dx dy) e hc.1 hc.2⟩
  | isHittable e =>
    exact ⟨d, .of_abreast (fun _ => rfl) (isHittable_abreast hcleared hc.1 hc.2)⟩
  | _ => exact absurd hc id

/-- **Quiet monitors do not interfere.**  In a settled session whose device gives the screens of
its applications, and whose monitored pages are not shown, a command on an element that no
monitored page has goes on as if there were no monitors, also after a check for interruptions,
which runs no handler. -/
theorem run_of_isQuiet (hs : s.Settled) (hdevice : s.device.GivesScreens) (hquiet : s.IsQuiet)
    {c : Command} (hc : s.Admits c) :
    (∃ d, Unaffected s d (s.unmonitored.run clear c) (s.run clear c)) ∧
    (clear s).1 = none ∧ (clear s.unmonitored).1 = none ∧
    ∃ d, Unaffected s d ((clear s.unmonitored).2.run clear c) ((clear s).2.run clear c) := by
  have hstart := Undisturbed.refl hs hdevice
  obtain ⟨hnone, hcleared⟩ := hstart.interruptions hs hdevice hquiet 2
  have hplain : clear s.unmonitored = (none, s.unmonitored) := interruptions_unmonitored s 2
  rw [hplain]
  exact ⟨hstart.run hs hdevice hquiet hc 2, hnone, rfl, hcleared.run hs hdevice hquiet hc 2⟩

end

/-- A session that has checked the sample page, with a monitor whose page is only in part on the
screen: its text is there, which it declares anew and captures from, but its button is not. -/
def watchfulRun : Session :=
  let prize : Variable := Template.ones
  let offer : Page.Body :=
    { elements :=
        [ ⟨.declared 6, .staticText, none, some ("To" ++ prize.placeholder), none, []⟩,
          ⟨.declared 7, .button, none, some "Never", none, []⟩ ]
      renewed := [.declared 6] }
  ((start { defaultMonitors := false } { screens := [(none, Resolution.sampleScreen)] }
      [ { name := "Checkout", bodies := [⟨Resolution.samplePage, []⟩] },
        { name := "Offer", bodies := [offer] } ]
      8).executeAll [.check 0, .addMonitor "offer" 1 []]).2

/-- In the sample run a button is tapped as if there were no monitor, though the pass over the
monitored page captures a value. -/
theorem run_of_isQuiet_watchful :
    let tap : Command := .tap ⟨.declared 4, .button, some "ok", some "OK", none, []⟩
    ((∃ d, Unaffected watchfulRun d (watchfulRun.unmonitored.run clear tap)
          (watchfulRun.run clear tap)) ∧
      (clear watchfulRun).1 = none ∧ (clear watchfulRun.unmonitored).1 = none ∧
      ∃ d, Unaffected watchfulRun d ((clear watchfulRun.unmonitored).2.run clear tap)
        ((clear watchfulRun).2.run clear tap)) ∧
    (watchfulRun.run clear tap).2.captured.get? (Template.repeated ⟨1, by decide⟩) = some "tal" ∧
    (watchfulRun.unmonitored.run clear tap).2.captured = {} := by
  intro tap
  have hsettled : watchfulRun.Settled := settled_of_steps (by decide) (executeAll_steps _ _)
  refine ⟨run_of_isQuiet hsettled ⟨rfl, fun _ _ => rfl⟩ ?_ ⟨?_, ?_⟩, ?_⟩
  · unfold IsQuiet
    decide +kernel
  · decide +kernel
  · decide +kernel
  · decide +kernel

end Session

end ScreenPages
