import ScreenPages.Proofs.Conduct
import ScreenPages.Proofs.Freshness
import ScreenPages.Proofs.Matching
import ScreenPages.Proofs.Renaming

/-!
# Sessions side by side

Two sessions may differ in what was done before: one has asked for more screens, given more
identities, and remembers more.  As far as they agree on some identities and variables, they go
on side by side: each operation answers the same in both, up to the identities that are given
from then on, makes the same calls and is recorded in the same way, and they still agree on
these identities and variables afterwards.

## Main definitions

* `Device.otherCalls`, `Device.Alike` — devices that differ in the screens they were asked for.
* `Session.Alike` — sessions that differ in what they remember besides some identities and
  variables.
* `Session.Abreast` — the outcomes of an operation in two such sessions.

## Main results

* `Device.Alike.receive` — a call has the same outcome on devices that are alike.
* `Cache.get?_afterPass_map` — a pass makes the same of the entry of a renamed identity.
* `Session.Alike.resolve` — passes side by side.
* `Session.Alike.locate`, `Session.Alike.perform` — finding an element, and acting on it.
-/

namespace ScreenPages

variable {engine : Template.Engine}

/-! ### Devices -/

namespace Device

/-- The calls among some that are not for the screen of an application. -/
def otherCalls (calls : Array Call) : List Call :=
  calls.toList.filter fun c => c.service != .snapshot

/-- Two devices whose screens stand still and that differ at most in the screens that they were
asked for. -/
structure Alike (d d' : Device) : Prop where
  screens : d'.screens = d.screens
  hook : d'.hook = d.hook
  still : ∀ n ss, d.drift n ss = ss
  still' : ∀ n ss, d'.drift n ss = ss
  failures : d'.failures = d.failures
  reportsFrames : d'.reportsFrames = d.reportsFrames
  calls : otherCalls d'.calls = otherCalls d.calls
  attempts : otherCalls d'.attempts = otherCalls d.attempts

variable {d d' : Device}

theorem Alike.refl (h : ∀ n ss, d.drift n ss = ss) : Alike d d :=
  ⟨rfl, rfl, h, h, rfl, rfl, rfl, rfl⟩

/-- One more call stands behind the others if it is not for a screen. -/
theorem otherCalls_push (calls : Array Call) (c : Call) :
    otherCalls (calls.push c)
      = otherCalls calls ++ [c].filter fun c => c.service != .snapshot := by
  rw [otherCalls, Array.toList_push, List.filter_append, otherCalls]

theorem otherCalls_push_congr {calls calls' : Array Call} (c : Call)
    (h : otherCalls calls' = otherCalls calls) :
    otherCalls (calls'.push c) = otherCalls (calls.push c) := by
  rw [otherCalls_push, otherCalls_push, h]

/-- A call that does not reach one device does not reach the other. -/
theorem Alike.attempt (h : Alike d d') (c : Call) : Alike (d.attempt c) (d'.attempt c) :=
  { h with attempts := otherCalls_push_congr c h.attempts }

theorem Alike.reached (h : Alike d d') (c : Call) : Alike (d.reached c) (d'.reached c) where
  screens := (h.still' _ _).trans (h.screens.trans (h.still _ _).symm)
  hook := h.hook
  still := h.still
  still' := h.still'
  failures := h.failures
  reportsFrames := h.reportsFrames
  calls := otherCalls_push_congr c h.calls
  attempts := otherCalls_push_congr c h.attempts

/-- The same fault awaits a call on devices that are alike. -/
theorem Alike.nextFailure (h : Alike d d') (k : Service) :
    (d.nextFailure k = none ∧ d'.nextFailure k = none) ∨
      ∃ fault e e', d.nextFailure k = some (fault, e) ∧ d'.nextFailure k = some (fault, e') ∧
        Alike e e' := by
  rw [Device.nextFailure, Device.nextFailure, h.failures]
  generalize (d.failures.find? fun f => f.1 == k) = failure
  rcases failure with _ | ⟨k', fault, _ | _ | n⟩
  · exact .inl ⟨rfl, rfl⟩
  · exact .inr ⟨fault, d, d', rfl, rfl, h⟩
  · exact .inl ⟨rfl, rfl⟩
  · refine .inr ⟨fault, d.makeFail k ⟨fault, some n⟩, d'.makeFail k ⟨fault, some n⟩, rfl, rfl, ?_⟩
    exact { h with failures := by rw [makeFail, makeFail, h.failures] }

/-- Two outcomes of a call: the answers are the same, and the devices alike. -/
def Abreast {α : Type} (r r' : Except Fault α × Device) : Prop := r'.1 = r.1 ∧ Alike r.2 r'.2

/-- **A call has the same outcome on devices that are alike.** -/
theorem Alike.receive {α : Type} (h : Alike d d') (c : Call)
    {act : Device → Except Fault α × Device}
    (hact : ∀ {e e'}, Alike e e' → Abreast (act e) (act e')) :
    Abreast (d.receive c act) (d'.receive c act) := by
  rw [Device.receive, Device.receive]
  rcases h.nextFailure c.service with ⟨hnone, hnone'⟩ | ⟨fault, e, e', hsome, hsome', halike⟩
  · rw [hnone, hnone']
    exact hact (h.reached c)
  · rw [hsome, hsome']
    exact ⟨rfl, halike.attempt c⟩

/-- The same node is found on devices that are alike. -/
theorem Alike.find (h : Alike d d') (q : Query) : d'.find q = d.find q := by
  rw [Device.find, Device.find, h.screens]

/-- What is told of a node is the same on devices that are alike. -/
theorem Alike.map_find {α : Type} (h : Alike d d') (q : Query) (f : Snapshot.Entry → α) :
    Abreast ((d.find q).map f, d) ((d'.find q).map f, d') :=
  ⟨congrArg (Except.map f) (h.find q), h⟩

theorem Alike.snapshot (h : Alike d d') (application : Option String) :
    Abreast (d.snapshot application) (d'.snapshot application) := by
  refine h.receive _ fun {e e'} h => ?_
  simp only [h.screens]
  cases e.screens.get? application with
  | none => exact ⟨rfl, h⟩
  | some tree => exact ⟨rfl, h⟩

/-- A gesture has the same outcome on devices that are alike. -/
theorem Alike.perform (h : Alike d d') (q : Query) (g : Gesture) :
    Abreast (d.perform q g) (d'.perform q g) := by
  cases g with
  | tap =>
    refine h.receive _ fun {e e'} h => ?_
    simp only [h.find]
    cases e.find q with
    | error fault => exact ⟨rfl, h⟩
    | ok entry => exact ⟨rfl, { h with screens := by rw [h.hook, h.screens] }⟩
  | typeText text => exact h.receive _ fun h => h.map_find q _
  | scroll dx dy => exact h.receive _ fun h => h.map_find q _

theorem Alike.isHittable (h : Alike d d') (q : Query) :
    Abreast (d.isHittable q) (d'.isHittable q) :=
  h.receive _ fun h => h.map_find q _

theorem Alike.frame (h : Alike d d') (q : Query) : Abreast (d.frame q) (d'.frame q) := by
  rw [Device.frame, Device.frame, h.reportsFrames]
  cases d.reportsFrames with
  | false => exact ⟨rfl, h.attempt _⟩
  | true => exact h.receive _ fun h => h.map_find q _

end Device

/-! ### The cache -/

namespace Cache

variable {f : Identity → Identity} {c c' : Cache} {i : Identity}

/-- Entering an identity does to the entry of another what entering renamed ones does. -/
theorem get?_put_map (hf : Function.Injective f) (hdynamic : f .dynamic = .dynamic)
    (h : c'.get? (f i) = c.get? i) (j : Identity) (e : Entry) :
    (c'.put (f j) e).get? (f i) = (c.put j e).get? i := by
  have hj : f j = .dynamic ↔ j = .dynamic := by
    rw [← hdynamic, hf.eq_iff, hdynamic]
  rw [get?_put, get?_put, h]
  simp only [hf.eq_iff, ne_eq, hj]

/-- Entering what was found of renamed elements does to the entry of a renamed identity what
entering what was found does to that of the identity. -/
theorem get?_foldl_set_map (hf : Function.Injective f) (hdynamic : f .dynamic = .dynamic)
    (h : c'.get? (f i) = c.get? i) (page : Nat) (found : List (Identity × Location)) :
    ((found.map fun x => (f x.1, x.2)).foldl (fun c x => c.set x.1 page x.2) c').get? (f i)
      = (found.foldl (fun c x => c.set x.1 page x.2) c).get? i := by
  induction found generalizing c c' with
  | nil => exact h
  | cons x found ih => exact ih (get?_put_map hf hdynamic h x.1 _)

/-- **A pass makes the same of the entry of a renamed identity**, whatever else is cached. -/
theorem get?_afterPass_map (hf : Function.Injective f) (hdynamic : f .dynamic = .dynamic)
    (hc : c.Proper) (hc' : c'.Proper) (h : c'.get? (f i) = c.get? i) (page : Nat)
    (is : List Identity) (found : List (Identity × Location)) :
    (c'.afterPass page (is.map f) (found.map fun x => (f x.1, x.2))).get? (f i)
      = (c.afterPass page is found).get? i := by
  have hregister : ∀ (is : List Identity) (c c' : Cache), c'.get? (f i) = c.get? i →
      ((is.map f).foldl (fun c j => c.put j ⟨page, none⟩) c').get? (f i)
        = (is.foldl (fun c j => c.put j ⟨page, none⟩) c).get? i := by
    intro is
    induction is with
    | nil => exact fun c c' h => h
    | cons j is ih => exact fun c c' h => ih _ _ (get?_put_map hf hdynamic h j _)
  apply get?_foldl_set_map hf hdynamic
  apply hregister is (c.without page) (c'.without page)
  rw [get?_without hc', get?_without hc, h]

end Cache

/-- What a check finds of a page whose elements are renamed. -/
def PageCheck.mapIdentity (f : Identity → Identity) (c : PageCheck) : PageCheck :=
  ⟨Element.mapIdentityList f c.missing, c.actual⟩

/-- Whether a page is there does not depend on the identities of its elements. -/
@[simp] theorem PageCheck.isExisting_mapIdentity (f : Identity → Identity) (c : PageCheck) :
    (c.mapIdentity f).isExisting = c.isExisting := by
  simp only [isExisting, mapIdentity, Element.mapIdentityList_eq_map, List.isEmpty_map]

namespace Session

/-! ### Sessions -/

/-- Two sessions that agree on some identities and some variables and differ at most in what
they remember besides, in the screens that were asked for, and in how many identities were given:
in the second, `d` more were given in between, before which there was nothing from `next` on. -/
structure Alike (next d : Nat) (A : Identity → Prop) (V : Variable → Prop) (t u : Session) :
    Prop where
  settings : u.settings = t.settings
  clock : u.clock = t.clock
  schedule : u.schedule = t.schedule
  pages : u.pages = t.pages
  actions : u.actions = t.actions
  device : Device.Alike t.device u.device
  nextIdentity : u.nextIdentity = t.nextIdentity + d
  le : next ≤ t.nextIdentity
  /-- What the pages declare was given before. -/
  bodies : ∀ n, ∀ i ∈ Element.identities (t.page n).body.elements, i.Before next
  proper : t.cache.Proper
  proper' : u.cache.Proper
  cache : ∀ i, A i → u.cache.get? (i.later next d) = t.cache.get? i
  captured : ∀ v, V v → u.captured.get? v = t.captured.get? v

variable {next d : Nat} {A : Identity → Prop} {V : Variable → Prop} {s t u : Session}

/-- Two outcomes of an operation: the answers are the same, and the sessions alike. -/
def Abreast (next d : Nat) (A : Identity → Prop) (V : Variable → Prop) {α : Type}
    (r r' : α × Session) : Prop :=
  r'.1 = r.1 ∧ Alike next d A V r.2 r'.2

namespace Alike

variable (h : Alike next d A V t u)

include h

theorem page (n : Nat) : u.page n = t.page n := by
  rw [Session.page, Session.page, h.pages]

/-- A call has the same outcome in both sessions. -/
theorem call {α : Type} {act : Device → Except Device.Fault α × Device}
    (hact : ∀ {d d'}, Device.Alike d d' → Device.Abreast (act d) (act d')) :
    Abreast next d A V (t.call act) (u.call act) := by
  obtain ⟨hanswer, hdevice⟩ := hact h.device
  exact ⟨congrArg (Except.mapError Fault.device) hanswer, { h with device := hdevice }⟩

/-- Both sessions sleep, and make the same changes. -/
theorem sleep (ms : Nat) : Alike next d A V (t.sleep ms) (u.sleep ms) where
  settings := h.settings
  clock := congrArg (· + ms) h.clock
  schedule := by simp only [Session.sleep, makeDueChanges, h.schedule, h.clock]
  pages := h.pages
  actions := h.actions
  device :=
    { h.device with
      screens := by
        simp only [Session.sleep, makeDueChanges, h.schedule, h.clock, h.device.screens] }
  nextIdentity := h.nextIdentity
  le := h.le
  bodies := h.bodies
  proper := h.proper
  proper' := h.proper'
  cache := h.cache
  captured := h.captured

/-- Both sessions record an action with the same outcome and duration. -/
theorem log {α : Type} (action : Action) (start : Nat) (result : Except Fault α) :
    Alike next d A V (t.log action start result) (u.log action start result) :=
  { h with actions := by simp only [Session.log, h.actions, h.clock] }

/-! ### Acting on a node -/

theorem touch (action : Action) (e : Element) (g : Device.Gesture) (q : Query) :
    Abreast next d A V (t.touch action e g q) (u.touch action e g q) := by
  obtain ⟨hanswer, halike⟩ := h.call fun h => h.perform q g
  exact ⟨hanswer, { halike with }⟩

theorem touchAll (action : Action) (e : Element) (q : Query) (gs : List Device.Gesture) :
    Abreast next d A V (t.touchAll action e q gs) (u.touchAll action e q gs) := by
  induction gs generalizing t u with
  | nil => exact ⟨rfl, h⟩
  | cons g gs ih =>
    obtain ⟨hanswer, halike⟩ := h.touch action e g q
    rw [Session.touchAll, Session.touchAll]
    generalize t.touch action e g q = r at hanswer halike ⊢
    generalize u.touch action e g q = r' at hanswer halike ⊢
    obtain ⟨answer, t'⟩ := r
    obtain ⟨_, u'⟩ := r'
    cases hanswer
    cases answer with
    | ok _ => exact ih halike
    | error f => exact ⟨rfl, halike⟩

theorem settle (q : Query) (deadline fuel : Nat) (last : Frame) :
    Alike next d A V (Session.settle q deadline fuel last t)
      (Session.settle q deadline fuel last u) := by
  induction fuel generalizing last t u with
  | zero => exact h
  | succ fuel ih =>
    rw [Session.settle, Session.settle, h.clock, h.settings]
    by_cases htime : deadline ≤ t.clock
    · rw [if_pos htime, if_pos htime]
      exact h
    · rw [if_neg htime, if_neg htime]
      have hslept := h.sleep t.settings.stablePollInterval
      obtain ⟨hanswer, halike⟩ := hslept.call fun h => h.frame q
      simp only [hanswer]
      split
      · split
        · exact halike
        · exact ih halike _
      · exact halike

theorem waitUntilStable (q : Query) :
    Alike next d A V (t.waitUntilStable q) (u.waitUntilStable q) := by
  obtain ⟨hanswer, halike⟩ := h.call fun h => h.frame q
  rw [Session.waitUntilStable, Session.waitUntilStable]
  simp only [hanswer, h.clock, h.settings]
  split
  · exact halike.settle q _ _ _
  · exact halike

/-- **An interaction does the same with its node in both sessions.** -/
theorem perform (i : Interaction) (e : Element) (q : Query) :
    Abreast next d A V (i.perform e q t) (i.perform e q u) := by
  have happroach : Alike next d A V (i.approach q t) (i.approach q u) := by
    rw [Interaction.approach, Interaction.approach]
    split
    · exact h.waitUntilStable q
    · exact h
  exact happroach.touchAll _ e _ _

/-! ### Passes -/

/-- The elements of a page are the same in both sessions, but for the identities that are given
now. -/
theorem lookAt (n : Nat) :
    (u.lookAt n).1 = Element.mapIdentityList (Identity.later next d) (t.lookAt n).1 := by
  have hlook : (u.lookAt n).1 = (t.page n).body.lookAt (t.nextIdentity + d) := by
    rw [Session.lookAt, h.page, h.nextIdentity]
  rw [hlook]
  exact Page.Body.lookAt_add d (h.bodies n) h.le

/-- A look at a page leaves the sessions alike. -/
theorem looked (n : Nat) : Alike next d A V (t.lookAt n).2 (u.lookAt n).2 :=
  { h with
    nextIdentity := by
      simp only [Session.lookAt, h.page, h.nextIdentity]
      omega
    le := Nat.le_add_right_of_le h.le
    bodies := h.bodies }

end Alike

/-- **Passes side by side** find the same, and agree on the same identities and variables. -/
theorem Alike.resolve [Template.Engine] (h : Alike next d A V t u) (n : Nat) :
    (u.resolve n).1 = (t.resolve n).1.map (fun r =>
        (r.1.mapIdentity (Identity.later next d), r.2.mapIdentity (Identity.later next d))) ∧
      Alike next d A V (t.resolve n).2 (u.resolve n).2 := by
  have hlook := h.lookAt n
  have hread := congrArg Expectation.ofElements hlook
  rw [Expectation.ofElements_mapIdentityList] at hread
  have hlooked := h.looked n
  cases hxs : Expectation.ofElements (t.lookAt n).1 with
  | error a =>
    rw [hxs] at hread
    rw [resolve_of_error hxs, resolve_of_error hread]
    exact ⟨rfl, hlooked⟩
  | ok xs =>
    rw [hxs] at hread
    obtain ⟨hanswer, hdevice⟩ := h.device.snapshot (t.page n).application
    -- both passes see the same screen, so what the second finds is renamed
    have hfound : (u.surveyOf n (Expectation.mapIdentityList (Identity.later next d) xs)).found
        = (t.surveyOf n xs).found.mapIdentity (Identity.later next d) := by
      rw [surveyOf, surveyOf, h.page, hanswer]
      exact Resolution.ofPage_mapIdentity _ xs _
    have hscreen : (u.surveyOf n (Expectation.mapIdentityList (Identity.later next d) xs)).screen
        = (t.surveyOf n xs).screen := by
      rw [surveyOf, surveyOf, h.page, hanswer]
    rw [resolve_of_ok hxs, resolve_of_ok hread, hfound, hscreen, h.page]
    refine ⟨rfl, ?_⟩
    exact
      { hlooked with
        device := hdevice
        proper := h.proper.afterPass n _ _
        proper' := h.proper'.afterPass n _ _
        cache := by
          intro i hi
          rw [hlook, Element.identities_mapIdentityList]
          exact Cache.get?_afterPass_map (Identity.later_injective next d) rfl h.proper h.proper'
            (h.cache i hi) n _ _
        captured := by
          intro v hv
          refine (Captured.get?_record _ _ v).trans ?_
          rw [h.captured v hv]
          exact (Captured.get?_record _ _ v).symm }

/-- Checks of a page side by side. -/
theorem Alike.check [Template.Engine] (h : Alike next d A V t u) (n : Nat) :
    (u.check n).1 = (t.check n).1.map (PageCheck.mapIdentity (Identity.later next d)) ∧
      Alike next d A V (t.check n).2 (u.check n).2 := by
  obtain ⟨hanswer, halike⟩ := h.resolve n
  refine ⟨?_, halike⟩
  simp only [Session.check, hanswer]
  cases (t.resolve n).1 with
  | error f => rfl
  | ok r => rfl

/-! ### Finding an element and acting on it -/

variable {e : Element}

/-- **An element that the sessions agree on is found at the same place in both.** -/
theorem Alike.locate (h : Alike next d A V t u) (hbefore : e.identity.Before next)
    (hagreed : A e.identity) : Abreast next d A V (t.locate e) (u.locate e) := by
  have hentry := h.cache _ hagreed
  have hsame : e.identity.later next d = e.identity := Identity.later_of_before hbefore
  rw [hsame] at hentry
  rw [Session.locate, Session.locate, hentry]
  split
  · exact ⟨rfl, h⟩
  · cases t.cache.get? e.identity with
    | none => exact ⟨rfl, h⟩
    | some entry =>
      obtain ⟨hanswer, halike⟩ := h.resolve entry.page
      simp only [hanswer, halike.page]
      cases (t.resolve entry.page).1 with
      | error f => exact ⟨rfl, halike⟩
      | ok r =>
        have hlocation : (r.2.mapIdentity (Identity.later next d)).location e.identity
            = r.2.location e.identity := by
          have := r.2.location_mapIdentity (Identity.later_injective next d) e.identity
          rwa [hsame] at this
        simp only [Except.map, hlocation]
        cases r.2.location e.identity with
        | none => exact ⟨rfl, halike⟩
        | some l => exact ⟨rfl, halike⟩

/-- An interaction that acts the same in sessions that are alike has the same outcome if checks
for interruptions leave the sessions alike. -/
theorem interact_abreast {clear clear' : InterruptionCheck} (hclock : u.clock = t.clock)
    (h : Alike next d A V (clear t).2 (clear' u).2) (hbefore : e.identity.Before next)
    (hagreed : A e.identity) (i : Interaction) :
    Abreast next d A V (i.run clear e t) (i.run clear' e u) := by
  rw [i.run_eq_interact, i.run_eq_interact, interact, interact]
  obtain ⟨hfound, hlocated⟩ := h.locate hbefore hagreed
  simp only [hclock, hfound]
  cases ((clear t).2.locate e).1 with
  | error f =>
    exact ⟨rfl, hlocated.log (i.action e) t.clock (.error f : Except Fault Unit)⟩
  | ok q =>
    obtain ⟨hresult, hperformed⟩ := hlocated.perform i e q
    refine ⟨hresult, ?_⟩
    simp only [hresult]
    exact hperformed.log _ _ _

/-- Whether an element can be tapped is the same if checks for interruptions leave the sessions
alike. -/
theorem isHittable_abreast {clear clear' : InterruptionCheck}
    (h : Alike next d A V (clear t).2 (clear' u).2) (hbefore : e.identity.Before next)
    (hagreed : A e.identity) :
    Abreast next d A V (t.isHittable clear e) (u.isHittable clear' e) := by
  obtain ⟨hfound, hlocated⟩ := h.locate hbefore hagreed
  rw [Session.isHittable, Session.isHittable]
  simp only [hfound]
  cases ((clear t).2.locate e).1 with
  | error f => exact ⟨rfl, hlocated⟩
  | ok q => exact hlocated.call fun h => h.isHittable q

end Session

end ScreenPages
