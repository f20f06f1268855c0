import ScreenPages.Proofs.Run
import ScreenPages.Proofs.Search

/-!
# The conduct of interactions

An interaction calls the device in a fixed order: a check for interruptions, a pass over the
page of its element, looks at the frame of the node if it waits for it to settle, and then its
gestures, one after the other, until one fails.  If the element cannot be located the
interaction is refused, and there is nothing but the pass.

What a look at a frame answers decides how many of them follow, and nothing else.  So the
gestures are the same whether frames are known, or settle, or cannot be had at all.

## Main definitions

* `Interaction`, `Interaction.run` — the interactions with an element, as sessions run them.
* `Session.attempted` — the calls that a session made.
* `Session.Fault.isRefusal` — the faults of an element that cannot be located.
* `Session.InTurn` — gestures are made in turn until one fails.
* `Session.Conducted` — what an interaction does that is not refused.

## Main results

* `Interaction.run_eq_interact` — all interactions follow one scheme.
* `Session.locate_sought` — an element is refused, or it was found by a pass.
* `Session.exists_touchedAll` — the gestures of an interaction are made in turn.
* `Session.run_conducted` — what an interaction calls the device for.
-/

namespace ScreenPages

open Session (InterruptionCheck Touch Survey)

section

variable {engine : Template.Engine}

/-! ### Interactions -/

/-- An interaction with an element. -/
inductive Interaction where
  | tap : Interaction
  | tapAny : Interaction
  | typeText (text : String) : Interaction
  | scroll (dx dy : Float) : Interaction

namespace Interaction

/-- Runs an interaction. -/
def run [Template.Engine] (clear : InterruptionCheck) (e : Element) :
    Interaction → Session → Except Session.Fault Unit × Session
  | tap => Session.tap clear e
  | tapAny => Session.tapAny clear e
  | typeText text => Session.typeText clear e text
  | scroll dx dy => Session.scroll clear e dx dy

/-- The action that the log has for an interaction. -/
def action (e : Element) : Interaction → Action
  | tap => .tap e.text
  | tapAny => .tapAny e.text
  | typeText text => .typeText e.text text
  | scroll dx dy => .scroll e.text dx dy

/-- The gestures of an interaction. -/
def gestures : Interaction → List Device.Gesture
  | tap | tapAny => [.tap]
  | typeText text => [.tap, .typeText text]
  | scroll dx dy => [.scroll dx dy]

/-- Whether an interaction waits for the frame of its node to settle. -/
def settles : Interaction → Bool
  | tap | typeText _ => true
  | tapAny | scroll _ _ => false

/-- What an interaction does with its node before it makes a gesture. -/
def approach (i : Interaction) (q : Query) (s : Session) : Session :=
  if i.settles then s.waitUntilStable q else s

end Interaction

namespace Session

/-- Makes gestures in turn until one fails. -/
def touchAll (action : Action) (e : Element) (q : Query) :
    List Device.Gesture → Session → Except Fault Unit × Session
  | [], s => (.ok (), s)
  | g :: gs, s =>
    match s.touch action e g q with
    | (.ok _, s) => touchAll action e q gs s
    | (.error f, s) => (.error f, s)

/-- What each gesture leaves alone is left alone by all of them. -/
theorem touchAll_keep {β : Type} {f : Session → β} {action : Action} {e : Element} {q : Query}
    (htouch : ∀ g s, f (s.touch action e g q).2 = f s) (gs : List Device.Gesture) (s : Session) :
    f (s.touchAll action e q gs).2 = f s := by
  induction gs generalizing s with
  | nil => rfl
  | cons g gs ih =>
    have hfirst := htouch g s
    rw [touchAll]
    generalize s.touch action e g q = r at hfirst ⊢
    obtain ⟨result, t⟩ := r
    cases result with
    | ok a => exact (ih t).trans hfirst
    | error fault => exact hfirst

end Session

namespace Interaction

/-- The query that an interaction acts on, given the one that its element was located with. -/
def aim (q : Query) : Interaction → Query
  | tapAny => { q with index := 0 }
  | _ => q

/-- What an interaction acts on has the location that its gestures are aimed at. -/
theorem aim_ofLocation (i : Interaction) (e : Element) (application : Option String)
    (l : Location) :
    i.aim (.ofLocation application l) = .ofLocation application ((i.action e).aim l) := by
  cases i <;> rfl

/-- An interaction that waits for the frame to settle acts on the node that was found. -/
theorem aim_eq_of_settles (i : Interaction) (e : Element) (l : Location) (h : i.settles = true) :
    (i.action e).aim l = l := by
  cases i with
  | tap => rfl
  | typeText text => rfl
  | _ => cases h

/-- What an interaction does when its element is located: it makes its gestures in turn. -/
def perform (i : Interaction) (e : Element) (q : Query) (s : Session) :
    Except Session.Fault Unit × Session :=
  (i.approach q s).touchAll (i.action e) e (i.aim q) i.gestures

/-- A single gesture is not followed by others. -/
theorem touchAll_singleton (action : Action) (e : Element) (q : Query) (g : Device.Gesture)
    (s : Session) : s.touchAll action e q [g] = s.touch action e g q := by
  rw [Session.touchAll]
  cases hanswer : s.touch action e g q with
  | mk result t => cases result <;> rfl

/-- A text is typed if the tap that comes first succeeds. -/
theorem perform_typeText (e : Element) (text : String) (q : Query) (s : Session) :
    (typeText text).perform e q s =
      let (result, t) := (s.waitUntilStable q).touch (.typeText e.text text) e .tap q
      match result with
      | .ok _ => t.touch (.typeText e.text text) e (.typeText text) q
      | .error f => (.error f, t) := by
  simp only [perform, gestures, approach, settles, if_true, aim, action]
  rw [Session.touchAll]
  simp only [touchAll_singleton]
  cases hanswer : (s.waitUntilStable q).touch (.typeText e.text text) e .tap q with
  | mk result t => cases result <;> rfl

/-- **All interactions follow one scheme.** -/
theorem run_eq_interact (i : Interaction) (clear : InterruptionCheck) (e : Element) (s : Session) :
    i.run clear e s = Session.interact clear (i.action e) e (i.perform e) s := by
  have hsingle : ∀ g q (s : Session),
      s.touchAll (i.action e) e q [g] = s.touch (i.action e) e g q :=
    fun g q s => touchAll_singleton _ e q g s
  cases i with
  | typeText text =>
    have hperform := funext fun q => funext fun s => perform_typeText e text q s
    rw [hperform]
    rfl
  | _ =>
    unfold perform
    simp only [gestures, hsingle]
    rfl

end Interaction

end

namespace Session

section

variable {engine : Template.Engine}

/-- The calls that a session made, in order. -/
def attempted (s : Session) : List Device.Call := s.device.attempts.toList

/-- Whether a fault is that of an element that cannot be located. -/
def Fault.isRefusal : Fault → Bool
  | template _ | notChecked _ | unresolved _ _ | dynamicElement _ => true
  | pageMissing _ _ _ | notHittable _ _ | device _ => false

variable {s t u : Session} {clear : InterruptionCheck} {e : Element}

/-! ### Passes -/

/-- From one state to another nothing was called for but screens. -/
def OnlyLooks (s t : Session) : Prop :=
  ∃ applications : List (Option String),
    t.attempted = s.attempted ++ applications.map .snapshot

theorem OnlyLooks.of_eq (h : t.attempted = s.attempted) : OnlyLooks s t :=
  ⟨[], by rw [h, List.map_nil, List.append_nil]⟩

theorem OnlyLooks.trans (h : OnlyLooks s t) (h' : OnlyLooks t u) : OnlyLooks s u := by
  obtain ⟨applications, ht⟩ := h
  obtain ⟨others, hu⟩ := h'
  exact ⟨applications ++ others, by rw [hu, ht, List.map_append, List.append_assoc]⟩

/-- A pass that can read the page calls for the screen of its application. -/
theorem attempted_resolve_of_ok {n : Nat} {xs : List Expectation}
    (h : Expectation.ofElements (s.lookAt n).1 = .ok xs) :
    (s.resolve n).2.attempted = s.attempted ++ [.snapshot (s.page n).application] := by
  rw [resolve_of_ok h]
  simp [attempted]

theorem onlyLooks_resolve [Template.Engine] (n : Nat) (s : Session) :
    OnlyLooks s (s.resolve n).2 := by
  cases hread : Expectation.ofElements (s.lookAt n).1 with
  | error a =>
    rw [resolve_of_error hread]
    exact .of_eq rfl
  | ok xs => exact ⟨[(s.page n).application], attempted_resolve_of_ok hread⟩

/-- Looking for the pages of monitors is a number of passes. -/
theorem firstShown_onlyLooks (ms : List Monitor) (s : Session) :
    OnlyLooks s (firstShown ms s).2 ∧ ∀ m, (firstShown ms s).1 = some m → m ∈ ms := by
  induction ms generalizing s with
  | nil =>
    refine ⟨.of_eq rfl, ?_⟩
    intro m hm
    cases hm
  | cons m ms ih =>
    have hcheck : OnlyLooks s (s.check m.page).2 := onlyLooks_resolve m.page s
    obtain ⟨hrest, hmem⟩ := ih (s.check m.page).2
    have hlater : OnlyLooks s (firstShown ms (s.check m.page).2).2 ∧
        ∀ m', (firstShown ms (s.check m.page).2).1 = some m' → m' ∈ m :: ms :=
      ⟨hcheck.trans hrest, fun m' hm' => List.mem_cons_of_mem m (hmem m' hm')⟩
    rw [firstShown]
    simp only
    split
    · split
      · refine ⟨hcheck, ?_⟩
        intro m' hm'
        cases hm'
        exact List.mem_cons_self
      · exact hlater
    · exact hlater

/-- **A check for interruptions calls for nothing but screens before it runs a handler**, and
nothing after that. -/
theorem interruptions_attempted (level : Nat) (s : Session) :
    ∃ t, OnlyLooks s t ∧ ((interruptions level s).2.attempted = t.attempted ∨
      ∃ m ∈ s.monitors, ∃ lower,
        (interruptions level s).2.attempted
          = (t.runHandler (interruptions lower) m.handler).2.attempted) := by
  cases level with
  | zero => exact ⟨s, .of_eq rfl, .inl rfl⟩
  | succ level =>
    obtain ⟨hlooks, hmem⟩ := firstShown_onlyLooks s.monitors { s with checking := true }
    have hstart : OnlyLooks s { s with checking := true } := .of_eq rfl
    rw [interruptions]
    split
    · exact ⟨s, .of_eq rfl, .inl rfl⟩
    · refine ⟨_, hstart.trans hlooks, ?_⟩
      simp only
      split
      · exact .inl rfl
      · rename_i m hm
        exact .inr ⟨m, hmem m hm, level, rfl⟩

/-! ### Locating the element -/

/-- The element of an interaction was located: a pass over the page that the element was last
checked with found it. -/
structure FoundBy [Template.Engine] (s : Session) (e : Element) (v : Survey) (l : Location) :
    Prop where
  /-- It is a pass over this page as it is now. -/
  pass : ∃ entry xs, s.cache.get? e.identity = some entry ∧
    Expectation.ofElements (s.lookAt entry.page).1 = .ok xs ∧ v = s.surveyOf entry.page xs
  found : v.found.location e.identity = some l

/-- What comes of locating an element: it is refused, or it was found by a pass. -/
inductive Sought [Template.Engine] (s : Session) (e : Element) : Except Fault Query × Session → Prop
  | refused {f : Fault} {t : Session} (refusal : f.isRefusal = true) (looks : OnlyLooks s t) :
      Sought s e (.error f, t)
  | located {v : Survey} {l : Location} {t : Session} (found : FoundBy s e v l)
      (calls : t.attempted = s.attempted ++ [.snapshot v.application])
      (history : t.history = .survey v :: s.history) :
      Sought s e (.ok (.ofLocation v.application l), t)

/-- **An element is refused after a pass at most, or it was found by a pass.** -/
theorem locate_sought [Template.Engine] (e : Element) (s : Session) : Sought s e (s.locate e) := by
  rw [locate]
  split
  · exact .refused rfl (.of_eq rfl)
  · split
    · exact .refused rfl (.of_eq rfl)
    · rename_i entry hentry
      cases hread : Expectation.ofElements (s.lookAt entry.page).1 with
      | error a =>
        simp only [resolve_of_error hread]
        exact .refused rfl (.of_eq rfl)
      | ok xs =>
        have hlooks := onlyLooks_resolve entry.page s
        have hcalls := attempted_resolve_of_ok hread
        rw [resolve_of_ok hread] at hlooks hcalls
        simp only [resolve_of_ok hread]
        split
        · exact .refused rfl hlooks
        · rename_i l hfound
          exact .located ⟨⟨entry, xs, hentry, hread, rfl⟩, hfound⟩ hcalls rfl

/-! ### Looks at the frame -/

theorem attempted_frame (q : Query) (s : Session) :
    (s.call fun d => d.frame q).2.attempted = s.attempted ++ [.frame q] := by
  simp [attempted, call]

/-- Looking at a frame again and again calls for nothing else. -/
theorem settle_attempted (q : Query) (deadline fuel : Nat) (last : Frame) (s : Session) :
    ∃ n, (settle q deadline fuel last s).attempted
      = s.attempted ++ List.replicate n (.frame q) := by
  induction fuel generalizing last s with
  | zero => exact ⟨0, by simp [settle]⟩
  | succ fuel ih =>
    have hlook : ((s.sleep s.settings.stablePollInterval).call fun d => d.frame q).2.attempted
        = s.attempted ++ [.frame q] := attempted_frame q _
    rw [settle]
    split
    · exact ⟨0, by simp⟩
    · simp only
      split
      · split
        · exact ⟨1, hlook⟩
        · obtain ⟨n, hn⟩ := ih _ ((s.sleep s.settings.stablePollInterval).call fun d => d.frame q).2
          refine ⟨n + 1, ?_⟩
          rw [hn, hlook, List.append_assoc, List.replicate_succ]
          rfl
      · exact ⟨1, hlook⟩

theorem waitUntilStable_attempted (q : Query) (s : Session) :
    ∃ n, (s.waitUntilStable q).attempted = s.attempted ++ List.replicate (n + 1) (.frame q) := by
  have hlook := attempted_frame q s
  rw [waitUntilStable]
  simp only
  split
  · obtain ⟨n, hn⟩ := settle_attempted q _ _ _ (s.call fun d => d.frame q).2
    refine ⟨n, ?_⟩
    rw [hn, hlook, List.append_assoc, List.replicate_succ]
    rfl
  · exact ⟨0, hlook⟩

/-- Before its gestures an interaction looks at the frame if it waits for it to settle, and does
nothing else. -/
theorem approach_attempted (i : Interaction) (q : Query) (s : Session) :
    (i.approach q s).history = s.history ∧
      ∃ n, (i.approach q s).attempted = s.attempted ++ List.replicate n (.frame q) ∧
        (n = 0 ↔ i.settles = false) := by
  rw [Interaction.approach]
  cases hsettles : i.settles with
  | false => exact ⟨rfl, 0, by simp, by simp⟩
  | true =>
    obtain ⟨-, hhistory⟩ : Moves (fun s => (none, s)) s _ ∧ _ := waitUntilStable_moves q s
    obtain ⟨n, hn⟩ := waitUntilStable_attempted q s
    exact ⟨hhistory, n + 1, hn, by simp⟩

/-! ### Gestures -/

/-- The call that a gesture is. -/
def Touch.call (t : Touch) : Device.Call := t.gesture.call t.query

/-- The device performs a gesture. -/
def Touch.Succeeds (t : Touch) : Prop := (t.device.perform t.query t.gesture).1 = .ok ()

/-- Gestures are made in turn until one fails: after each that succeeds comes the next one,
and none after one that fails. -/
inductive InTurn : List Device.Gesture → List Touch → Prop
  | nil : InTurn [] []
  | failed {t : Touch} (gs : List Device.Gesture) (h : ¬ t.Succeeds) :
      InTurn (t.gesture :: gs) [t]
  | succeeded {t : Touch} {gs : List Device.Gesture} {ts : List Touch} (h : t.Succeeds)
      (rest : InTurn gs ts) : InTurn (t.gesture :: gs) (t :: ts)

/-- Gestures for an element are made at the place of a query, in turn, and the result is a
success if all of them succeed. -/
structure TouchedAll (action : Action) (e : Element) (q : Query) (gs : List Device.Gesture)
    (s : Session) (r : Except Fault Unit × Session) (made : List Touch) : Prop where
  inTurn : InTurn gs made
  touches : ∀ t ∈ made, t.action = action ∧ t.element = e ∧ t.query = q
  calls : r.2.attempted = s.attempted ++ made.map Touch.call
  history : r.2.history = made.reverse.map .touch ++ s.history
  ok : r.1 = .ok () ↔ ∀ t ∈ made, t.Succeeds
  refusal : ∀ f, r.1 = .error f → f.isRefusal = false

theorem attempted_touch (action : Action) (g : Device.Gesture) (q : Query) (s : Session) :
    (s.touch action e g q).2.attempted = s.attempted ++ [g.call q] := by
  simp [attempted, touch, call]

/-- A gesture that fails is the last. -/
theorem TouchedAll.failed {action : Action} {q : Query} {g : Device.Gesture} {f : Device.Fault}
    (h : (s.device.perform q g).1 = .error f) (gs : List Device.Gesture) :
    TouchedAll action e q (g :: gs) s (.error (.device f), (s.touch action e g q).2)
      [⟨action, e, q, g, s.device⟩] := by
  have hfails : ¬ Touch.Succeeds ⟨action, e, q, g, s.device⟩ := by
    unfold Touch.Succeeds
    rw [h]
    intro hok
    cases hok
  refine ⟨.failed gs hfails, ?_, attempted_touch action g q s, rfl, ?_, ?_⟩
  · intro t ht
    rw [List.mem_singleton.mp ht]
    exact ⟨rfl, rfl, rfl⟩
  · simp [hfails]
  · intro f' hf'
    cases hf'
    rfl

/-- After a gesture that succeeds come the others. -/
theorem TouchedAll.succeeded {action : Action} {q : Query} {g : Device.Gesture}
    {gs : List Device.Gesture} {r : Except Fault Unit × Session} {made : List Touch}
    (h : (s.device.perform q g).1 = .ok ())
    (rest : TouchedAll action e q gs (s.touch action e g q).2 r made) :
    TouchedAll action e q (g :: gs) s r (⟨action, e, q, g, s.device⟩ :: made) := by
  have hsucceeds : Touch.Succeeds ⟨action, e, q, g, s.device⟩ := h
  refine ⟨.succeeded hsucceeds rest.inTurn, ?_, ?_, ?_, ?_, rest.refusal⟩
  · intro t ht
    rcases List.mem_cons.mp ht with rfl | ht
    · exact ⟨rfl, rfl, rfl⟩
    · exact rest.touches t ht
  · rw [rest.calls, attempted_touch, List.append_assoc]
    rfl
  · rw [rest.history, List.reverse_cons, List.map_append, List.append_assoc]
    rfl
  · rw [rest.ok, List.forall_mem_cons]
    exact (and_iff_right hsucceeds).symm

/-- **The gestures of an interaction are made in turn.** -/
theorem exists_touchedAll (action : Action) (e : Element) (q : Query) (gs : List Device.Gesture)
    (s : Session) : ∃ made, TouchedAll action e q gs s (s.touchAll action e q gs) made := by
  induction gs generalizing s with
  | nil =>
    rw [touchAll]
    exact ⟨[], .nil, by simp, by simp, by simp, by simp, by simp⟩
  | cons g gs ih =>
    have htouch : s.touch action e g q
        = ((s.device.perform q g).1.mapError .device, (s.touch action e g q).2) := rfl
    rw [touchAll, htouch]
    cases hperform : (s.device.perform q g).1 with
    | error f => exact ⟨_, .failed hperform gs⟩
    | ok a =>
      obtain ⟨made, hmade⟩ := ih (s.touch action e g q).2
      exact ⟨_, .succeeded hperform hmade⟩

/-! ### A whole interaction -/

/-- What an interaction does that is not refused, given the pass that found its element, where
it found it, the number of looks at the frame, and the gestures. -/
structure Conducted [Template.Engine] (i : Interaction) (e : Element) (s : Session)
    (r : Except Fault Unit × Session) (v : Survey) (l : Location) (looks : Nat)
    (made : List Touch) : Prop where
  /-- The pass is made by this interaction, over the page of the element, and finds it. -/
  foundBy : FoundBy s e v l
  /-- Nothing but the pass and the gestures is added to the history. -/
  history : r.2.history = made.reverse.map .touch ++ .survey v :: s.history
  /-- All gestures are for the element and go to where the pass found it. -/
  touches : ∀ t ∈ made, t.action = i.action e ∧ t.element = e ∧
    t.query = .ofLocation v.application ((i.action e).aim l)
  /-- The device is called for the pass, then for looks at the same place, then for the
  gestures, and for nothing else. -/
  calls : r.2.attempted = s.attempted ++ .snapshot v.application ::
    (List.replicate looks (.frame (.ofLocation v.application ((i.action e).aim l)))
      ++ made.map Touch.call)
  looks : looks = 0 ↔ i.settles = false
  /-- The gestures are those of the interaction, in turn. -/
  inTurn : InTurn i.gestures made
  ok : r.1 = .ok () ↔ ∀ t ∈ made, t.Succeeds

/-- **The conduct of interactions.**  Before it runs a handler the check for interruptions calls
for nothing but screens, and for nothing after it.  After the check the interaction is refused,
and then it calls for nothing but screens; or it makes a pass over the page of its element, and
all its other calls go to the place where this pass found the element: looks at the frame, if it
waits for it to settle, and then its gestures in turn until one fails.  It succeeds exactly if all
of its gestures do. -/
theorem run_conducted (i : Interaction) (level : Nat) (e : Element) (s : Session) :
    (∃ t, OnlyLooks s t ∧ ((interruptions level s).2.attempted = t.attempted ∨
      ∃ m ∈ s.monitors, ∃ lower, (interruptions level s).2.attempted
        = (t.runHandler (interruptions lower) m.handler).2.attempted)) ∧
    ((∃ f, (i.run (interruptions level) e s).1 = .error f ∧ f.isRefusal = true ∧
        OnlyLooks (interruptions level s).2 (i.run (interruptions level) e s).2) ∨
      ((∀ f, (i.run (interruptions level) e s).1 = .error f → f.isRefusal = false) ∧
        ∃ v l looks made, Conducted i e (interruptions level s).2
          (i.run (interruptions level) e s) v l looks made)) := by
  refine ⟨interruptions_attempted level s, ?_⟩
  rw [i.run_eq_interact, interact]
  simp only
  have hsought := locate_sought e (interruptions level s).2
  generalize (interruptions level s).2.locate e = answer at hsought ⊢
  cases hsought with
  | refused refusal looks => exact .inl ⟨_, rfl, refusal, looks⟩
  | @located v l t foundBy calls history =>
    obtain ⟨happroach, looks, hlooks, hzero⟩ :=
      approach_attempted i (.ofLocation v.application l) t
    obtain ⟨made, hmade⟩ := exists_touchedAll (i.action e) e
      (i.aim (.ofLocation v.application l)) i.gestures (i.approach (.ofLocation v.application l) t)
    refine .inr ⟨hmade.refusal, v, l, looks, made, foundBy, ?_, ?_, ?_, hzero, hmade.inTurn,
      hmade.ok⟩
    · refine hmade.history.trans ?_
      rw [happroach, history]
    · rw [← i.aim_ofLocation e]
      exact hmade.touches
    · -- an interaction that looks at the frame is aimed at the node that was found
      have haimed : List.replicate looks (Device.Call.frame (.ofLocation v.application l)) =
          List.replicate looks (.frame (.ofLocation v.application ((i.action e).aim l))) := by
        cases hsettles : i.settles with
        | false => rw [hzero.mpr hsettles, List.replicate_zero, List.replicate_zero]
        | true => rw [i.aim_eq_of_settles e l hsettles]
      refine hmade.calls.trans ?_
      rw [hlooks, calls, haimed, List.append_assoc, List.append_assoc]
      rfl

end

/-- A text is typed after a tap even if the frame of its node cannot be had. -/
example :
    let device : Device :=
      { screens := [(none, Resolution.sampleScreen)], failures := [(.frame, ⟨.timeout, none⟩)] }
    let page : Page := { name := "Checkout", bodies := [⟨Resolution.samplePage, []⟩] }
    let total : Element := ⟨.declared 1, .staticText, none, some "Total", none, []⟩
    let s := ((start { defaultMonitors := false } device [page] 6).executeAll
      [.check 0, .typeText total "12"]).2
    s.attempted.map Device.Call.service = [.snapshot, .snapshot, .frame, .tap, .typeText] := by
  decide +kernel

end Session

end ScreenPages
