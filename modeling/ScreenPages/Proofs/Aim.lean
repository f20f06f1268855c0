import ScreenPages.Proofs.Relocation
import ScreenPages.Proofs.Run

/-!
# What gestures hit

Between the pass that finds an element and the gesture for it the screen may change: while
the session waits for a frame to settle, by a tap that comes first, or by itself.  The
location is then out of date, and the gesture may go to another node than the one that was
found, or to none.  But a path ends with the whole step of the node, and only a node with this
step counts as the same place.  So whatever a gesture hits is as the element asks.

## Main definitions

* `Session.Survey.Genuine` — a pass that tells what the page and the screen make of it.
* `Session.Sound` — every gesture of a history is aimed at what the last pass found.
* `Session.Touch.Aimed` — a gesture hits nothing but a node that is as its element asks.

## Main results

* `Device.perform_eq_ok_iff` — when a device performs a gesture.
* `Session.sound_executeAll` — the history of every run is sound.
* `Session.executeAll_aimed` — every gesture of every run is aimed.
-/

namespace ScreenPages

/-! ### What a device does with a gesture -/

namespace Device

variable {d : Device} {q : Query}

/-- The node that a device finds is on the screen of the application, at the location of the
query. -/
theorem find_eq_ok_iff {entry : Snapshot.Entry} :
    d.find q = .ok entry ↔ ∃ tree p, d.screens.get? q.application = some tree ∧
      (Snapshot.ofTree tree).locate q.location = some p ∧
      Snapshot.entry? (Snapshot.ofTree tree) p = some entry := by
  rw [find]
  cases hscreen : d.screens.get? q.application with
  | none => simp
  | some tree =>
    simp only [Option.some.injEq, exists_and_left, exists_eq_left', ← Option.bind_eq_some_iff]
    cases ((Snapshot.ofTree tree).locate q.location).bind
        fun p => Snapshot.entry? (Snapshot.ofTree tree) p with
    | none => simp
    | some e => simp

/-- A call succeeds exactly if no failure awaits it and the device acts with success. -/
theorem receive_eq_ok_iff {α : Type} {c : Call} {act : Device → Except Fault α × Device} {a : α} :
    (d.receive c act).1 = .ok a ↔
      d.nextFailure c.service = none ∧ (act (d.reached c)).1 = .ok a := by
  rw [receive]
  cases d.nextFailure c.service with
  | none => simp
  | some failure => simp

/-- **A gesture is performed exactly if no failure awaits it and its node is there when it
reaches the device.** -/
theorem perform_eq_ok_iff {g : Gesture} :
    (d.perform q g).1 = .ok () ↔
      d.nextFailure (g.call q).service = none ∧
        ∃ entry, (d.reached (g.call q)).find q = .ok entry := by
  cases g with
  | tap =>
    rw [perform, tap, receive_eq_ok_iff, Gesture.call]
    cases (d.reached (.tap q)).find q with
    | error fault => simp
    | ok entry => simp
  | typeText text =>
    rw [perform, typeText, receive_eq_ok_iff, Gesture.call]
    cases (d.reached (.typeText q text)).find q with
    | error fault => simp [Except.map]
    | ok entry => simp [Except.map]
  | scroll dx dy =>
    rw [perform, scroll, receive_eq_ok_iff, Gesture.call]
    cases (d.reached (.scroll q dx dy)).find q with
    | error fault => simp [Except.map]
    | ok entry => simp [Except.map]

end Device

namespace Session

section

variable {engine : Template.Engine}

/-! ### What a pass knows -/

/-- A pass tells what the page, once its templates are read, makes of the screen. -/
def Survey.Genuine [Template.Engine] (v : Survey) : Prop :=
  ∃ xs, Expectation.ofElements v.body = .ok xs ∧ v.found = .ofPage xs v.screen

/-- A location that a pass gives is one of its sightings on a screen. -/
theorem Survey.Genuine.exists_sighting {v : Survey} (h : v.Genuine) {i : Identity} {l : Location}
    (hfound : v.found.location i = some l) :
    ∃ xs root x, Expectation.ofElements v.body = .ok xs ∧ v.screen = some root ∧
      x ∈ (Resolution.search xs root).2.sightings ∧ x.identity = i ∧ x.location = l := by
  obtain ⟨xs, hread, hv⟩ := h
  rw [hv, Resolution.location, Option.map_eq_some_iff] at hfound
  obtain ⟨f, hfind, rfl⟩ := hfound
  have hmem := List.mem_of_find?_eq_some hfind
  have hidentity := List.find?_some hfind
  cases hscreen : v.screen with
  | none =>
    rw [hscreen] at hmem
    cases hmem
  | some root =>
    rw [hscreen, Resolution.ofPage] at hmem
    obtain ⟨x, hx, rfl⟩ := List.mem_map.mp hmem
    exact ⟨xs, root, x, hread, rfl, hx, by simpa using hidentity, rfl⟩

/-- **The path that a pass gives leads to a node on its screen, and ends with a step that is as
one of the elements of the page asks.** -/
theorem Survey.Genuine.exists_matches {v : Survey} (h : v.Genuine) {i : Identity} {l : Location}
    (hfound : v.found.location i = some l) :
    ∃ root p, v.screen = some root ∧ p < (Snapshot.ofTree root).size ∧
      l.path = (Snapshot.ofTree root).path p ∧
      ∃ e ∈ Element.flattenList v.body, e.identity = i ∧
        ∃ step captures, l.path.getLast? = some step ∧ e.Matches step captures := by
  obtain ⟨xs, root, x, hread, hscreen, hx, hidentity, hlocation⟩ := h.exists_sighting hfound
  obtain ⟨e, he, hei, captures, hshows⟩ := Resolution.exists_shows_of_mem hread hx
  obtain ⟨before, after, hsplit⟩ := List.append_of_mem hx
  have hpath : l.path = (Snapshot.ofTree root).path x.position := by
    rw [← hlocation, Resolution.numbered_search hread root before x after hsplit]
  have hlt := hshows.lt_size
  obtain ⟨entry, hentry, hmatches⟩ := hshows
  have hlast : l.path.getLast? = some entry.step := by
    rw [hpath, Snapshot.getLast?_path, hentry]
    rfl
  exact ⟨root, x.position, hscreen, hlt, hpath, e, he, hei.trans hidentity,
    entry.step, captures, hlast, hmatches⟩

/-! ### Histories -/

/-- Every pass of a history is genuine, and every gesture is aimed at a location where the
pass of its interaction found the element. -/
inductive Sound [Template.Engine] : List Event → Prop
  | nil : Sound []
  | survey {v : Survey} {events : List Event} (genuine : v.Genuine) (rest : Sound events) :
      Sound (.survey v :: events)
  | touch {t : Touch} {v : Survey} {l : Location} {events : List Event}
      (located : Located events t.action t.element v l)
      (query : t.query = .ofLocation v.application (t.action.aim l)) (rest : Sound events) :
      Sound (.touch t :: events)

/-- What happened before some event is sound by itself. -/
theorem Sound.of_append {later earlier : List Event} (h : Sound (later ++ earlier)) :
    Sound earlier := by
  induction later with
  | nil => exact h
  | cons event later ih =>
    cases h with
    | survey _ rest => exact ih rest
    | touch _ _ rest => exact ih rest

/-- The passes of a sound history are genuine. -/
theorem Sound.genuine {events : List Event} (h : Sound events) {v : Survey}
    (hv : .survey v ∈ events) : v.Genuine := by
  induction h with
  | nil => cases hv
  | survey genuine _ ih =>
    rcases List.mem_cons.mp hv with heq | hv
    · cases heq
      exact genuine
    · exact ih hv
  | touch _ _ _ ih =>
    rcases List.mem_cons.mp hv with heq | hv
    · cases heq
    · exact ih hv

/-- **A step keeps the history sound.** -/
theorem Step.sound {s t : Session} (h : Step s t) (hs : Sound s.history) : Sound t.history := by
  cases h with
  | resolve _ n =>
    cases hread : Expectation.ofElements (s.lookAt n).1 with
    | error a => rwa [resolve_of_error hread]
    | ok xs =>
      rw [resolve_of_ok hread]
      exact .survey ⟨xs, hread, rfl⟩ hs
  | touch _ h g => exact .touch h rfl hs
  | frame => exact hs
  | isHittable => exact hs
  | sleep => exact hs
  | log => exact hs
  | setChecking => exact hs
  | setTrace => exact hs
  | panic => exact hs
  | direct _ clear c h => rwa [(untouched_run_of_isDirect clear s h).history]

/-- Nothing has happened at the beginning. -/
theorem history_startUntil (last : Nat) (settings : Settings) (device : Device)
    (pages : List Page) (next : Nat) :
    (startUntil last settings device pages next).history = [] := by
  rw [startUntil]
  split
  · rfl
  · rfl

/-- **The history of every run is sound.** -/
theorem sound_executeAll [Template.Engine] (last : Nat) (settings : Settings) (device : Device)
    (pages : List Page) (next : Nat) (commands : List Command) :
    Sound ((startUntil last settings device pages next).executeAll commands).2.history := by
  refine (executeAll_steps _ commands).keep (P := fun s => Sound s.history) ?_ ?_
  · intro s t hstep hs
    exact hstep.sound hs
  · rw [history_startUntil]
    exact .nil

/-! ### What a gesture hits -/

/-- The screens when a gesture reaches the device. -/
def Touch.screens (t : Touch) : Device.Screens :=
  (t.device.reached (t.gesture.call t.query)).screens

/-- A gesture is aimed at what a pass found: it hits nothing but a node that is as an element
with the identity of its own asks, and a tap on any of several nodes hits the first of them. -/
structure Touch.Aimed [Template.Engine] (t : Touch) (v : Survey) : Prop where
  application : t.query.application = v.application
  /-- The node that the device touches, if it does, is on the screen of the application of the
  page and is as one of the elements of the page asks. -/
  hit : (t.device.perform t.query t.gesture).1 = .ok () →
    ∃ tree p entry, t.screens.get? v.application = some tree ∧
      (Snapshot.ofTree tree).locate t.query.location = some p ∧
      Snapshot.entry? (Snapshot.ofTree tree) p = some entry ∧
      ∃ e ∈ Element.flattenList v.body, e.identity = t.element.identity ∧
        ∃ captures, e.Matches entry.step captures
  /-- If the screen is still the one that the pass looked at, a tap on any of several nodes
  finds the first that counts as the same place, and nothing but a failure that awaits the
  call keeps the device from performing it. -/
  first : ∀ text, t.action = .tapAny text → t.screens.get? v.application = v.screen →
    ∃ l tree p, v.found.location t.element.identity = some l ∧ v.screen = some tree ∧
      (Snapshot.ofTree tree).locate t.query.location = some p ∧
      Snapshot.relocationKey ((Snapshot.ofTree tree).path p) = Snapshot.relocationKey l.path ∧
      (∀ q < p, Snapshot.relocationKey ((Snapshot.ofTree tree).path q)
        ≠ Snapshot.relocationKey l.path) ∧
      (t.device.nextFailure (t.gesture.call t.query).service = none →
        (t.device.perform t.query t.gesture).1 = .ok ())

/-- The location that a gesture is aimed at has the path that was found. -/
@[simp] theorem path_aim (action : Action) (l : Location) : (action.aim l).path = l.path := by
  cases action with
  | tapAny text => rfl
  | _ => rfl

/-- **A gesture for an element that a genuine pass found is aimed**, whatever became of the
screen since. -/
theorem Survey.Genuine.aimed {v : Survey} (h : v.Genuine) {t : Touch} {l : Location}
    (hfound : v.found.location t.element.identity = some l)
    (hquery : t.query = .ofLocation v.application (t.action.aim l)) : t.Aimed v := by
  obtain ⟨root, p₀, hscreen, hlt, hpath, e, he, hidentity, step, captures, hlast, hmatches⟩ :=
    h.exists_matches hfound
  have happlication : t.query.application = v.application := by rw [hquery]; rfl
  have hlocation : t.query.location = t.action.aim l := by rw [hquery]; rfl
  refine ⟨happlication, ?_, ?_⟩
  · intro hok
    obtain ⟨-, entry, hfind⟩ := Device.perform_eq_ok_iff.mp hok
    obtain ⟨tree, p, htree, hlocate, hentry⟩ := Device.find_eq_ok_iff.mp hfind
    rw [happlication] at htree
    -- the node that is hit ends the recorded path, as the node that was found did
    obtain ⟨entry', hentry', hend⟩ := Snapshot.step_eq_of_locate hlocate
    rw [hentry] at hentry'
    cases hentry'
    rw [hlocation, path_aim, hlast] at hend
    cases hend
    exact ⟨tree, p, entry, htree, hlocate, hentry, e, he, hidentity, captures, hmatches⟩
  · intro text haction hsame
    have haim : t.query.location = ⟨l.path, 0⟩ := by rw [hlocation, haction]; rfl
    have hsame_place := congrArg Snapshot.relocationKey hpath.symm
    obtain ⟨p, hlocate⟩ := Snapshot.exists_locate_first hlt hsame_place
    obtain ⟨hp, hkey, hrank⟩ := Snapshot.locate_eq_some_iff.mp hlocate
    refine ⟨l, root, p, hfound, hscreen, ?_, hkey, Snapshot.rank_eq_zero_iff.mp hrank.symm, ?_⟩
    · rw [haim]
      exact hlocate
    · intro hfailure
      refine Device.perform_eq_ok_iff.mpr ⟨hfailure, (Snapshot.ofTree root).entries[p], ?_⟩
      rw [Device.find_eq_ok_iff]
      refine ⟨root, p, ?_, ?_, Array.getElem?_eq_getElem hp⟩
      · rw [hscreen] at hsame
        rw [happlication]
        exact hsame
      · rw [haim]
        exact hlocate

/-- **Every gesture of every run is aimed** at what the pass of its own interaction found:
before the gesture came this pass, and nothing between them but gestures of the same
interaction. -/
theorem executeAll_aimed (last : Nat) (settings : Settings) (device : Device) (pages : List Page)
    (next : Nat) (commands : List Command) {later earlier : List Event} {t : Touch}
    (hsplit : ((startUntil last settings device pages next).executeAll commands).2.history
      = later ++ .touch t :: earlier) :
    ∃ (v : Survey) (touches : List Touch) (older : List Event),
      earlier = touches.map .touch ++ .survey v :: older ∧
      (∀ u ∈ touches, u.action = t.action ∧ u.element = t.element) ∧ t.Aimed v := by
  have hsound := sound_executeAll last settings device pages next commands
  rw [hsplit] at hsound
  obtain _ | _ | ⟨hlocated, hquery, hrest⟩ := hsound.of_append
  rename_i v l
  obtain ⟨touches, older, hevents, htouches⟩ := hlocated.since
  refine ⟨v, touches, older, hevents, htouches, ?_⟩
  have hmem : Event.survey v ∈ earlier := by
    rw [hevents]
    exact List.mem_append_right _ List.mem_cons_self
  exact (hrest.genuine hmem).aimed hlocated.found hquery

end

/-- A session that checks the sample page on the sample screen, and then taps any of the twins
of its button. -/
def sampleRun : Session :=
  ((start { defaultMonitors := false }
      { screens := [(none, Resolution.sampleScreen)], reportsFrames := false }
      [{ name := "Checkout", bodies := [⟨Resolution.samplePage, []⟩] }] 6).executeAll
    [.check 0, .tapAny ⟨.declared 4, .button, some "ok", some "OK", none, []⟩]).2

/-- Whether the last entry of a history is a gesture that the device performs. -/
def endsInTouch : List Event → Bool
  | .touch t :: _ => (t.device.perform t.query t.gesture).1.isOk
  | _ => false

/-- The sample run ends with a gesture that the device performs. -/
theorem executeAll_aimed_sample : ∃ t earlier v, sampleRun.history = [] ++ .touch t :: earlier ∧
    t.Aimed v ∧ (t.device.perform t.query t.gesture).1.isOk = true := by
  have hlast : endsInTouch sampleRun.history = true := by decide +kernel
  cases hhistory : sampleRun.history with
  | nil => rw [hhistory] at hlast; cases hlast
  | cons event earlier =>
    rw [hhistory] at hlast
    cases event with
    | survey v => cases hlast
    | touch t =>
      have hsplit : sampleRun.history = [] ++ .touch t :: earlier := hhistory
      rw [sampleRun, start] at hsplit
      obtain ⟨v, -, -, -, -, haimed⟩ := executeAll_aimed _ _ _ _ _ _ hsplit
      exact ⟨t, earlier, v, rfl, haimed, hlast⟩

end Session

end ScreenPages
