import ScreenPages.Proofs.Conduct
import ScreenPages.Proofs.Numbering
import ScreenPages.Proofs.Quiet
import ScreenPages.Proofs.Recognition
import ScreenPages.Proofs.Reentrancy

/-!
# Declining alerts

The monitors that decline system alerts look for two pages: an alert with a button that has the
label of the decline button and another button behind it, and then any alert with two buttons,
the first of which is taken for the one that declines.  So what they tap is the decline button
exactly if some other button stands behind a button with its label.  An alert in which the decline
button comes last is taken for the second page, and the button that is tapped is then another one.

What is tapped has the step of the node that the last pass found, whatever has become of the
screen since.

## Main definitions

* `Snapshot.Button`, `Snapshot.TwoButtons`, `Snapshot.Offers` — what an alert has to hold.
* `Session.Declining` — the only monitors of a session are those that decline alerts.
* `Device.Presents` — a device gives a screen of an application, and will go on to do so.
* `Session.Adds` — what the gestures are that were added to a history.

## Main results

* `SystemAlert.missing_eq_nil_iff` — when the page of an alert is there.
* `SystemAlert.exists_twoButtons` — where its decline button is found.
* `Session.declining_installDefaultMonitors` — a session that declines alerts.
* `Session.interruptions_taps_deny_iff` — when the node that is tapped is the decline button.
-/

namespace ScreenPages

section

variable {engine : Template.Engine}

/-! ### Buttons in an alert -/

namespace Snapshot

/-- The node at a position is a button, with a label if one is asked for. -/
def Button (s : Snapshot) (p : Nat) (label : Option String) : Prop :=
  ∃ e, s.entry? p = some e ∧ e.step.kind = .button ∧ ∀ l, label = some l → e.step.label = l

/-- Below a position stands a button, with a label if one is asked for, and another button
somewhere behind it. -/
structure TwoButtons (s : Snapshot) (a : Nat) (label : Option String) (p q : Nat) : Prop where
  below : a < p
  behind : p < q
  inside : q < s.stop a
  first : s.Button p label
  second : s.Button q none

/-- An alert can be declined with the first of two of its buttons. -/
def Offers (s : Snapshot) (a : Nat) (label : Option String) : Prop :=
  ∃ p q, s.TwoButtons a label p q

/-- The node at a position is an alert, and no other is. -/
def OnlyAlert (s : Snapshot) (a : Nat) : Prop :=
  ∀ p, (∃ e, s.entry? p = some e ∧ e.step.kind = .alert) ↔ p = a

/-- Whether a position is that of the only alert can be tried at the positions of a snapshot. -/
instance (s : Snapshot) (a : Nat) : Decidable (s.OnlyAlert a) :=
  decidable_of_iff (∀ p < max s.size (a + 1),
      (s.entry? p).any (fun e => e.step.kind == .alert) = true ↔ p = a) <| by
    simp only [OnlyAlert, Option.any_eq_true, beq_iff_eq]
    constructor
    · intro h p
      by_cases hp : p < max s.size (a + 1)
      · exact h p hp
      · have hnone : s.entry? p = none := Array.getElem?_eq_none (show s.size ≤ p by omega)
        simp only [hnone, reduceCtorEq, false_and, exists_false, false_iff]
        omega
    · exact fun h p _ => h p

variable {s : Snapshot} {a p : Nat} {label : Option String}

/-- A button is a button whatever label is asked for. -/
theorem Button.unlabelled (h : s.Button p label) : s.Button p none := by
  obtain ⟨e, hentry, hkind, -⟩ := h
  exact ⟨e, hentry, hkind, nofun⟩

theorem Offers.unlabelled (h : s.Offers a label) : s.Offers a none := by
  obtain ⟨p, q, hbuttons⟩ := h
  exact ⟨p, q, { hbuttons with first := hbuttons.first.unlabelled }⟩

end Snapshot

/-- A plain text fits itself only. -/
theorem Fits.plain_iff {source text : String} (h : Template.Plain source)
    {captures : List Capture} :
    Fits (some source) (some text) captures ↔ text = source ∧ captures = [] := by
  constructor
  · rintro (_ | ⟨hread, hcaptured⟩)
    rw [Template.ofText_plain h] at hread
    cases hread
    simp only [Template.capture, String.toList_inj, Option.ite_none_right_eq_some,
      Option.some.injEq] at hcaptured
    exact ⟨hcaptured.1, hcaptured.2.symm⟩
  · rintro ⟨rfl, rfl⟩
    exact .plain h

/-! ### The page of an alert -/

namespace SystemAlert

/-- The element of an alert. -/
def element (a : SystemAlert) : Element :=
  { identity := a.identity, kind := .alert, children := a.text.toList ++ [a.disallow, a.allow] }

/-- The page of an alert has the alert as its only element. -/
theorem lookAt_page (a : SystemAlert) (next : Nat) : a.page.body.lookAt next = [a.element] :=
  Page.Body.lookAt_mk_nil _ next

variable {name : String} {label : Option String} {next : Nat}

/-- What the buttons of an alert ask for. -/
theorem shows_button_iff {s : Snapshot} {p n : Nat}
    (hplain : ∀ l, label = some l → Template.Plain l) {captures : List Capture} :
    s.Shows p { identity := .declared n, kind := .button, label } captures
      ↔ s.Button p label ∧ captures = [] := by
  have hlabel : ∀ text c, Fits label (some text) c ↔ (∀ l, label = some l → text = l) ∧ c = [] := by
    intro text c
    cases label with
    | none =>
      constructor
      · rintro ⟨⟩
        exact ⟨nofun, rfl⟩
      · rintro ⟨-, rfl⟩
        exact .unasked _
    | some l =>
      rw [Fits.plain_iff (hplain l rfl)]
      simp
  constructor
  · rintro ⟨e, hentry, hkind, -, c, v, hl, hv, rfl⟩
    obtain ⟨htext, rfl⟩ := (hlabel _ _).mp hl
    obtain _ | _ := hv
    refine ⟨⟨e, hentry, ?_, htext⟩, rfl⟩
    simpa [eq_comm] using hkind
  · rintro ⟨⟨e, hentry, hkind, htext⟩, rfl⟩
    refine ⟨e, hentry, .inr hkind.symm, nofun, ?_⟩
    exact ⟨[], [], (hlabel _ _).mpr ⟨htext, rfl⟩, .unasked _, rfl⟩

theorem shows_any_button_iff {s : Snapshot} {p n : Nat} {captures : List Capture} :
    s.Shows p { identity := .declared n, kind := .button } captures
      ↔ s.Button p none ∧ captures = [] :=
  shows_button_iff fun l hl => by cases hl

theorem children_build : (build name none label next).element.children =
    [{ identity := .declared next, kind := .button, label },
      { identity := .declared (next + 1), kind := .button }] := rfl

/-- Places of the buttons of an alert are two such buttons. -/
theorem exists_twoButtons_of_placed {s : Snapshot} {a : Nat}
    (hplain : ∀ l, label = some l → Template.Plain l) {fs : List Finding}
    (h : Placed s (a + 1) (s.stop a) (build name none label next).element.children fs) :
    ∃ p q, s.TwoButtons a label p q ∧
      fs = [⟨.declared next, p, [], []⟩, ⟨.declared (next + 1), q, [], []⟩] := by
  rw [children_build] at h
  obtain _ | ⟨first, below, rest⟩ := h
  obtain _ | ⟨second, below', rest⟩ := rest
  cases below
  cases below'
  cases rest
  obtain ⟨hfirst, rfl⟩ := (shows_button_iff hplain).mp first.shows
  obtain ⟨hsecond, rfl⟩ := shows_any_button_iff.mp second.shows
  exact ⟨_, _, ⟨first.le, second.le, second.lt, hfirst, hsecond⟩, rfl⟩

/-- **The buttons of an alert have places if there are two, the first as asked.** -/
theorem exists_placed_of_offers {s : Snapshot} {a : Nat}
    (hplain : ∀ l, label = some l → Template.Plain l) (h : s.Offers a label) :
    ∃ fs, Placed s (a + 1) (s.stop a) (build name none label next).element.children fs := by
  obtain ⟨p, q, hbuttons⟩ := h
  have hbehind := hbuttons.behind
  have hinside := hbuttons.inside
  -- the search takes the first such button, and the first button behind that one
  obtain ⟨p', c, hfirst, hle⟩ := Snapshot.Shows.exists_first
    ((shows_button_iff hplain).mpr ⟨hbuttons.first, rfl⟩) hbuttons.below
    (show p < s.stop a by omega)
  obtain ⟨q', c', hsecond, -⟩ := Snapshot.Shows.exists_first
    (shows_any_button_iff.mpr ⟨hbuttons.second, rfl⟩) (show p' + 1 ≤ q by omega) hinside
  exact ⟨_, .cons hfirst .nil (.cons hsecond .nil .nil)⟩

/-- An alert stands for the only alert of a screen. -/
theorem first_element_iff {s : Snapshot} {a : Nat} (ha : s.OnlyAlert a) {p : Nat}
    {captures : List Capture} :
    s.First 0 s.size (build name none label next).element p captures
      ↔ p = a ∧ captures = [] := by
  have hshows : ∀ p c, s.Shows p (build name none label next).element c ↔ p = a ∧ c = [] := by
    intro p c
    rw [← ha p]
    constructor
    · rintro ⟨e, hentry, hkind, -, l, v, hl, hv, rfl⟩
      obtain _ | _ := hl
      obtain _ | _ := hv
      refine ⟨⟨e, hentry, ?_⟩, rfl⟩
      simpa [element, eq_comm] using hkind
    · rintro ⟨⟨e, hentry, hkind⟩, rfl⟩
      exact ⟨e, hentry, .inr hkind.symm, nofun, [], [], .unasked _, .unasked _, rfl⟩
  constructor
  · intro h
    exact (hshows _ _).mp h.shows
  · rintro ⟨rfl, rfl⟩
    have hself := (hshows p []).mpr ⟨rfl, rfl⟩
    refine ⟨Nat.zero_le _, hself.lt_size, hself, ?_⟩
    intro q _ hlt c hc
    have := ((hshows q c).mp hc).1
    omega

/-! ### A pass over the page of an alert -/

variable {xs : List Expectation} {root : Node} {a : Nat}

/-- The page of an alert without a text is read if the label is plain. -/
theorem exists_ofElements (hplain : ∀ l, label = some l → Template.Plain l) :
    ∃ xs, Expectation.ofElements [(build name none label next).element] = .ok xs := by
  have hlabel : ∃ t, Matcher.templateOf? label = .ok t := by
    cases label with
    | none => exact ⟨none, rfl⟩
    | some l => exact ⟨_, by rw [Matcher.templateOf?, Template.ofText_plain (hplain l rfl)]; rfl⟩
  obtain ⟨t, ht⟩ := hlabel
  simp only [Expectation.ofElements, Expectation.ofElement, element, build, Option.map_none,
    Option.toList_none, List.nil_append, List.mapM_cons, List.mapM_nil, Matcher.ofElement, ht]
  exact ⟨_, rfl⟩

/-- What the search for the page of an alert finds on a screen with one alert: nothing, or the
alert and two of its buttons. -/
theorem search_cases (ha : (Snapshot.ofTree root).OnlyAlert a)
    (hplain : ∀ l, label = some l → Template.Plain l)
    (hread : Expectation.ofElements [(build name none label next).element] = .ok xs) :
    (¬ (Snapshot.ofTree root).Offers a label ∧
        Resolution.search xs root = ([(build name none label next).element], {})) ∨
      ∃ p q, (Snapshot.ofTree root).TwoButtons a label p q ∧
        (Resolution.search xs root).1 = [] ∧
        (Resolution.search xs root).2.sightings.map
            (fun x => (x.identity, x.position, x.location.path))
          = [(.declared (next + 3), a, (Snapshot.ofTree root).path a),
            (.declared next, p, (Snapshot.ofTree root).path p),
            (.declared (next + 1), q, (Snapshot.ofTree root).path q)] := by
  obtain ⟨os, hpage, hassigned, hsearch⟩ := Resolution.exists_search_eq hread root
  cases hassigned with
  | nil => cases hpage
  | @cons _ e outcome rest found missing behind =>
    simp only [List.map_cons, List.cons.injEq, List.map_eq_nil_iff] at hpage
    obtain ⟨rfl, rfl⟩ := hpage
    rw [hsearch]
    cases outcome with
    | none =>
      refine .inl ⟨?_, rfl⟩
      -- two buttons would give the alert a place
      intro hoffers
      obtain ⟨fs, hfs⟩ : ∃ fs, Placed _ _ _ (build name none label next).element.children fs :=
        exists_placed_of_offers hplain hoffers
      have hplaced := Placed.cons ((first_element_iff ha).mpr ⟨rfl, rfl⟩) hfs .nil
      exact hplaced.not_gap (missing.mp rfl)
    | some f =>
      have hplaced := (found f).mp rfl
      obtain _ | ⟨first, below, rest⟩ := hplaced
      cases rest
      obtain ⟨rfl, rfl⟩ := (first_element_iff ha).mp first
      obtain ⟨p, q, hbuttons, rfl⟩ := exists_twoButtons_of_placed hplain below
      refine .inr ⟨p, q, hbuttons, rfl, ?_⟩
      rw [Notes.map_sightings_addAll]
      simp [build, element]

/-- **The page of an alert is there exactly if the only alert of the screen has two buttons, the
first of them as asked.** -/
theorem missing_eq_nil_iff (ha : (Snapshot.ofTree root).OnlyAlert a)
    (hplain : ∀ l, label = some l → Template.Plain l)
    (hread : Expectation.ofElements [(build name none label next).element] = .ok xs) :
    (Resolution.ofPage xs (some root)).missing = [] ↔ (Snapshot.ofTree root).Offers a label := by
  rw [Resolution.ofPage_some]
  rcases search_cases ha hplain hread with ⟨hnone, hsearch⟩ | ⟨p, q, hbuttons, hmissing, -⟩
  · simp [hsearch, hnone]
  · simp only [hmissing, true_iff]
    exact ⟨p, q, hbuttons⟩

/-- **The button that declines an alert is found at the first of two buttons in the only alert
of the screen**, and is as asked. -/
theorem exists_twoButtons (ha : (Snapshot.ofTree root).OnlyAlert a)
    (hplain : ∀ l, label = some l → Template.Plain l)
    (hread : Expectation.ofElements [(build name none label next).element] = .ok xs)
    {l : Location} (hfound : (Resolution.ofPage xs (some root)).location (.declared next) = some l) :
    ∃ p q, (Snapshot.ofTree root).TwoButtons a label p q ∧
      l.path = (Snapshot.ofTree root).path p := by
  rw [Resolution.ofPage_some, Resolution.location, Option.map_eq_some_iff] at hfound
  obtain ⟨f, hfind, rfl⟩ := hfound
  obtain ⟨x, hx, rfl⟩ := List.mem_map.mp (List.mem_of_find?_eq_some hfind)
  have hidentity : x.identity = .declared next := by simpa using List.find?_some hfind
  rcases search_cases ha hplain hread with ⟨-, hsearch⟩ | ⟨p, q, hbuttons, -, hsightings⟩
  · rw [hsearch] at hx
    cases hx
  · have hmem := List.mem_map_of_mem
      (f := fun x : Sighting => (x.identity, x.position, x.location.path)) hx
    rw [hsightings] at hmem
    simp [hidentity] at hmem
    exact ⟨p, q, hbuttons, hmem.2⟩

end SystemAlert

/-! ### A screen that stays -/

namespace Device

/-- A device gives a screen of an application when it is asked for it: no call for a screen is
made to fail, and the screen does not change by itself. -/
structure Presents (d : Device) (application : Option String) (root : Node) : Prop where
  unfailing : d.nextFailure .snapshot = none
  screen : d.screens.get? application = some root
  still : ∀ n ss, (d.drift n ss).get? application = Screens.get? ss application

variable {d : Device} {application : Option String} {root : Node}

/-- A screen that is presented is given. -/
theorem Presents.toOption_snapshot (h : d.Presents application root) :
    (d.snapshot application).1.toOption = some root := by
  have hscreen : (d.reached (.snapshot application)).screens.get? application = some root :=
    (h.still _ _).trans h.screen
  rw [snapshot, receive, Call.service, h.unfailing]
  simp only [hscreen]
  rfl

/-- It is still presented after it was asked for. -/
theorem Presents.asked (h : d.Presents application root) :
    (d.snapshot application).2.Presents application root := by
  rw [snd_snapshot h.unfailing]
  exact ⟨nextFailure_reached h.unfailing _, (h.still _ _).trans h.screen, h.still⟩

end Device

end

namespace Session

variable {s t u : Session}

section

variable {engine : Template.Engine}

/-! ### The gestures that are added -/

/-- What was added to the history of a session, and what all gestures in it are like. -/
def Adds (P : Touch → Prop) (s t : Session) : Prop :=
  ∃ newer, t.history = newer ++ s.history ∧ ∀ x, .touch x ∈ newer → P x

variable {P Q : Touch → Prop}

theorem Adds.of_eq (h : t.history = s.history) : Adds P s t := ⟨[], h, nofun⟩

theorem Adds.trans (h : Adds P s t) (h' : Adds P t u) : Adds P s u := by
  obtain ⟨newer, hhistory, hnewer⟩ := h
  obtain ⟨newest, hhistory', hnewest⟩ := h'
  refine ⟨newest ++ newer, by rw [hhistory', hhistory, List.append_assoc], ?_⟩
  intro x hx
  rcases List.mem_append.mp hx with hx | hx
  · exact hnewest x hx
  · exact hnewer x hx

theorem Adds.mono (h : Adds P s t) (hPQ : ∀ x, P x → Q x) : Adds Q s t := by
  obtain ⟨newer, hhistory, hnewer⟩ := h
  exact ⟨newer, hhistory, fun x hx => hPQ x (hnewer x hx)⟩

/-- A pass adds no gesture. -/
theorem adds_resolve (n : Nat) (s : Session) : Adds P s (s.resolve n).2 := by
  cases hread : Expectation.ofElements (s.lookAt n).1 with
  | error a =>
    rw [resolve_of_error hread]
    exact .of_eq rfl
  | ok xs =>
    rw [resolve_of_ok hread]
    exact ⟨[.survey (s.surveyOf n xs)], rfl, by simp⟩

/-- Looking for the pages of monitors adds no gesture. -/
theorem adds_firstShown (ms : List Monitor) (s : Session) : Adds P s (firstShown ms s).2 := by
  induction ms generalizing s with
  | nil => exact .of_eq rfl
  | cons m ms ih =>
    have hpass : Adds P s (s.check m.page).2 := adds_resolve m.page s
    rw [firstShown]
    simp only
    split
    · split
      · exact hpass
      · exact hpass.trans (ih _)
    · exact hpass.trans (ih _)

/-- Locating an element adds no gesture. -/
theorem adds_locate [Template.Engine] (e : Element) (s : Session) : Adds P s (s.locate e).2 := by
  rw [locate]
  split
  · exact .of_eq rfl
  · split
    · exact .of_eq rfl
    · rename_i entry _
      have hpass : Adds P s (s.resolve entry.page).2 := adds_resolve entry.page s
      simp only
      split
      · exact hpass
      · split
        · exact hpass
        · exact hpass

/-- A gesture is one that may be added. -/
theorem adds_touch {action : Action} {e : Element} {g : Device.Gesture} {q : Query}
    (h : P ⟨action, e, q, g, s.device⟩) : Adds P s (s.touch action e g q).2 := by
  refine ⟨[.touch ⟨action, e, q, g, s.device⟩], rfl, ?_⟩
  intro x hx
  cases List.mem_singleton.mp hx
  exact h

/-! ### A pass over the page of an alert -/

/-- After a pass over a page its elements are entered with this page. -/
theorem page_eq_of_get?_resolve {n : Nat} {xs : List Expectation}
    (hread : Expectation.ofElements (s.lookAt n).1 = .ok xs) {i : Identity} (hi : i ≠ .dynamic)
    (hmem : i ∈ Element.identities (s.lookAt n).1) {e : Cache.Entry}
    (he : (s.resolve n).2.cache.get? i = some e) : e.page = n := by
  rw [resolve_of_ok hread] at he
  rcases Cache.get?_foldl_set (s.surveyOf n xs).found.resolved
    (s.cache.register n (Element.identities (s.lookAt n).1)) n hi with ⟨l, -, hset⟩ | ⟨-, hset⟩
  · cases hset.symm.trans he
    rfl
  · rw [Cache.register, Cache.get?_foldl_put _ _ _ hi, if_pos hmem] at hset
    cases hset.symm.trans he
    rfl

/-- A session looks at the page of an alert on a screen with one alert. -/
structure Facing (s : Session) (n : Nat) (label : Option String) (next : Nat) (root : Node)
    (a : Nat) : Prop where
  page : ∃ name, s.page n = (SystemAlert.build name none label next).page
  plain : ∀ l, label = some l → Template.Plain l
  device : s.device.Presents (some SystemAlert.application) root
  alert : (Snapshot.ofTree root).OnlyAlert a

variable {n next a : Nat} {label : Option String} {root : Node}

/-- The pass over the page of an alert that a session faces. -/
theorem Facing.exists_pass (h : s.Facing n label next root a) :
    ∃ xs name,
      (s.lookAt n).1 = [(SystemAlert.build name none label next).element] ∧
      Expectation.ofElements [(SystemAlert.build name none label next).element] = .ok xs ∧
      (s.surveyOf n xs).application = some SystemAlert.application ∧
      (s.surveyOf n xs).found = .ofPage xs (some root) := by
  obtain ⟨name, hpage⟩ := h.page
  obtain ⟨xs, hread⟩ : ∃ xs, Expectation.ofElements
      [(SystemAlert.build name none label next).element] = .ok xs :=
    SystemAlert.exists_ofElements h.plain
  refine ⟨xs, name, ?_, hread, ?_, ?_⟩
  · rw [lookAt, hpage]
    exact SystemAlert.lookAt_page _ _
  · rw [surveyOf, hpage]
    rfl
  · rw [surveyOf, hpage]
    exact congrArg (Resolution.ofPage xs) h.device.toOption_snapshot

/-- After the pass it still faces what it faced. -/
theorem Facing.resolve [Template.Engine] (h : s.Facing n label next root a) {m next' : Nat}
    {label' : Option String}
    (h' : s.Facing m label' next' root a) : (s.resolve n).2.Facing m label' next' root a := by
  obtain ⟨xs, name, hbody, hread, -, -⟩ := h.exists_pass
  obtain ⟨_, hpage⟩ := h.page
  rw [← hbody] at hread
  rw [resolve_of_ok hread]
  refine ⟨h'.page, h'.plain, ?_, h'.alert⟩
  rw [hpage]
  exact h.device.asked

/-- The page is there exactly if the alert has two buttons, the first as asked. -/
theorem Facing.exists_check [Template.Engine] (h : s.Facing n label next root a) :
    ∃ c, (s.check n).1 = .ok c ∧
      (c.isExisting = true ↔ (Snapshot.ofTree root).Offers a label) := by
  obtain ⟨xs, name, hbody, hread, -, hfound⟩ := h.exists_pass
  refine ⟨⟨(s.surveyOf n xs).found.missing, (s.surveyOf n xs).screen.map Node.describe⟩, ?_, ?_⟩
  · rw [Session.check, resolve_of_ok (hbody ▸ hread)]
    rfl
  · rw [PageCheck.isExisting, hfound, List.isEmpty_iff]
    exact SystemAlert.missing_eq_nil_iff h.alert h.plain hread

/-- After the pass the button that declines is entered with the page. -/
theorem Facing.page_eq_of_get? (h : s.Facing n label next root a) {e : Cache.Entry}
    (he : (s.resolve n).2.cache.get? (.declared next) = some e) : e.page = n := by
  obtain ⟨xs, name, hbody, hread, -, -⟩ := h.exists_pass
  refine page_eq_of_get?_resolve (hbody ▸ hread) Identity.noConfusion ?_ he
  rw [hbody]
  simp [Element.identities, SystemAlert.element, SystemAlert.build]

/-! ### What is tapped -/

/-- The step of the node that a gesture hits, if it hits one. -/
def Touch.hit? (t : Touch) : Option ScreenPages.Step :=
  ((t.device.reached (t.gesture.call t.query)).find t.query).toOption.map Snapshot.Entry.step

/-- A gesture is a tap on the first of two buttons of an alert, a button that is as asked. -/
structure Touch.Taps (t : Touch) (s : Snapshot) (a : Nat) (label : Option String) : Prop where
  gesture : t.gesture = .tap
  query : ∃ p q l, s.TwoButtons a label p q ∧ l.path = s.path p ∧
    t.query = .ofLocation (some SystemAlert.application) l

/-- Whatever has become of the screen, the node that is tapped has the step of this button. -/
theorem Touch.Taps.of_hit {t : Touch} {s : Snapshot} (h : t.Taps s a label)
    {step : ScreenPages.Step} (hhit : t.hit? = some step) :
    step.kind = .button ∧ (∀ l, label = some l → step.label = l) ∧
      s.Offers a (some step.label) := by
  obtain ⟨p, q, l, hbuttons, hpath, hquery⟩ := h.query
  rw [Touch.hit?, Option.map_eq_some_iff] at hhit
  obtain ⟨entry, hfind, rfl⟩ := hhit
  rw [Except.toOption_eq_some_iff, Device.find_eq_ok_iff] at hfind
  obtain ⟨tree, p', -, hlocate, hentry⟩ := hfind
  obtain ⟨entry', hentry', hlast⟩ := Snapshot.step_eq_of_locate hlocate
  cases hentry.symm.trans hentry'
  -- the path ends with the step of the button that the pass found
  obtain ⟨e, he, hkind, hlabel⟩ := hbuttons.first
  have hlocation : t.query.location = l := by rw [hquery]; rfl
  rw [hlocation, hpath, Snapshot.getLast?_path, he] at hlast
  have hstep : e.step = entry.step := Option.some.inj hlast
  rw [← hstep]
  refine ⟨hkind, hlabel, p, q, { hbuttons with first := ⟨e, he, hkind, ?_⟩ }⟩
  intro l hl
  exact Option.some.inj hl

/-- **The handler taps nothing but the first of two buttons of the alert.** -/
theorem Facing.adds_tap [Template.Engine] (h : s.Facing n label next root a)
    (hentry : ∀ e, s.cache.get? (.declared next) = some e → e.page = n) (name : String) :
    Adds (fun t => t.Taps (Snapshot.ofTree root) a label) s
      (s.tap idle (SystemAlert.build name none label next).disallow).2 := by
  rw [tap, interact, idle]
  simp only
  have hsought := locate_sought (SystemAlert.build name none label next).disallow s
  have hlooks := adds_locate (P := fun t => t.Taps (Snapshot.ofTree root) a label)
    (SystemAlert.build name none label next).disallow s
  generalize s.locate (SystemAlert.build name none label next).disallow = answer at hsought hlooks
  cases hsought with
  | refused => exact hlooks
  | @located v l t found _ _ =>
    obtain ⟨entry, xs, hcached, hread, rfl⟩ := found.pass
    cases hentry entry hcached
    -- the pass is the one over the page that the session faces
    obtain ⟨xs', _, hbody, hread', happlication, hfound⟩ := h.exists_pass
    rw [hbody] at hread
    cases hread'.symm.trans hread
    have hlocation := found.found
    rw [hfound] at hlocation
    obtain ⟨p, q, hbuttons, hpath⟩ := SystemAlert.exists_twoButtons h.alert h.plain hread hlocation
    obtain ⟨-, hstable⟩ : Moves idle t _ ∧ _ :=
      waitUntilStable_moves _ t
    refine hlooks.trans (.trans (.of_eq hstable) (adds_touch ?_))
    exact ⟨rfl, p, q, l, hbuttons, hpath, by rw [happlication]⟩

/-! ### Sessions that decline alerts -/

/-- The only monitors of a session are those that decline system alerts, the one for alerts that
ask for a permission in front. -/
def Declining (s : Session) (deny : String) : Prop :=
  ∃ i j m n next next',
    s.monitors = [⟨j, n, .tap (SystemAlert.permission deny none next').disallow⟩,
      ⟨i, m, .tap (SystemAlert.any none next).disallow⟩] ∧
    s.page n = (SystemAlert.permission deny none next').page ∧
    s.page m = (SystemAlert.any none next).page

/-- **A session without other monitors declines alerts when the default monitors are added.** -/
theorem declining_installDefaultMonitors (h : s.monitors = []) (deny : String) :
    (s.installDefaultMonitors deny).2.Declining deny := by
  refine ⟨s.monitorsAdded, s.monitorsAdded + 1, s.pages.length, s.pages.length + 1,
    s.nextIdentity, s.nextIdentity + SystemAlert.identities, ?_, ?_, ?_⟩
  · simp [installDefaultMonitors, addAlertMonitor, addMonitor, addPage, h]
  · simp [installDefaultMonitors, addAlertMonitor, addMonitor, addPage, page]
  · simp [installDefaultMonitors, addAlertMonitor, addMonitor, addPage, page]

/-- A gesture is a tap in the application of system alerts.  What it hits is a button, and this
button has the label of the decline button exactly if the alert has another one behind a button
with this label. -/
structure Touch.Declines (t : Touch) (s : Snapshot) (a : Nat) (deny : String) : Prop where
  gesture : t.gesture = .tap
  application : t.query.application = some SystemAlert.application
  hit : ∀ step, t.hit? = some step →
    step.kind = .button ∧ (step.label = deny ↔ s.Offers a (some deny))

/-- A tap declines an alert if the alert that asks for a permission is not there, or was looked
for. -/
theorem Touch.Taps.declines {t : Touch} {s : Snapshot} {deny : String} (h : t.Taps s a label)
    (hlabel : label = some deny ∨ ¬ s.Offers a (some deny)) : t.Declines s a deny := by
  obtain ⟨p, q, l, hbuttons, -, hquery⟩ := h.query
  refine ⟨h.gesture, by rw [hquery]; rfl, ?_⟩
  intro step hstep
  obtain ⟨hkind, hasked, hoffers⟩ := h.of_hit hstep
  refine ⟨hkind, ?_⟩
  constructor
  · rintro rfl
    exact hoffers
  · intro hdeny
    rcases hlabel with rfl | hnot
    · exact hasked deny rfl
    · exact absurd hdeny hnot

/-- What looking for the pages of the default monitors comes to on a screen with one alert: there
are no two buttons, or a page is there, its button that declines is entered with it, and the page
of the alert that asks for a permission was looked for before any other. -/
inductive Found (root : Node) (a : Nat) (deny : String) : Option Monitor × Session → Prop
  | nowhere {t : Session} (absent : ¬ (Snapshot.ofTree root).Offers a none) :
      Found root a deny (none, t)
  | shown {name : String} {label : Option String} {next id n : Nat} {t : Session}
      (facing : t.Facing n label next root a)
      (entered : ∀ e, t.cache.get? (.declared next) = some e → e.page = n)
      (offers : (Snapshot.ofTree root).Offers a label)
      (first : label = some deny ∨ ¬ (Snapshot.ofTree root).Offers a (some deny)) :
      Found root a deny
        (some ⟨id, n, .tap (SystemAlert.build name none label next).disallow⟩, t)

/-- The alert that asks for a permission is looked for before any alert. -/
theorem firstShown_found [Template.Engine] {deny : String} {i j m next' : Nat}
    (hfirst : s.Facing n (some deny) next' root a) (hsecond : s.Facing m none next root a) :
    Found root a deny (firstShown
      [⟨j, n, .tap (SystemAlert.permission deny none next').disallow⟩,
        ⟨i, m, .tap (SystemAlert.any none next).disallow⟩] s) := by
  have hlast := hfirst.resolve hsecond
  obtain ⟨c, hcheck, hoffers⟩ := hfirst.exists_check
  obtain ⟨c', hcheck', hoffers'⟩ := hlast.exists_check
  rw [firstShown]
  simp only [hcheck]
  by_cases hdeny : (Snapshot.ofTree root).Offers a (some deny)
  · rw [if_pos (hoffers.mpr hdeny)]
    exact .shown (hfirst.resolve hfirst) (fun _ => hfirst.page_eq_of_get?) hdeny (.inl rfl)
  · rw [if_neg (mt hoffers.mp hdeny), firstShown]
    simp only [show (s.check n).2 = (s.resolve n).2 from rfl, hcheck']
    by_cases hany : (Snapshot.ofTree root).Offers a none
    · rw [if_pos (hoffers'.mpr hany)]
      exact .shown (hlast.resolve hlast) (fun _ => hlast.page_eq_of_get?) hany (.inr hdeny)
    · rw [if_neg (mt hoffers'.mp hany)]
      exact .nowhere hany

/-- **What the default monitors tap.**  On a screen with one alert a check for interruptions
handles something exactly if the alert has two buttons.  It makes no gestures but taps in the
application of system alerts, and the node that is tapped is a button, but it has the label of the
decline button exactly if some other button of the alert stands behind a button with this label. -/
theorem interruptions_taps_deny_iff (level : Nat) {deny : String} (hs : s.Declining deny)
    (hdeny : Template.Plain deny)
    (hdevice : s.device.Presents (some SystemAlert.application) root)
    (halert : (Snapshot.ofTree root).OnlyAlert a) :
    ((interruptions (level + 1) s).1.isSome = true ↔
        s.checking = false ∧ (Snapshot.ofTree root).Offers a none) ∧
      Adds (fun t => t.Declines (Snapshot.ofTree root) a deny) s
        (interruptions (level + 1) s).2 := by
  obtain ⟨i, j, m, n, next, next', hmonitors, hpermission, hany⟩ := hs
  cases hchecking : s.checking with
  | true =>
    rw [interruptions_of_checking _ hchecking]
    exact ⟨by simp, .of_eq rfl⟩
  | false =>
    have hfirst : Facing { s with checking := true } n (some deny) next' root a :=
      ⟨⟨_, hpermission⟩, fun l hl => Option.some.inj hl ▸ hdeny, hdevice, halert⟩
    have hsecond : Facing { s with checking := true } m none next root a :=
      ⟨⟨_, hany⟩, nofun, hdevice, halert⟩
    have hfound := firstShown_found (i := i) (j := j) hfirst hsecond
    rw [← hmonitors] at hfound
    have hlooks : Adds (fun t => t.Declines (Snapshot.ofTree root) a deny) s
        (firstShown s.monitors { s with checking := true }).2 :=
      adds_firstShown s.monitors { s with checking := true }
    have hmoves : Moves idle { s with checking := true }
        (firstShown s.monitors { s with checking := true }).2 := firstShown_moves _ _
    have hmark := hmoves.checking_eq fun _ => rfl
    rw [interruptions, hchecking]
    simp only
    generalize firstShown s.monitors { s with checking := true } = r at hfound hlooks hmark ⊢
    cases hfound with
    | nowhere hnone =>
      refine ⟨?_, hlooks⟩
      simpa using hnone
    | @shown name _ _ _ _ _ facing entered offers first =>
      simp only [runHandler_eq_idle level _ hmark]
      refine ⟨?_, ?_⟩
      · simpa using offers.unlabelled
      · have htap := (facing.adds_tap entered name).mono fun x hx => hx.declines first
        exact hlooks.trans htap

/-- A session at its beginning declines alerts if the settings say so. -/
theorem declining_startUntil {settings : Settings} (h : settings.defaultMonitors = true)
    (last : Nat) (device : Device) (pages : List Page) (next : Nat) :
    (startUntil last settings device pages next).Declining settings.permissionDenyLabel := by
  rw [startUntil]
  simp only [h, if_true]
  exact declining_installDefaultMonitors rfl _

/-- The steps of the nodes that the gestures of a history hit. -/
def hits (events : List Event) : List ScreenPages.Step :=
  events.filterMap fun
    | .survey _ => none
    | .touch t => t.hit?

theorem exists_of_mem_hits {events : List Event} {step : ScreenPages.Step}
    (h : step ∈ hits events) : ∃ t, .touch t ∈ events ∧ t.hit? = some step := by
  obtain ⟨event, hevent, hhit⟩ := List.mem_filterMap.mp h
  cases event with
  | survey v => cases hhit
  | touch t => exact ⟨t, hevent, hhit⟩

/-- A screen that shows nothing but an alert. -/
def alertScreen (below : List Node) : Node :=
  ⟨⟨.application, "", "", none⟩, none, none, [⟨⟨.alert, "", "", none⟩, none, none, below⟩]⟩

end

/-- A session that declines alerts when it begins, and an alert is shown. -/
def alertRun (below : List Node) : Session :=
  start {} { screens := [(some SystemAlert.application, alertScreen below)], reportsFrames := false }
    [] 1

theorem presents_alertRun (below : List Node) :
    (alertRun below).device.Presents (some SystemAlert.application) (alertScreen below) :=
  ⟨rfl, rfl, fun _ _ => rfl⟩

theorem plain_permissionDenyLabel : Template.Plain ({} : Settings).permissionDenyLabel :=
  Template.plain_of_notMem (by decide)

/-- An alert in which the decline button stands below a group, between two others. -/
def groupedAlert : List Node :=
  let button (label : String) : Node := ⟨⟨.button, "", label, none⟩, none, none, []⟩
  [⟨⟨.staticText, "", "Camera", none⟩, none, none, []⟩, button "Settings",
    ⟨⟨.group, "", "", none⟩, none, none, [button "Don’t Allow"]⟩, button "Allow"]

/-- In the alert with a group the decline button is tapped. -/
theorem interruptions_taps_deny_iff_grouped :
    (Snapshot.ofTree (alertScreen groupedAlert)).OnlyAlert 1 ∧
    ((interruptions 2 (alertRun groupedAlert)).1.isSome = true ↔
        (alertRun groupedAlert).checking = false ∧
          (Snapshot.ofTree (alertScreen groupedAlert)).Offers 1 none) ∧
    Adds (fun t => t.Declines (Snapshot.ofTree (alertScreen groupedAlert)) 1 "Don’t Allow")
      (alertRun groupedAlert) (interruptions 2 (alertRun groupedAlert)).2 ∧
    hits (interruptions 2 (alertRun groupedAlert)).2.history
      = [⟨.button, "", "Don’t Allow", none⟩] := by
  have halert : (Snapshot.ofTree (alertScreen groupedAlert)).OnlyAlert 1 := by decide
  obtain ⟨hsome, hadds⟩ := interruptions_taps_deny_iff 1 (declining_startUntil rfl _ _ [] 1)
    plain_permissionDenyLabel (presents_alertRun groupedAlert) halert
  exact ⟨halert, hsome, hadds, by decide +kernel⟩

/-- An alert in which the decline button comes last. -/
def reversedAlert : List Node :=
  [⟨⟨.button, "", "Allow", none⟩, none, none, []⟩,
    ⟨⟨.button, "", "Don’t Allow", none⟩, none, none, []⟩]

/-- **It is not the decline button that is always tapped**: where it comes last, the button in
front is. -/
theorem not_forall_taps_deny : ¬ ∀ (s : Session) (deny : String) (root : Node) (a level : Nat),
    s.Declining deny → Template.Plain deny →
    s.device.Presents (some SystemAlert.application) root → (Snapshot.ofTree root).OnlyAlert a →
    (∃ p, a < p ∧ p < (Snapshot.ofTree root).stop a ∧
      (Snapshot.ofTree root).Button p (some deny)) →
    Adds (fun t => ∀ step, t.hit? = some step → step.kind = .button ∧ step.label = deny) s
      (interruptions (level + 1) s).2 := by
  intro h
  have hdeclining : (alertRun reversedAlert).Declining "Don’t Allow" :=
    declining_startUntil rfl _ _ [] 1
  have halert : (Snapshot.ofTree (alertScreen reversedAlert)).OnlyAlert 1 := by decide
  have hdeny : (Snapshot.ofTree (alertScreen reversedAlert)).Button 3 (some "Don’t Allow") :=
    ⟨_, rfl, rfl, fun l hl => Option.some.inj hl⟩
  have hadds := h (alertRun reversedAlert) "Don’t Allow" (alertScreen reversedAlert) 1 1 hdeclining
    plain_permissionDenyLabel (presents_alertRun reversedAlert) halert
    ⟨3, by decide, by decide, hdeny⟩
  obtain ⟨newer, hhistory, hnewer⟩ := hadds
  have hhits : hits (interruptions (1 + 1) (alertRun reversedAlert)).2.history
      = [⟨.button, "", "Allow", none⟩] := by decide +kernel
  have hhit := List.mem_singleton_self (⟨.button, "", "Allow", none⟩ : ScreenPages.Step)
  rw [← hhits] at hhit
  obtain ⟨t, ht, hstep⟩ := exists_of_mem_hits hhit
  have hempty : (alertRun reversedAlert).history = [] := history_startUntil _ _ _ _ _
  rw [hhistory, hempty, List.append_nil] at ht
  have hlabel := (hnewer t ht _ hstep).2
  exact absurd hlabel (by decide)

end Session

end ScreenPages
