import ScreenPages.Proofs.Aim
import ScreenPages.Proofs.Matching

/-!
# The captured values of a run

Every pass that can read its page captures values, whoever asked for it: a check, a wait, an
interaction or a check for interruptions.  What a variable stands for is the value of the last
capture of it, in the order of the passes, and within a pass in the order in which the elements
are noted.

Only elements that are accepted capture values.  They do so though other elements of the page
may be missing; a candidate that is taken back, a pass without a screen, and a page with a
faulty template leave all values as they are.

## Main definitions

* `Element.Mentions` — a variable occurs in the templates of some elements.
* `Session.capturesOf` — all that was captured in a history, in order.
* `Session.Survey.Accepting` — what a pass accepts, and what it captures by that.
* `Session.Capturing` — the values of a session are those that its passes captured.

## Main results

* `Resolution.mentions_of_mem_captures` — a pass captures only what its page mentions.
* `Session.Steps.exists_captured` — the captures of a run are those of its passes.
* `Session.Survey.Genuine.accepting` — a pass captures what the accepted elements capture.
* `Session.captured_of_steps` — the value of each variable in every state of every run.
-/

namespace ScreenPages

section

variable {engine : Template.Engine}

/-! ### The variables of a page -/

/-- A variable occurs in the templates of some elements or of those below them. -/
def Element.Mentions [Template.Engine] (es : List Element) (v : Variable) : Prop :=
  ∃ source ∈ patterns es, ∃ t, Template.ofText source = .ok t ∧ v ∈ t.binders

/-- What is captured is a variable of the template. -/
theorem Fits.exists_mem_binders {source text : Option String} {captures : List Capture}
    (h : Fits source text captures) {x : Capture} (hx : x ∈ captures) :
    ∃ s ∈ source, ∃ t, Template.ofText s = .ok t ∧ x.binder ∈ t.binders := by
  cases h with
  | unasked => cases hx
  | @asked s text t captures read captured =>
    refine ⟨s, rfl, t, read, ?_⟩
    rw [← (Template.greediest_of_capture captured).1]
    exact List.mem_map_of_mem hx

/-- **A pass captures only what its page mentions.** -/
theorem Resolution.mentions_of_mem_captures {page : List Element} {xs : List Expectation}
    (hread : Expectation.ofElements page = .ok xs) {screen : Option Node} {x : Capture}
    (hx : x ∈ (ofPage xs screen).captures) : Element.Mentions page x.binder := by
  cases screen with
  | none => cases hx
  | some root =>
    obtain ⟨os, hpage, hassigned, hsearch⟩ := exists_search_eq hread root
    have hcaptures := Notes.captures_addAll {} (Snapshot.ofTree root)
      (Finding.flattenList os.found)
    simp only [ofPage, hsearch, hcaptures, List.nil_append, List.mem_flatMap] at hx
    obtain ⟨f, hf, hx⟩ := hx
    -- the capture is one of a finding, and this is for an element of the page
    obtain ⟨e, he, hsuits⟩ := hassigned.forall₂_flattenList.exists_of_mem_right f hf
    obtain ⟨entry, -, hmatches⟩ := hsuits.shows
    obtain ⟨label, value, hlabel, hvalue, hboth⟩ := hmatches.texts
    have hin := os.flattenList_accepted_subset he
    rw [hpage] at hin
    rw [hboth, List.mem_append] at hx
    rcases hx with hx | hx
    · obtain ⟨s, hs, hread⟩ := hlabel.exists_mem_binders hx
      refine ⟨s, List.mem_flatMap.mpr ⟨e, hin, ?_⟩, hread⟩
      exact List.mem_append_left _ (Option.mem_toList.mpr hs)
    · obtain ⟨s, hs, hread⟩ := hvalue.exists_mem_binders hx
      refine ⟨s, List.mem_flatMap.mpr ⟨e, hin, ?_⟩, hread⟩
      exact List.mem_append_right _ (Option.mem_toList.mpr hs)

namespace Captured

/-- Captures are recorded one after the other. -/
theorem record_append (c : Captured) (xs ys : List Capture) :
    c.record (xs ++ ys) = (c.record xs).record ys :=
  List.foldl_append

/-- A variable has no value exactly if it had none and is not captured. -/
theorem get?_record_eq_none_iff (c : Captured) (xs : List Capture) (v : Variable) :
    (c.record xs).get? v = none ↔ c.get? v = none ∧ ∀ x ∈ xs, x.binder ≠ v := by
  rw [get?_record, Option.or_eq_none_iff, Option.map_eq_none_iff, List.find?_eq_none]
  simp only [List.mem_reverse, decide_eq_true_eq]
  exact and_comm

/-- A variable that is not captured keeps its value. -/
theorem get?_record_of_forall_ne (c : Captured) {captures : List Capture} {v : Variable}
    (h : ∀ x ∈ captures, x.binder ≠ v) : (c.record captures).get? v = c.get? v := by
  have hnone : captures.reverse.find? (fun x => x.binder = v) = none := by
    rw [List.find?_eq_none]
    intro x hx
    simpa using h x (List.mem_reverse.mp hx)
  rw [get?_record, hnone, Option.map_none, Option.none_or]

end Captured

end

namespace Session

variable {s t : Session} {v : Survey}

section

variable {engine : Template.Engine}

/-! ### The captures of a history -/

/-- The values that an event captured. -/
def Event.captures : Event → List Capture
  | .survey v => v.found.captures
  | .touch _ => []

/-- All that was captured in a history, oldest first. -/
def capturesOf (events : List Event) : List Capture := events.reverse.flatMap Event.captures

@[simp] theorem capturesOf_nil : capturesOf [] = [] := rfl

@[simp] theorem capturesOf_singleton (event : Event) : capturesOf [event] = event.captures := by
  simp [capturesOf]

/-- What was captured later stands behind. -/
@[simp] theorem capturesOf_append (newer older : List Event) :
    capturesOf (newer ++ older) = capturesOf older ++ capturesOf newer := by
  simp [capturesOf]

/-- From one state to another all that was captured is what the passes in between captured. -/
def Captures (s t : Session) : Prop :=
  ∃ newer, t.history = newer ++ s.history ∧ t.captured = s.captured.record (capturesOf newer)

theorem Captures.of_eq (hhistory : t.history = s.history) (hcaptured : t.captured = s.captured) :
    Captures s t :=
  ⟨[], hhistory, hcaptured⟩

/-- **A step captures nothing but what its pass captures, if it is one.** -/
theorem Step.captures (h : Step s t) : Captures s t := by
  cases h with
  | resolve _ n =>
    cases hread : Expectation.ofElements (s.lookAt n).1 with
    | error a =>
      rw [resolve_of_error hread]
      exact .of_eq rfl rfl
    | ok xs =>
      rw [resolve_of_ok hread]
      exact ⟨[.survey (s.surveyOf n xs)], rfl, by rw [capturesOf_singleton]; rfl⟩
  | touch _ h g => exact ⟨[_], rfl, by rw [capturesOf_singleton]; rfl⟩
  | frame => exact .of_eq rfl rfl
  | isHittable => exact .of_eq rfl rfl
  | sleep => exact .of_eq rfl rfl
  | log => exact .of_eq rfl rfl
  | setChecking => exact .of_eq rfl rfl
  | setTrace => exact .of_eq rfl rfl
  | panic => exact .of_eq rfl rfl
  | direct _ clear c h =>
    have hdirect := untouched_run_of_isDirect clear s h
    exact .of_eq hdirect.history hdirect.captured

/-- **The captures of a run are those of its passes, one after the other.** -/
theorem Steps.exists_captured (h : Steps s t) : Captures s t := by
  induction h with
  | refl => exact .of_eq rfl rfl
  | tail _ hlast ih =>
    obtain ⟨newer, hhistory, hcaptured⟩ := ih
    obtain ⟨newest, hhistory', hcaptured'⟩ := hlast.captures
    refine ⟨newest ++ newer, ?_, ?_⟩
    · rw [hhistory', hhistory, List.append_assoc]
    · rw [hcaptured', hcaptured, capturesOf_append, Captured.record_append]

/-- Nothing is captured at the beginning. -/
theorem captured_startUntil (last : Nat) (settings : Settings) (device : Device)
    (pages : List Page) (next : Nat) :
    (startUntil last settings device pages next).captured = {} := by
  rw [startUntil]
  split
  · rfl
  · rfl

/-! ### What a pass captures -/

/-- A pass over a page accepts some of its elements on a screen, and captures what their nodes
and those of all below them give, one after the other, whatever else of the page is missing. -/
structure Survey.Accepting [Template.Engine] (v : Survey) (root : Node) (os : Outcomes) : Prop where
  /-- There is an outcome for each element at the top. -/
  top : os.map Prod.fst = v.body
  /-- It is the one that the rule of placement gives. -/
  assigned : Assigned (Snapshot.ofTree root) 0 os
  missing : v.found.missing = os.missing
  /-- Each finding has a node that is as its element asks; the values of the label come before
  those of the value. -/
  suits : List.Forall₂ (Finding.Suits (Snapshot.ofTree root)) (Element.flattenList os.accepted)
    (Finding.flattenList os.found)
  captures : v.found.captures = (Finding.flattenList os.found).flatMap Finding.captures

/-- **A pass captures what the accepted elements capture**, and nothing else. -/
theorem Survey.Genuine.accepting (h : v.Genuine) {root : Node} (hscreen : v.screen = some root) :
    ∃ os, v.Accepting root os := by
  obtain ⟨xs, hread, hfound⟩ := h
  obtain ⟨os, hpage, hassigned, hsearch⟩ := Resolution.exists_search_eq hread root
  rw [hscreen, Resolution.ofPage, hsearch] at hfound
  refine ⟨os, hpage, hassigned, by rw [hfound], hassigned.forall₂_flattenList, ?_⟩
  rw [hfound]
  exact Notes.captures_addAll {} _ _

/-- A pass without a screen captures nothing. -/
theorem Survey.Genuine.captures_eq_nil (h : v.Genuine) (hscreen : v.screen = none) :
    v.found.captures = [] := by
  obtain ⟨xs, -, hfound⟩ := h
  rw [hfound, hscreen, Resolution.ofPage]

/-! ### The values of a session -/

/-- The values of a session are those that its passes captured, the last one for each
variable. -/
structure Capturing [Template.Engine] (t : Session) : Prop where
  value : ∀ x, t.captured.get? x =
    ((capturesOf t.history).reverse.find? fun c => c.binder = x).map Capture.value
  /-- A variable has no value exactly if no accepted element captured it. -/
  unseen : ∀ x, t.captured.get? x = none ↔ ∀ c ∈ capturesOf t.history, c.binder ≠ x
  /-- What is read for such a variable says so. -/
  unread : ∀ x, t.captured.get? x = none → t.captured.read x = Captured.noValue
  /-- What a pass captured are the values of the elements that it accepted. -/
  accepting : ∀ v, .survey v ∈ t.history → ∀ root, v.screen = some root →
    ∃ os, v.Accepting root os
  /-- A pass without a screen captured nothing. -/
  blind : ∀ v, .survey v ∈ t.history → v.screen = none → v.found.captures = []
  /-- A pass that cannot read its page captures nothing. -/
  stopped : ∀ n a, Expectation.ofElements (t.lookAt n).1 = .error a →
    (t.resolve n).2.captured = t.captured

/-- **The value of a variable is that of the last capture of it**, in the order of all passes of
the run. -/
theorem captured_of_steps {settings : Settings} {device : Device} {pages : List Page}
    {last next : Nat} (h : Steps (startUntil last settings device pages next) t) : Capturing t := by
  have hsound : Sound t.history := by
    refine h.keep (P := fun s => Sound s.history) (fun _ _ hstep hs => hstep.sound hs) ?_
    rw [history_startUntil]
    exact .nil
  obtain ⟨newer, hhistory, hcaptured⟩ := h.exists_captured
  rw [history_startUntil, List.append_nil] at hhistory
  rw [captured_startUntil, ← hhistory] at hcaptured
  refine ⟨?_, ?_, ?_, ?_, ?_, ?_⟩
  · intro x
    rw [hcaptured, Captured.get?_record]
    exact Option.or_none
  · intro x
    rw [hcaptured, Captured.get?_record_eq_none_iff]
    exact and_iff_right rfl
  · intro x hx
    rw [Captured.read, hx, Option.getD_none]
  · intro v hv root hscreen
    exact (hsound.genuine hv).accepting hscreen
  · intro v hv hscreen
    exact (hsound.genuine hv).captures_eq_nil hscreen
  · intro n a hread
    rw [resolve_of_error hread]
    rfl

end

/-- A session that checks a page whose total is shown, while the cell with an offer has nothing
of what it should have below it, and then a page of an application that is not running. -/
def offerRun : Session :=
  let amount : Variable := Template.ones
  let offer : Variable := Template.twos
  let text (n : Nat) (v : Variable) : Element :=
    ⟨.declared n, .staticText, none, some ("Total " ++ v.placeholder), none, []⟩
  let cell : Element :=
    ⟨.declared 2, .cell, none, some offer.placeholder, none,
      [⟨.declared 3, .button, none, none, none, []⟩]⟩
  let screen : Node := ⟨{ kind := .application }, none, none,
    [ ⟨{ kind := .staticText, label := "Total 7" }, none, none, []⟩,
      ⟨{ kind := .cell, label := "9" }, none, none, []⟩ ]⟩
  ((start { defaultMonitors := false } { screens := [(none, screen)] }
      [ { name := "Checkout", bodies := [⟨[text 1 amount, cell], []⟩] },
        { name := "Elsewhere", application := some "other", bodies := [⟨[text 4 amount], []⟩] } ]
      5).executeAll [.check 0, .check 1]).2

/-- In the sample run the total is captured though the page is not complete, and the offer is
not. -/
theorem captured_of_steps_offer : Capturing offerRun ∧
    offerRun.captured.get? (Template.repeated ⟨1, by decide⟩) = some "7" ∧
    offerRun.captured.get? (Template.repeated ⟨2, by decide⟩) = none ∧
    offerRun.history.length = 2 := by
  refine ⟨captured_of_steps (executeAll_steps _ _), ?_⟩
  decide +kernel

end Session

end ScreenPages
