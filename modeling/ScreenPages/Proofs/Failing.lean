import ScreenPages.Proofs.Matching
import ScreenPages.Proofs.Ownership
import ScreenPages.Proofs.Reading

/-!
# Passes that come to nothing

A pass can fail to read the templates of its page, or get no screen to look at.  In the first
case it stops before it does anything: the device is not called, and nothing is remembered or
recorded.  In the second case all elements are missing, and the cache says so of each of them at
every depth: what the page declares now is pending, what it declared before is gone.  Entries of
other pages are left alone unless the page declares their elements too, and no captured value is
touched.

## Main definitions

* `Session.Faulty` — a template of a page cannot be read.
* `Session.OnlyGave` — nothing happened but that identities were given.
* `Session.Refused` — a page that cannot be read is refused, and nothing has happened.
* `Session.Unseen` — a pass over a page had no screen to look at.

## Main results

* `Session.not_readable_iff` — a page cannot be read exactly if one of its templates cannot.
* `Session.check_of_failure` — what a check leaves that cannot read its page or gets no screen.
-/

namespace ScreenPages

/-- Registering a page drops what it owns of the identities that it does not declare now, and
nothing else of them. -/
theorem Cache.get?_register_of_not_mem {c : Cache} (hc : c.Proper) (page : Nat)
    {is : List Identity} {i : Identity} (hi : i ∉ is) :
    (c.register page is).get? i = (c.get? i).filter fun e => e.page != page := by
  by_cases hdynamic : i = .dynamic
  · subst hdynamic
    rw [get?_dynamic (hc.register page is), get?_dynamic hc, Option.filter_none]
  · rw [get?_register hc page is hdynamic, if_neg hi]

namespace Session

variable {s t : Session} {n : Nat}

section

variable {engine : Template.Engine}

/-- A template of the current body of a page cannot be read. -/
def Faulty [Template.Engine] (s : Session) (n : Nat) : Prop :=
  ∃ source ∈ Element.patterns (s.page n).body.elements, ∃ a, Template.ofText source = .error a

/-- A page has the same templates each time it is looked at. -/
theorem patterns_lookAt (s : Session) (n : Nat) :
    Element.patterns (s.lookAt n).1 = Element.patterns (s.page n).body.elements :=
  Element.patterns_mapIdentityList _ _

/-- **A page cannot be read exactly if one of its templates cannot.** -/
theorem not_readable_iff : ¬ s.Readable n ↔ s.Faulty n := by
  unfold Readable Faulty
  rw [Expectation.exists_ofElements_iff]
  push Not
  refine exists_congr fun source => and_congr_right fun _ => ?_
  cases Template.ofText source with
  | ok t => simp
  | error a => simp

/-- A page can be read if all of its templates can. -/
theorem readable_of_not_faulty (h : ¬ s.Faulty n) : s.Readable n := by
  by_contra hnot
  exact h (not_readable_iff.mp hnot)

/-- A page that cannot be read cannot be read when it is looked at. -/
theorem Faulty.exists_ofElements_eq_error (h : s.Faulty n) :
    ∃ a, Expectation.ofElements (s.lookAt n).1 = .error a := by
  cases hread : Expectation.ofElements (s.lookAt n).1 with
  | error a => exact ⟨a, rfl⟩
  | ok xs =>
    obtain ⟨source, hsource, a, hfault⟩ := h
    rw [← patterns_lookAt] at hsource
    obtain ⟨t, ht⟩ := Expectation.exists_ofElements_iff.mp ⟨xs, hread⟩ source hsource
    rw [hfault] at ht
    cases ht

/-! ### What a check leaves -/

/-- Nothing happened in a session, but identities may have been given: the device was not called,
and all that is remembered, captured, watched for or recorded is as it was. -/
def OnlyGave (s t : Session) : Prop := t = { s with nextIdentity := t.nextIdentity }

/-- What a pass over a page leaves that had no screen to look at. -/
structure Unseen (s : Session) (n : Nat) (t : Session) : Prop where
  /-- What the page declares now, at any depth, is pending. -/
  pending : ∀ i ∈ Element.identities (s.lookAt n).1, i ≠ .dynamic →
    t.cache.get? i = some ⟨n, none⟩
  /-- Entries of other pages are as they were, if their elements are not declared. -/
  kept : ∀ i ∉ Element.identities (s.lookAt n).1, ∀ e : Cache.Entry, e.page ≠ n →
    (t.cache.get? i = some e ↔ s.cache.get? i = some e)
  /-- Entries of the page are gone, if their elements are no longer declared. -/
  dropped : ∀ i ∉ Element.identities (s.lookAt n).1, ∀ e : Cache.Entry, e.page = n →
    t.cache.get? i ≠ some e
  captured : t.captured = s.captured
  /-- Apart from the cache, only the call to the device and the pass are recorded. -/
  others : t = { s with
    device := (s.device.snapshot (s.page n).application).2
    cache := t.cache
    history := t.history
    nextIdentity := t.nextIdentity }

/-- A page that cannot be read is refused because of one of its templates, and nothing has
happened. -/
structure Refused [Template.Engine] (s : Session) (n : Nat)
    (r : Except Command.Fault Answer × Session) : Prop where
  fault : ∃ a, r.1 = .error (.session (.template a)) ∧
    a.source ∈ Element.patterns (s.page n).body.elements ∧ Template.ofText a.source = .error a
  onlyGave : OnlyGave s r.2

/-- A check that cannot read its page fails, and has only looked at the page. -/
theorem check_of_error {a : Template.Ambiguity}
    (h : Expectation.ofElements (s.lookAt n).1 = .error a) :
    s.check n = (.error (.template a), (s.lookAt n).2) := by
  rw [check, resolve_of_error h]
  rfl

/-- Whether a page that cannot be read is checked or asked for, it is refused. -/
theorem Faulty.refused (h : s.Faulty n) (clear : InterruptionCheck) {c : Command}
    (hc : c ∈ [.check n, .pageExists n]) : Refused s n (s.run clear c) := by
  obtain ⟨a, hread⟩ := h.exists_ofElements_eq_error
  have hfault := Expectation.ofElements_eq_error _ hread
  rw [patterns_lookAt] at hfault
  have hcheck := check_of_error hread
  rcases List.mem_pair.mp hc with rfl | rfl
  · rw [run, hcheck]
    exact ⟨⟨a, rfl, hfault⟩, rfl⟩
  · rw [run, hcheck]
    exact ⟨⟨a, rfl, hfault⟩, rfl⟩

/-- A command that succeeds in the session answers with what it gives. -/
theorem answer_of_ok {α : Type} {f : α → Answer} {r : Except Fault α × Session} {a : α}
    (h : r.1 = .ok a) : answer f r = (.ok (f a), r.2) := by
  obtain ⟨result, t⟩ := r
  obtain rfl : result = .ok a := h
  rfl

/-- A pass that reads its page and gets no screen finds nothing. -/
theorem surveyOf_unseen {xs : List Expectation} {f : Device.Fault}
    (hread : Expectation.ofElements (s.lookAt n).1 = .ok xs)
    (hscreen : (s.device.snapshot (s.page n).application).1 = .error f) :
    (s.surveyOf n xs).screen = none ∧ (s.surveyOf n xs).found = ⟨[], [], (s.lookAt n).1⟩ := by
  have hnone : (s.surveyOf n xs).screen = none := by
    simp [surveyOf, hscreen, Except.toOption]
  refine ⟨hnone, ?_⟩
  show Resolution.ofPage xs (s.surveyOf n xs).screen = _
  rw [hnone, Resolution.ofPage, Expectation.map_element_of_ofElements hread]

/-- A pass that reads its page and gets no screen leaves the cache with all that is declared as
pending. -/
theorem unseen_check {f : Device.Fault} (hs : s.cache.Proper) (hreads : s.Readable n)
    (hscreen : (s.device.snapshot (s.page n).application).1 = .error f) :
    (s.check n).1 = .ok ⟨(s.lookAt n).1, none⟩ ∧ Unseen s n (s.check n).2 := by
  obtain ⟨xs, hread⟩ := exists_ofElements_lookAt hreads
  obtain ⟨hnone, hfound⟩ := surveyOf_unseen hread hscreen
  have hcheck := check_eq hread
  rw [hnone, hfound] at hcheck
  have hcache : (s.check n).2.cache = s.cache.register n (Element.identities (s.lookAt n).1) := by
    rw [hcheck]
    rfl
  refine ⟨?_, ?_, ?_, ?_, ?_, ?_⟩
  · rw [hcheck]
    rfl
  · intro i hi hdeclared
    rw [hcache, Cache.get?_register hs n _ hdeclared, if_pos hi]
  · intro i hi e hpage
    rw [hcache, Cache.get?_register_of_not_mem hs n hi]
    simp [hpage]
  · intro i hi e hpage
    rw [hcache, Cache.get?_register_of_not_mem hs n hi]
    simp [hpage]
  · rw [hcheck]
    rfl
  · rw [hcheck]
    rfl

/-- **A check that fails leaves the session intact.**  If a template of the page cannot be read,
nothing has happened.  If the device gives no screen, all elements are missing, in the order in
which they are declared, and the cache says no more and no less. -/
theorem check_of_failure (n : Nat) (clear : InterruptionCheck) (hs : s.cache.Proper) :
    (s.Faulty n → ∀ c ∈ [Command.check n, .pageExists n], Refused s n (s.run clear c)) ∧
      (¬ s.Faulty n → ∀ f, (s.device.snapshot (s.page n).application).1 = .error f →
        (s.run clear (.check n)).1 = .ok (.check ⟨(s.lookAt n).1, none⟩) ∧
          Unseen s n (s.run clear (.check n)).2) := by
  refine ⟨fun h c hc => h.refused clear hc, ?_⟩
  intro hreads f hscreen
  obtain ⟨hanswer, hunseen⟩ := unseen_check hs (readable_of_not_faulty hreads) hscreen
  rw [run, answer_of_ok hanswer]
  exact ⟨rfl, hunseen⟩

end

/-- A session that checks two pages with a common button and a page that uses a variable twice in
a label deep down.  Then the screen goes away, and the first page shows another body. -/
def lostRun : Session :=
  let button (n : Nat) : Element := ⟨.declared n, .button, some "ok", some "OK", none, []⟩
  let total : Element := ⟨.declared 1, .staticText, none, some "Total", none, []⟩
  let twice : Element :=
    ⟨.declared 6, .staticText, none,
      some (Template.ones.placeholder ++ "-" ++ Template.ones.placeholder), none, []⟩
  ((start { defaultMonitors := false } { screens := [(none, Resolution.sampleScreen)] }
      [ { name := "Checkout",
          bodies := [⟨[total, button 2], []⟩,
            ⟨[⟨.declared 3, .cell, none, none, none, [button 4]⟩, total], [.declared 3]⟩] },
        { name := "Question", bodies := [⟨[button 4, button 5], []⟩] },
        { name := "Broken", bodies := [⟨[⟨.declared 7, .cell, none, none, none, [twice]⟩], []⟩] } ]
      8).executeAll [.check 0, .check 1, .setScreen none none, .setBody 0 1]).2

/-- In the sample session a check of the last page and the question for it are refused, and a check
of the first page finds nothing: it takes one button over from the other page and forgets its own
that it no longer declares. -/
theorem check_of_failure_lost :
    lostRun.cache.Proper ∧
    (∀ c ∈ [Command.check 2, .pageExists 2],
      Refused lostRun 2 (lostRun.run (interruptions 2) c)) ∧
    (lostRun.run (interruptions 2) (.check 0)).1 = .ok (.check ⟨(lostRun.lookAt 0).1, none⟩) ∧
    Unseen lostRun 0 (lostRun.run (interruptions 2) (.check 0)).2 ∧
    [1, 2, 4, 5, 8].map (fun k =>
        (lostRun.run (interruptions 2) (.check 0)).2.cache.get? (.declared k))
      = [some ⟨0, none⟩, none, some ⟨0, none⟩, lostRun.cache.get? (.declared 5), some ⟨0, none⟩] ∧
    lostRun.owner (.declared 2) = some 0 ∧ lostRun.owner (.declared 4) = some 1 := by
  have hproper : lostRun.cache.Proper := ⟨by decide +kernel, by decide +kernel⟩
  have hbroken : ¬ lostRun.Readable 2 := by decide +kernel
  have hreads : lostRun.Readable 0 := by decide +kernel
  have hlost : (lostRun.device.snapshot (lostRun.page 0).application).1.isOk = false := by
    decide +kernel
  obtain ⟨fault, hscreen⟩ :
      ∃ f, (lostRun.device.snapshot (lostRun.page 0).application).1 = .error f := by
    cases hsnapshot : (lostRun.device.snapshot (lostRun.page 0).application).1 with
    | error f => exact ⟨f, rfl⟩
    | ok tree =>
      rw [hsnapshot] at hlost
      cases hlost
  obtain ⟨hanswer, hunseen⟩ := (check_of_failure 0 (interruptions 2) hproper).2
    (fun h => not_readable_iff.mpr h hreads) fault hscreen
  refine ⟨hproper, ?_, hanswer, hunseen, ?_, ?_⟩
  · exact (check_of_failure 2 (interruptions 2) hproper).1 (not_readable_iff.mp hbroken)
  · decide +kernel
  · decide +kernel

end Session

end ScreenPages
