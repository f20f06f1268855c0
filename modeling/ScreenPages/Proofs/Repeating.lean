import ScreenPages.Proofs.Failing
import ScreenPages.Proofs.Quiet

/-!
# Checking twice

A second check of a page, right after the first, finds what the first one found.  The page has the
same structure each time it is looked at, only that some of its elements may have other identities:
those that are declared anew.  So the second pass finds the same nodes for the same elements, and
if there are no new identities it leaves the cache as it is.  An element that was declared anew is
entered under its new identity, and the entry of its old one is gone, because a pass drops what its
page declared before.  Hence the cache does not grow however often a page is checked.

## Main definitions

* `Cache.Renamed` — a cache has the entries of another under other identities.
* `Session.Survey.Gives` — what became of the elements at the top of a page in a pass.
* `Session.Surveyed` — the pass that a check made.
* `Session.Repeats` — what a second check makes of what the first one left.

## Main results

* `Cache.renamed_afterPass` — a second pass leaves the entries that the first one left.
* `Session.check_repeats` — a second check finds what the first one found.
* `Session.size_iterate_check` — the cache does not grow however often a page is checked.
-/

namespace ScreenPages

/-! ### The cache after two passes -/

namespace Cache

variable {c : Cache} {page next d : Nat} {is : List Identity} {found : List (Identity × Location)}

/-- What was not given yet has entries of the page alone after a pass. -/
theorem page_eq_of_not_before (hc : c.Proper) (hcached : ∀ x ∈ c.entries, x.1.Before next)
    {i : Identity} (hi : ¬ i.Before next) {e : Entry}
    (he : (c.afterPass page is found).get? i = some e) : e.page = page := by
  have hdeclared : i ≠ .dynamic := by
    rintro rfl
    exact hi trivial
  rcases get?_afterPass hc page is found hdeclared with ⟨l, -, hget⟩ | ⟨-, hget⟩
  · rw [hget] at he
    cases he
    rfl
  · rw [hget, get?_eq_none_of_not_before hc hcached hi] at he
    split at he
    · cases he
      rfl
    · cases he

/-- A pass leaves alone what it neither declares nor owns. -/
theorem get?_afterPass_of_not_mem (hc : c.Proper) (hfound : ∀ x ∈ found, x.1 ∈ is)
    {i : Identity} (hi : i ∉ is) :
    (c.afterPass page is found).get? i = (c.get? i).filter fun e => e.page != page := by
  by_cases hdynamic : i = .dynamic
  · subst hdynamic
    rw [get?_dynamic (hc.afterPass page is found), get?_dynamic hc, Option.filter_none]
  · rcases get?_afterPass hc page is found hdynamic with ⟨l, hl, -⟩ | ⟨-, hget⟩
    · exact absurd (hfound _ hl) hi
    · rw [hget, if_neg hi]

/-- What the second pass over a page with later identities enters as pending: each entry is that
which the first pass entered, under the later identity. -/
theorem get?_register_later (hc : c.Proper) (hcached : ∀ x ∈ c.entries, x.1.Before next)
    (his : ∀ i ∈ is, i.Before (next + d)) (hfound : ∀ x ∈ found, x.1 ∈ is) (i : Identity) :
    ((c.afterPass page is found).register page (is.map (Identity.later next d))).get?
        (i.later next d)
      = (c.register page is).get? i := by
  have hproper := hc.afterPass page is found
  have hinjective := Identity.later_injective next d
  by_cases hmem : i ∈ is
  · by_cases hdynamic : i = .dynamic
    · subst hdynamic
      rw [Identity.later_dynamic, get?_dynamic (hproper.register _ _),
        get?_dynamic (hc.register _ _)]
    · have hlater : i.later next d ≠ .dynamic := by
        intro heq
        exact hdynamic (hinjective heq)
      rw [get?_register hproper page _ hlater, get?_register hc page is hdynamic,
        if_pos (List.mem_map_of_mem hmem), if_pos hmem]
  · have hlater : i.later next d ∉ is.map (Identity.later next d) := by
      intro h
      obtain ⟨j, hj, heq⟩ := List.mem_map.mp h
      exact hmem (hinjective heq ▸ hj)
    rw [get?_register_of_not_mem hproper page hlater, get?_register_of_not_mem hc page hmem]
    by_cases hbefore : i.Before next
    · rw [Identity.later_of_before hbefore, get?_afterPass_of_not_mem hc hfound hmem]
      simp
    · -- neither the identity nor the one in its place has been given
      have hcached' := before_afterPass hc (fun x hx => (hcached x hx).mono (Nat.le_add_right _ _))
        page his hfound
      rw [get?_eq_none_of_not_before hproper hcached' (Identity.not_before_later hbefore),
        get?_eq_none_of_not_before hc hcached hbefore]

/-- A cache has the entries of another under other identities, and no more. -/
structure Renamed (f : Identity → Identity) (c c' : Cache) : Prop where
  get? : ∀ i, c'.get? (f i) = c.get? i
  rest : ∀ j, (∀ i, f i ≠ j) → c'.get? j = none

/-- **A second pass leaves the entries that the first one left, under later identities.**  What
the first one declared anew has no entry any more. -/
theorem renamed_afterPass (hc : c.Proper) (hcached : ∀ x ∈ c.entries, x.1.Before next)
    (his : ∀ i ∈ is, i.Before (next + d)) (hfound : ∀ x ∈ found, x.1 ∈ is) :
    Renamed (Identity.later next d) (c.afterPass page is found)
      ((c.afterPass page is found).afterPass page (is.map (Identity.later next d))
        (found.map fun x => (x.1.later next d, x.2))) := by
  refine ⟨?_, ?_⟩
  · intro i
    exact get?_foldl_set_map (Identity.later_injective next d) Identity.later_dynamic
      (get?_register_later hc hcached his hfound i) page found
  · intro j hj
    have hnew : ¬ j.Before next := by
      intro hbefore
      exact hj j (Identity.later_of_before hbefore)
    have hmem : j ∉ is.map (Identity.later next d) := by
      intro h
      obtain ⟨i, -, heq⟩ := List.mem_map.mp h
      exact hj i heq
    have hfound' : ∀ x ∈ found.map (fun x => (x.1.later next d, x.2)),
        x.1 ∈ is.map (Identity.later next d) := by
      intro x hx
      obtain ⟨y, hy, rfl⟩ := List.mem_map.mp hx
      exact List.mem_map_of_mem (hfound y hy)
    rw [get?_afterPass_of_not_mem (hc.afterPass page is found) hfound' hmem,
      Option.filter_eq_none_iff]
    intro e he
    simpa using page_eq_of_not_before hc hcached hnew he

/-- A cache that has the entries of another under other identities has as many. -/
theorem Renamed.perm_entries {c' : Cache} {f : Identity → Identity} (h : Renamed f c c')
    (hf : Function.Injective f) (hc : c.Proper) (hc' : c'.Proper) :
    c'.entries.Perm (c.entries.map fun x => (f x.1, x.2)) := by
  have hpair : Function.Injective fun x : Identity × Entry => (f x.1, x.2) := by
    rintro ⟨i, e⟩ ⟨j, e'⟩ heq
    simp only [Prod.mk.injEq] at heq
    rw [hf heq.1, heq.2]
  have hdistinct := (List.Nodup.of_map _ hc.distinct).map hpair
  rw [List.perm_ext_iff_of_nodup (.of_map _ hc'.distinct) hdistinct]
  rintro ⟨j, e⟩
  rw [← get?_eq_some_iff hc', List.mem_map]
  constructor
  · intro he
    by_cases hj : ∃ i, f i = j
    · obtain ⟨i, rfl⟩ := hj
      rw [h.get?, get?_eq_some_iff hc] at he
      exact ⟨(i, e), he, rfl⟩
    · rw [h.rest j fun i hi => hj ⟨i, hi⟩] at he
      cases he
  · rintro ⟨⟨i, e'⟩, hmem, heq⟩
    cases heq
    rw [h.get?, get?_eq_some_iff hc]
    exact hmem

end Cache

/-- To record the same captures again changes no value. -/
theorem Captured.get?_record_record (c : Captured) (captures : List Capture) (v : Variable) :
    ((c.record captures).record captures).get? v = (c.record captures).get? v := by
  simp only [get?_record, ← Option.or_assoc, Option.or_self]

/-- Elements whose identities were given before are not renamed. -/
theorem Element.mapIdentityList_later {next d : Nat} {es : List Element}
    (h : ∀ i ∈ identities es, i.Before next) : mapIdentityList (Identity.later next d) es = es := by
  have hsame : ∀ i ∈ identities es, i.later next d = id i := by
    intro i hi
    exact Identity.later_of_before (h i hi)
  rw [mapIdentityList_congr es hsame, mapIdentityList_id]

namespace Session

variable {s : Session} {n : Nat} {xs : List Expectation}

section

variable {engine : Template.Engine}

/-! ### The outcomes of a pass -/

/-- What became of the elements at the top of a page in a pass: they have their places on the
screen, or are missing.  All are missing if there is no screen. -/
structure Survey.Gives [Template.Engine] (v : Survey) (os : Outcomes) : Prop where
  /-- There is an outcome for each element at the top. -/
  top : os.map Prod.fst = v.body
  missing : v.found.missing = os.missing
  assigned : ∀ root, v.screen = some root → Assigned (Snapshot.ofTree root) 0 os
  unseen : v.screen = none → ∀ o ∈ os, o.2 = none

/-- A pass has outcomes. -/
theorem Survey.Genuine.exists_gives {v : Survey} (h : v.Genuine) : ∃ os, v.Gives os := by
  cases hscreen : v.screen with
  | some root =>
    obtain ⟨os, hos⟩ := h.accepting hscreen
    refine ⟨os, hos.top, hos.missing, ?_, by simp [hscreen]⟩
    intro root' hroot
    rw [hscreen] at hroot
    cases hroot
    exact hos.assigned
  | none =>
    obtain ⟨xs, hread, hfound⟩ := h
    rw [hscreen, Resolution.ofPage, Expectation.map_element_of_ofElements hread] at hfound
    refine ⟨v.body.map fun e => (e, none), ?_, ?_, by simp [hscreen], by simp⟩
    · simp [Function.comp_def]
    · simp [hfound, Outcomes.missing, List.filter_map, Function.comp_def]

/-- A pass over renamed elements on the same screen has the outcomes of the renamed elements. -/
theorem Survey.Gives.mapIdentity {v w : Survey} {os : Outcomes} (h : v.Gives os)
    (f : Identity → Identity) (hbody : w.body = Element.mapIdentityList f v.body)
    (hscreen : w.screen = v.screen) (hfound : w.found = v.found.mapIdentity f) :
    w.Gives (os.mapIdentity f) := by
  refine ⟨?_, ?_, ?_, ?_⟩
  · rw [Outcomes.map_fst_mapIdentity, h.top, hbody]
  · rw [Outcomes.missing_mapIdentity, ← h.missing, hfound]
    rfl
  · intro root hroot
    rw [hscreen] at hroot
    exact (h.assigned root hroot).mapIdentity f
  · intro hnone o ho
    rw [hscreen] at hnone
    obtain ⟨x, hx, rfl⟩ := List.mem_map.mp ho
    simp [h.unseen hnone x hx]

/-! ### The second check -/

/-- A check of a page made this pass: it looked at the page, asked for the screen, and answered
with what it found. -/
structure Surveyed [Template.Engine] (s : Session) (n : Nat) (v : Survey) : Prop where
  page : v.page = n
  body : v.body = (s.lookAt n).1
  screen : v.screen = (s.device.snapshot (s.page n).application).1.toOption
  answer : (s.check n).1 = .ok ⟨v.found.missing, v.screen.map Node.describe⟩
  history : (s.check n).2.history = .survey v :: s.history

/-- What a second check of a page, which goes from `t` to `u`, makes of what the first one left,
which went from `s` to `t`.  The passes are `v` and `w`, and their outcomes `os` and `os'`. -/
structure Repeats [Template.Engine] (s t u : Session) (n : Nat) (v w : Survey) (os os' : Outcomes) :
    Prop where
  first : Surveyed s n v
  second : Surveyed t n w
  gives : v.Gives os
  gives' : w.Gives os'
  /-- The same elements are missing, and the others have the same places. -/
  positions : os'.map (fun o => o.2.map Finding.position)
    = os.map fun o => o.2.map Finding.position
  locations : w.found.resolved.map Prod.snd = v.found.resolved.map Prod.snd
  captured : ∀ x, u.captured.get? x = t.captured.get? x
  size : u.cache.size = t.cache.size
  /-- Each element has the entry that it had.  It has its identity if this was given before; if
  not, it has another one, and there is no entry of the old one. -/
  entries : List.Forall₂
    (fun i j => u.cache.get? j = t.cache.get? i ∧ (i.Before s.nextIdentity → j = i) ∧
      (¬ i.Before s.nextIdentity → u.cache.get? i = none))
    (Element.identities v.body) (Element.identities w.body)
  /-- If no element is declared anew, the cache is as it was. -/
  stable : (∀ i ∈ Element.identities (s.page n).body.elements, i ∉ (s.page n).body.renewed) →
    w.body = v.body ∧ u.cache.entries.Perm t.cache.entries
  /-- If all elements are declared anew, none of the old identities has an entry. -/
  fresh : (∀ i ∈ Element.identities (s.page n).body.elements, i ∈ (s.page n).body.renewed) →
    ∀ i ∈ Element.identities v.body, u.cache.get? i = none

/-- A check gives the identities that its page declares anew. -/
theorem nextIdentity_check (s : Session) (n : Nat) :
    (s.check n).2.nextIdentity = s.nextIdentity + (s.page n).body.renewed.length := by
  cases hread : Expectation.ofElements (s.lookAt n).1 with
  | error a =>
    rw [check_of_error hread]
    rfl
  | ok xs =>
    rw [check_eq hread]
    rfl

/-- A check leaves the pages as they are. -/
theorem page_check (s : Session) (n : Nat) : (s.check n).2.page n = s.page n := by
  cases hread : Expectation.ofElements (s.lookAt n).1 with
  | error a =>
    rw [check_of_error hread]
    rfl
  | ok xs =>
    rw [check_eq hread]
    rfl

/-- **After a check a page has the same elements**, some of them with identities that are given
later. -/
theorem lookAt_check (hs : s.Settled) (n : Nat) :
    ((s.check n).2.lookAt n).1 = Element.mapIdentityList
      (Identity.later s.nextIdentity (s.page n).body.renewed.length) (s.lookAt n).1 := by
  rw [lookAt, page_check, nextIdentity_check]
  exact Page.Body.lookAt_add _ (hs.body n) (Nat.le_refl _)

/-- A check that can read its page made a pass. -/
theorem surveyed_of_ok (h : Expectation.ofElements (s.lookAt n).1 = .ok xs) :
    Surveyed s n (s.surveyOf n xs) :=
  ⟨rfl, rfl, rfl, (check_of_ok h).1, (check_of_ok h).2⟩

/-- **The second pass finds what the first one found**, under later identities. -/
theorem found_surveyOf_check (hs : s.Settled) (n : Nat) (xs : List Expectation)
    (hstill : ((s.check n).2.device.snapshot (s.page n).application).1.toOption
      = (s.device.snapshot (s.page n).application).1.toOption) :
    let f := Identity.later s.nextIdentity (s.page n).body.renewed.length
    let w := (s.check n).2.surveyOf n (Expectation.mapIdentityList f xs)
    w.body = Element.mapIdentityList f (s.surveyOf n xs).body ∧
      w.screen = (s.surveyOf n xs).screen ∧ w.found = (s.surveyOf n xs).found.mapIdentity f := by
  intro f w
  have hscreen : w.screen = (s.surveyOf n xs).screen := by
    simp only [w, surveyOf, page_check, hstill]
  refine ⟨lookAt_check hs n, hscreen, ?_⟩
  show Resolution.ofPage (Expectation.mapIdentityList f xs) w.screen = _
  rw [hscreen, Resolution.ofPage_mapIdentity]
  rfl

/-- The cache after a check is the cache after its pass. -/
theorem cache_check (h : Expectation.ofElements (s.lookAt n).1 = .ok xs) :
    (s.check n).2.cache = s.cache.afterPass n (Element.identities (s.surveyOf n xs).body)
      (s.surveyOf n xs).found.resolved := by
  rw [check_eq h]
  rfl

/-- The captured values after a check are those that its pass recorded. -/
theorem captured_check (h : Expectation.ofElements (s.lookAt n).1 = .ok xs) :
    (s.check n).2.captured = s.captured.record (s.surveyOf n xs).found.captures := by
  rw [check_eq h]

/-- The second check reads what the first one read, under later identities. -/
theorem ofElements_lookAt_check (hs : s.Settled)
    (hread : Expectation.ofElements (s.lookAt n).1 = .ok xs) :
    Expectation.ofElements ((s.check n).2.lookAt n).1 = .ok (Expectation.mapIdentityList
      (Identity.later s.nextIdentity (s.page n).body.renewed.length) xs) := by
  rw [lookAt_check hs, Expectation.ofElements_mapIdentityList, hread]
  rfl

/-- What the pass of a check finds it has looked for. -/
theorem mem_identities_surveyOf (hread : Expectation.ofElements (s.lookAt n).1 = .ok xs) :
    ∀ x ∈ (s.surveyOf n xs).found.resolved,
      x.1 ∈ Element.identities (s.surveyOf n xs).body := by
  have hgenuine : (s.surveyOf n xs).Genuine := ⟨xs, hread, rfl⟩
  intro x hx
  exact hgenuine.mem_identities hx

/-- **The second check leaves the entries that the first one left**, under later identities. -/
theorem renamed_check (hs : s.Settled) (hread : Expectation.ofElements (s.lookAt n).1 = .ok xs)
    (hstill : ((s.check n).2.device.snapshot (s.page n).application).1.toOption
      = (s.device.snapshot (s.page n).application).1.toOption) :
    Cache.Renamed (Identity.later s.nextIdentity (s.page n).body.renewed.length)
      (s.check n).2.cache ((s.check n).2.check n).2.cache := by
  obtain ⟨hbody, -, hfound⟩ := found_surveyOf_check hs n xs hstill
  rw [cache_check (ofElements_lookAt_check hs hread), hbody, hfound,
    Element.identities_mapIdentityList, cache_check hread]
  apply Cache.renamed_afterPass hs.proper hs.cached
  · intro i hi
    exact hs.before_of_mem_lookAt hi
  · exact mem_identities_surveyOf hread

/-- If a page declares nothing anew, all that it declares was given before. -/
theorem before_of_stable (hs : s.Settled)
    (hkept : ∀ i ∈ Element.identities (s.page n).body.elements, i ∉ (s.page n).body.renewed) :
    ∀ i ∈ Element.identities (s.lookAt n).1, i.Before s.nextIdentity := by
  intro i hi
  rw [lookAt, Page.Body.lookAt, Element.identities_mapIdentityList] at hi
  obtain ⟨j, hj, rfl⟩ := List.mem_map.mp hi
  rw [Identity.renew_of_not_mem (hkept j hj)]
  exact hs.body n j hj

/-- If a page declares nothing anew, all that is cached after a check was given before. -/
theorem before_check_of_stable (hs : s.Settled)
    (hread : Expectation.ofElements (s.lookAt n).1 = .ok xs)
    (hkept : ∀ i ∈ Element.identities (s.page n).body.elements, i ∉ (s.page n).body.renewed) :
    ∀ x ∈ (s.check n).2.cache.entries, x.1.Before s.nextIdentity := by
  rw [cache_check hread]
  exact Cache.before_afterPass hs.proper hs.cached n (before_of_stable hs hkept)
    (mem_identities_surveyOf hread)

/-- If a page declares all its elements anew, none of their identities was given before. -/
theorem not_before_of_fresh
    (hnew : ∀ i ∈ Element.identities (s.page n).body.elements, i ∈ (s.page n).body.renewed) :
    ∀ i ∈ Element.identities (s.lookAt n).1, ¬ i.Before s.nextIdentity := by
  intro i hi
  rw [lookAt, Page.Body.lookAt, Element.identities_mapIdentityList] at hi
  obtain ⟨j, hj, rfl⟩ := List.mem_map.mp hi
  exact Identity.not_before_renew (hnew j hj)

/-- **A second check of a page that can be read finds what the first one found.** -/
theorem exists_repeats (hs : s.Settled) (hread : Expectation.ofElements (s.lookAt n).1 = .ok xs)
    (hstill : ((s.check n).2.device.snapshot (s.page n).application).1.toOption
      = (s.device.snapshot (s.page n).application).1.toOption) :
    ∃ v w os os', Repeats s (s.check n).2 ((s.check n).2.check n).2 n v w os os' := by
  have hread' := ofElements_lookAt_check hs hread
  have hrenamed := renamed_check hs hread hstill
  have hperm := hrenamed.perm_entries (Identity.later_injective _ _) (hs.resolve n).proper
    ((hs.resolve n).resolve n).proper
  obtain ⟨hbody, hscreen, hfound⟩ := found_surveyOf_check hs n xs hstill
  have hgenuine : (s.surveyOf n xs).Genuine := ⟨xs, hread, rfl⟩
  obtain ⟨os, hos⟩ := hgenuine.exists_gives
  have hgone : ∀ i ∈ Element.identities (s.surveyOf n xs).body, ¬ i.Before s.nextIdentity →
      ((s.check n).2.check n).2.cache.get? i = none := by
    intro i hi hnew
    exact hrenamed.rest i (Identity.later_ne hnew (hs.before_of_mem_lookAt hi))
  refine ⟨_, _, os, _, surveyed_of_ok hread, surveyed_of_ok hread', hos,
    hos.mapIdentity _ hbody hscreen hfound, os.map_position_mapIdentity _, ?_, ?_, ?_, ?_, ?_, ?_⟩
  · simp [hfound, Resolution.mapIdentity, Function.comp_def]
  · intro x
    rw [captured_check hread', captured_check hread, hfound]
    exact Captured.get?_record_record s.captured _ x
  · simp only [Cache.size, hperm.length_eq, List.length_map]
  · rw [hbody, Element.identities_mapIdentityList, List.forall₂_map_right_iff, List.forall₂_same]
    intro i hi
    exact ⟨hrenamed.get? i, Identity.later_of_before, hgone i hi⟩
  · intro hkept
    have hbefore := before_of_stable hs hkept
    refine ⟨hbody.trans (Element.mapIdentityList_later hbefore), ?_⟩
    -- the first check left no entry under an identity that is given later
    have hentries := before_check_of_stable hs hread hkept
    have hsame : ∀ x ∈ (s.check n).2.cache.entries, (x.1.later s.nextIdentity
        (s.page n).body.renewed.length, x.2) = id x := by
      intro x hx
      rw [Identity.later_of_before (hentries x hx)]
      rfl
    rw [List.map_congr_left hsame, List.map_id] at hperm
    exact hperm
  · intro hnew i hi
    exact hgone i hi (not_before_of_fresh hnew i hi)

/-- Checking a page that cannot be read fails twice in the same way, and nothing happens. -/
theorem Faulty.check_twice (hs : s.Settled) (h : s.Faulty n) :
    ∃ a, (s.check n).1 = .error (.template a) ∧
      ((s.check n).2.check n).1 = .error (.template a) ∧ OnlyGave s (s.check n).2 ∧
      OnlyGave (s.check n).2 ((s.check n).2.check n).2 := by
  obtain ⟨a, hread⟩ := h.exists_ofElements_eq_error
  have hread' : Expectation.ofElements ((s.check n).2.lookAt n).1 = .error a := by
    rw [lookAt_check hs, Expectation.ofElements_mapIdentityList, hread]
    rfl
  refine ⟨a, ?_, ?_, ?_, ?_⟩
  · rw [check_of_error hread]
  · rw [check_of_error hread']
  · rw [check_of_error hread]
    rfl
  · rw [check_of_error hread']
    rfl

/-- **Checking is repeatable.**  If the screen of the application is the same, a second check of a
page finds what the first one found, or fails as it did; and it leaves the values of all variables
and the entries of the cache, under the identities that the page has now. -/
theorem check_repeats (hs : s.Settled) (n : Nat)
    (hstill : ((s.check n).2.device.snapshot (s.page n).application).1.toOption
      = (s.device.snapshot (s.page n).application).1.toOption) :
    (s.Faulty n → ∃ a, (s.check n).1 = .error (.template a) ∧
      ((s.check n).2.check n).1 = .error (.template a) ∧ OnlyGave s (s.check n).2 ∧
      OnlyGave (s.check n).2 ((s.check n).2.check n).2) ∧
    (¬ s.Faulty n → ∃ v w os os',
      Repeats s (s.check n).2 ((s.check n).2.check n).2 n v w os os') := by
  refine ⟨fun h => h.check_twice hs, ?_⟩
  intro hreads
  obtain ⟨xs, hread⟩ := exists_ofElements_lookAt (readable_of_not_faulty hreads)
  exact exists_repeats hs hread hstill

/-- A device that gives its screens gives the same ones after a check. -/
theorem givesScreens_check (h : s.device.GivesScreens) (n : Nat) :
    (s.check n).2.device.GivesScreens ∧ (s.check n).2.device.screens = s.device.screens := by
  cases hread : Expectation.ofElements (s.lookAt n).1 with
  | error a =>
    rw [check_of_error hread]
    exact ⟨h, rfl⟩
  | ok xs =>
    rw [check_eq hread]
    exact h.asked (s.page n).application

theorem toOption_snapshot_check [Template.Engine] (h : s.device.GivesScreens) (n : Nat)
    (application : Option String) :
    ((s.check n).2.device.snapshot application).1.toOption
      = (s.device.snapshot application).1.toOption := by
  obtain ⟨hgives, hscreens⟩ := givesScreens_check h n
  rw [hgives.toOption_snapshot, h.toOption_snapshot, hscreens]

/-! ### More checks -/

/-- A second check enters nothing more in the cache. -/
theorem size_check_check (hs : s.Settled) (hgives : s.device.GivesScreens) (n : Nat) :
    ((s.check n).2.check n).2.cache.size = (s.check n).2.cache.size := by
  by_cases hfaulty : s.Faulty n
  · obtain ⟨a, -, -, -, honly⟩ := hfaulty.check_twice hs
    rw [honly]
  · obtain ⟨xs, hread⟩ := exists_ofElements_lookAt (readable_of_not_faulty hfaulty)
    obtain ⟨v, w, os, os', hrepeats⟩ :=
      exists_repeats hs hread (toOption_snapshot_check hgives n _)
    exact hrepeats.size

/-- **The cache does not grow however often a page is checked.** -/
theorem size_iterate_check (hs : s.Settled) (hgives : s.device.GivesScreens) (n k : Nat) :
    ((fun u : Session => (u.check n).2)^[k + 1] s).cache.size = (s.check n).2.cache.size := by
  induction k generalizing s with
  | zero => rfl
  | succ k ih =>
    have hsettled : (s.check n).2.Settled := hs.resolve n
    rw [Function.iterate_succ_apply, ih hsettled (givesScreens_check hgives n).1]
    exact size_check_check hs hgives n

end

/-- A session that checked a page and is about to check another one twice, which shares a button
with the first.  The cell, the text in it, and the alert of the other page are declared anew each
time. -/
def cartRun : Session :=
  let ok : Element := ⟨.declared 4, .button, some "ok", none, none, []⟩
  ((start { defaultMonitors := false } { screens := [(none, Resolution.sampleScreen)] }
      [ { name := "Question",
          bodies := [⟨[ok, ⟨.declared 6, .button, none, some "No", none, []⟩], []⟩] },
        { name := "Cart",
          bodies := [⟨[⟨.declared 1, .staticText, none, some Template.ones.placeholder, none, []⟩,
            ⟨.declared 2, .cell, none, none, none,
              [⟨.declared 3, .staticText, none, some "Milk", none, []⟩]⟩,
            ⟨.declared 5, .alert, none, none, none, []⟩, ok],
            [.declared 2, .declared 3, .declared 5]⟩] } ]
      7).executeAll [.check 0]).2

/-- In the sample session the screen is the same for both checks.  Both find all but the alert;
after the first the cell, its text and the alert are known as the seventh to the ninth element
that was declared, and after the second as the tenth to the twelfth. -/
theorem check_repeats_cart :
    (∃ v w os os',
      Repeats cartRun (cartRun.check 1).2 ((cartRun.check 1).2.check 1).2 1 v w os os') ∧
    (cartRun.check 1).2.cache.size = 6 ∧
    [7, 8, 9, 10, 11, 12].map (fun k =>
        ((cartRun.check 1).2.cache.get? (.declared k)).map Cache.Entry.isPending)
      = [some false, some false, some true, none, none, none] ∧
    [7, 8, 9, 10, 11, 12].map (fun k =>
        (((cartRun.check 1).2.check 1).2.cache.get? (.declared k)).map Cache.Entry.isPending)
      = [none, none, none, some false, some false, some true] := by
  have hsettled : cartRun.Settled := settled_of_steps (by decide) (executeAll_steps _ _)
  have hreads : cartRun.Readable 1 := by decide +kernel
  have hgives : cartRun.device.GivesScreens := ⟨rfl, fun _ _ => rfl⟩
  have hstill := toOption_snapshot_check hgives 1 (cartRun.page 1).application
  refine ⟨(check_repeats hsettled 1 hstill).2 fun h => not_readable_iff.mpr h hreads, ?_⟩
  decide +kernel

end Session

end ScreenPages
