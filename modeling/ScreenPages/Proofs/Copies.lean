import ScreenPages.Proofs.Conduct
import ScreenPages.Proofs.Numbering
import ScreenPages.Proofs.Settled

/-!
# Copies of an element

A page may declare an element more than once, and a pass may find it at several places.  The cache
is told of them one after the other and keeps the last.  A resolution answers with the first, and
so does the pass that an interaction makes.  No location is recorded twice, so the place that is
cached for an element is not the one that the next interaction goes to, unless the element was
found just once.

## Main definitions

* `Resolution.places` — where an element was found.
* `Session.Unaltered` — a page and the screen of its application are as they were.
* `Session.Directed` — whatever is done with an element next goes to a place.
* `Session.Recalled` — what is known of an element after a pass, and where it is sought next.

## Main results

* `Cache.get?_afterPass_of_getLast?` — the cache keeps the last place.
* `Session.locate_of_unaltered` — an element is located where it was found first.
* `Session.resolve_recalled` — **the place that is cached is the place that is used exactly if the
  element was found once.**
-/

namespace ScreenPages

section

variable {engine : Template.Engine}

/-! ### Places -/

namespace Resolution

variable {r : Resolution} {i : Identity}

/-- The places where an element was found, in the order in which they were noted. -/
def places (r : Resolution) (i : Identity) : List Location :=
  (r.resolved.filter fun f => f.1 == i).map Prod.snd

/-- A resolution answers with the first place. -/
theorem location_eq_head? (r : Resolution) (i : Identity) :
    r.location i = (r.places i).head? := by
  rw [location, places, List.head?_map, List.head?_filter]

/-- What was found has a place. -/
theorem places_ne_nil (h : i ∈ r.resolved.map Prod.fst) : r.places i ≠ [] := by
  obtain ⟨f, hf, rfl⟩ := List.mem_map.mp h
  have hplace : f.2 ∈ r.places f.1 :=
    List.mem_map_of_mem (List.mem_filter.mpr ⟨hf, beq_self_eq_true f.1⟩)
  exact List.ne_nil_of_mem hplace

/-- **The places of an element are all different.** -/
theorem nodup_places {page : List Element} {xs : List Expectation}
    (hread : Expectation.ofElements page = .ok xs) (screen : Option Node) (i : Identity) :
    ((ofPage xs screen).places i).Nodup := by
  cases screen with
  | none => exact List.nodup_nil
  | some root =>
    have hall : ((ofPage xs (some root)).resolved.map Prod.snd).Nodup := by
      rw [ofPage_some, List.map_map]
      exact (numbered_search hread root).nodup_location
    exact hall.sublist (List.filter_sublist.map Prod.snd)

end Resolution

/-- The last of some different things is the first exactly if it is the only one. -/
theorem getLast?_eq_head?_iff {α : Type} {xs : List α} (h : xs.Nodup) (hne : xs ≠ []) :
    xs.getLast? = xs.head? ↔ xs.length = 1 := by
  cases xs with
  | nil => exact absurd rfl hne
  | cons x xs =>
    cases xs with
    | nil => simp
    | cons y ys =>
      have hlast : (y :: ys).getLast (by simp) ≠ x := by
        intro heq
        exact (List.nodup_cons.mp h).1 (heq ▸ List.getLast_mem _)
      rw [List.getLast?_cons_cons, List.getLast?_eq_some_getLast (by simp), List.head?_cons,
        Option.some_inj]
      simp [hlast]

namespace Cache

/-- The cache keeps the last of the locations that are entered for an identity. -/
theorem get?_foldl_set_eq (found : List (Identity × Location)) (c : Cache) (page : Nat)
    {i : Identity} (hi : i ≠ .dynamic) :
    (found.foldl (fun c f => c.set f.1 page f.2) c).get? i
      = (((found.filter fun f => f.1 == i).map Prod.snd).getLast?.map fun l =>
          (⟨page, some l⟩ : Entry)).or (c.get? i) := by
  induction found using List.reverseRecOn with
  | nil => rfl
  | append_singleton found f ih =>
    rw [List.foldl_append, List.foldl_cons, List.foldl_nil, set, get?_put, List.filter_append,
      List.map_append]
    by_cases hf : f.1 = i
    · simp [hf, hi]
    · rw [if_neg fun h => hf h.1.symm, ih]
      simp [hf]

/-- **After a pass the cache has the last place of each element that was found.** -/
theorem get?_afterPass_of_getLast? (c : Cache) (page : Nat) (is : List Identity) {r : Resolution}
    {i : Identity} (hi : i ≠ .dynamic) {l : Location} (hl : (r.places i).getLast? = some l) :
    (c.afterPass page is r.resolved).get? i = some ⟨page, some l⟩ := by
  rw [Resolution.places] at hl
  rw [afterPass, get?_foldl_set_eq _ _ _ hi, hl, Option.map_some, Option.some_or]

end Cache

end

namespace Session

variable {s t u : Session} {n : Nat} {xs : List Expectation} {i : Identity} {l : Location}

section

variable {engine : Template.Engine}

/-! ### The same page on the same screen -/

/-- No step takes back an identity that was given. -/
theorem Step.nextIdentity_le (h : Step s t) : s.nextIdentity ≤ t.nextIdentity := by
  cases h with
  | resolve _ n =>
    have hgiven : s.nextIdentity ≤ (s.lookAt n).2.nextIdentity := Nat.le_add_right _ _
    cases hread : Expectation.ofElements (s.lookAt n).1 with
    | error a => rw [resolve_of_error hread]; exact hgiven
    | ok xs => rw [resolve_of_ok hread]; exact hgiven
  | direct _ clear c hdirect =>
    cases c with
    | installDefaultMonitors deny =>
      exact Nat.le_trans (Nat.le_add_right _ SystemAlert.identities) (Nat.le_add_right _ _)
    | removeMonitor name =>
      rw [run]
      split
      · exact Nat.le_refl _
      · exact Nat.le_refl _
    | callDevice call =>
      obtain ⟨device, hcall⟩ := exists_callDevice_snd s call
      rw [run, hcall]
    | _ => first | exact Nat.le_refl _ | cases hdirect
  | _ => exact Nat.le_refl _

theorem Steps.nextIdentity_le (h : Steps s t) : s.nextIdentity ≤ t.nextIdentity :=
  h.keep (fun _ _ hstep hle => Nat.le_trans hle hstep.nextIdentity_le) (Nat.le_refl _)

/-- A page is as it was in an earlier state, and so is the screen of its application. -/
structure Unaltered (s u : Session) (n : Nat) : Prop where
  page : u.page n = s.page n
  screen : (u.device.snapshot (s.page n).application).1.toOption
    = (s.device.snapshot (s.page n).application).1.toOption

/-- A pass over an unaltered page finds what was found before, where it was found, under the
identities that the page has now. -/
theorem exists_found_of_unaltered (hs : s.Settled)
    (hread : Expectation.ofElements (s.lookAt n).1 = .ok xs) (h : Unaltered s u n)
    (hle : s.nextIdentity ≤ u.nextIdentity) :
    ∃ d ys, Expectation.ofElements (u.lookAt n).1 = .ok ys ∧ (u.surveyOf n ys).found
      = (s.surveyOf n xs).found.mapIdentity (Identity.later s.nextIdentity d) := by
  obtain ⟨d, hd⟩ := Nat.exists_eq_add_of_le hle
  have hbody : (u.lookAt n).1
      = Element.mapIdentityList (Identity.later s.nextIdentity d) (s.lookAt n).1 := by
    rw [lookAt, h.page, hd]
    exact Page.Body.lookAt_add d (hs.body n) (Nat.le_refl _)
  refine ⟨d, Expectation.mapIdentityList (Identity.later s.nextIdentity d) xs, ?_, ?_⟩
  · rw [hbody, Expectation.ofElements_mapIdentityList, hread]
    rfl
  · simp only [surveyOf, h.page, h.screen, Resolution.ofPage_mapIdentity]

/-- **An element is located where it was found first**, as long as the page still owns it and is
unaltered. -/
theorem locate_of_unaltered (hs : s.Settled)
    (hread : Expectation.ofElements (s.lookAt n).1 = .ok xs) (h : Unaltered s u n)
    (hle : s.nextIdentity ≤ u.nextIdentity) {e : Element} (hdeclared : e.identity ≠ .dynamic)
    (hkept : e.identity.Before s.nextIdentity)
    (hl : (s.surveyOf n xs).found.location e.identity = some l)
    (howner : (u.cache.get? e.identity).map Cache.Entry.page = some n) :
    ∃ t, u.locate e = (.ok (.ofLocation (s.page n).application l), t) := by
  obtain ⟨d, ys, hys, hfound⟩ := exists_found_of_unaltered hs hread h hle
  obtain ⟨entry, hentry, rfl⟩ := Option.map_eq_some_iff.mp howner
  have hplace : (u.surveyOf entry.page ys).found.location e.identity = some l := by
    have hsame := Resolution.location_mapIdentity (Identity.later_injective s.nextIdentity d)
      (s.surveyOf entry.page xs).found e.identity
    rw [Identity.later_of_before hkept] at hsame
    rw [hfound, hsame, hl]
  have hdynamic : ¬ e.isDynamic = true := by
    simpa [Element.isDynamic] using hdeclared
  rw [locate, if_neg hdynamic]
  simp only [hentry, resolve_of_ok hys, hplace, ← h.page]
  exact ⟨_, rfl⟩

/-! ### What is cached and what is used -/

/-- A pass finds an element at one place only. -/
theorem FoundBy.unique {e : Element} {v w : Survey} {l l' : Location} (h : FoundBy s e v l)
    (h' : FoundBy s e w l') : v = w ∧ l = l' := by
  obtain ⟨⟨entry, xs, hentry, hread, rfl⟩, hfound⟩ := h
  obtain ⟨⟨entry', xs', hentry', hread', rfl⟩, hfound'⟩ := h'
  rw [hentry, Option.some_inj] at hentry'
  subst hentry'
  rw [hread, Except.ok.injEq] at hread'
  subst hread'
  exact ⟨rfl, Option.some_inj.mp (hfound.symm.trans hfound')⟩

/-- Whatever is done with an element next goes to a place: it is asked about, and gestures are
aimed at it. -/
structure Directed [Template.Engine] (level : Nat) (e : Element) (s : Session)
    (application : Option String) (l : Location) : Prop where
  asked : ∃ t : Session, s.isHittable (interruptions level) e
    = t.call fun d => d.isHittable (.ofLocation application l)
  conducted : ∀ j : Interaction, ∃ v looks made,
    Conducted j e (interruptions level s).2 (j.run (interruptions level) e s) v l looks made ∧
      v.application = application

/-- **What is located is where all goes that is done next.** -/
theorem directed_of_locate {level : Nat} {e : Element} {application : Option String}
    (h : (interruptions level s).2.locate e = (.ok (.ofLocation application l), t)) :
    Directed level e s application l := by
  refine ⟨⟨t, by simp only [isHittable, h]⟩, ?_⟩
  intro j
  -- the pass that located the element is the one that the interaction makes
  obtain ⟨w, hw, happlication⟩ : ∃ w, FoundBy (interruptions level s).2 e w l ∧
      w.application = application := by
    have hsought := locate_sought e (interruptions level s).2
    rw [h] at hsought
    generalize hquery : Query.ofLocation application l = q at hsought
    cases hsought with
    | @located v l' _ found =>
      obtain ⟨path, index⟩ := l
      obtain ⟨path', index'⟩ := l'
      cases hquery
      exact ⟨v, found, rfl⟩
  rcases (run_conducted j level e s).2 with ⟨f, hf, hrefusal, -⟩ | ⟨-, v, l', looks, made, hmade⟩
  · -- gestures that fail are no refusals
    obtain ⟨made, hmade⟩ := exists_touchedAll (j.action e) e
      (j.aim (.ofLocation application l)) j.gestures (j.approach (.ofLocation application l) t)
    rw [j.run_eq_interact, interact] at hf
    simp only [h, Interaction.perform] at hf
    rw [hmade.refusal f hf] at hrefusal
    cases hrefusal
  · obtain ⟨rfl, rfl⟩ := hmade.foundBy.unique hw
    exact ⟨v, looks, made, hmade, happlication⟩

/-- What is known of an element after a pass over a page that went from `s` to `t` and found it,
and where the element is sought next. -/
structure Recalled [Template.Engine] (s t : Session) (n : Nat) (found : Resolution) (i : Identity)
    (first last : Location) : Prop where
  /-- A resolution answers with the first place. -/
  location : found.location i = some first
  /-- The cache has the last one. -/
  cached : t.cache.get? i = some ⟨n, some last⟩
  /-- They are the same exactly if there is only one. -/
  agree : last = first ↔ (found.places i).length = 1
  /-- The next interaction goes to the first place, as long as the page still owns the element
  after the check for interruptions, and neither the page nor the screen is altered. -/
  next : ∀ level e, e.identity = i → i.Before s.nextIdentity →
    Unaltered s (interruptions level t).2 n →
    ((interruptions level t).2.cache.get? i).map Cache.Entry.page = some n →
    Directed level e t (s.page n).application first

/-- **The place that is cached is the place that is used exactly if the element was found once.**
After a pass, in any state of a run, the cache has the last place of each element that was found,
and a resolution answers with the first, where the next interaction goes too. -/
theorem resolve_recalled (hs : s.Settled) {c : PageCheck} {found : Resolution}
    (h : s.resolve n = (.ok (c, found), t)) (hi : i ≠ .dynamic)
    (hfound : i ∈ found.resolved.map Prod.fst) :
    ∃ first last, Recalled s t n found i first last := by
  have hsteps : Steps s t := by
    have hstep := Step.resolve s n
    rw [h] at hstep
    exact .single hstep
  cases hread : Expectation.ofElements (s.lookAt n).1 with
  | error a =>
    rw [resolve_of_error hread] at h
    cases h
  | ok xs =>
    rw [resolve_of_ok hread, Prod.mk.injEq, Except.ok.injEq, Prod.mk.injEq] at h
    obtain ⟨⟨-, rfl⟩, ht⟩ := h
    have hcache : t.cache = s.cache.afterPass n (Element.identities (s.lookAt n).1)
        (s.surveyOf n xs).found.resolved := by
      rw [← ht]
      rfl
    have hne := Resolution.places_ne_nil hfound
    have hnodup : ((s.surveyOf n xs).found.places i).Nodup := Resolution.nodup_places hread _ i
    obtain ⟨last, hlast⟩ : ∃ l, ((s.surveyOf n xs).found.places i).getLast? = some l :=
      ⟨_, List.getLast?_eq_some_getLast hne⟩
    obtain ⟨first, hfirst⟩ : ∃ l, ((s.surveyOf n xs).found.places i).head? = some l :=
      ⟨_, List.head?_eq_some_head hne⟩
    have hlocation := ((s.surveyOf n xs).found.location_eq_head? i).trans hfirst
    refine ⟨first, last, hlocation, ?_, ?_, ?_⟩
    · rw [hcache]
      exact Cache.get?_afterPass_of_getLast? s.cache n _ hi hlast
    · rw [← getLast?_eq_head?_iff hnodup hne, hfirst, hlast, Option.some_inj]
    · intro level e he hkept hunaltered howner
      subst he
      have hle := Steps.nextIdentity_le (hsteps.trans (interruptions_steps level t))
      obtain ⟨u, hu⟩ := locate_of_unaltered hs hread hunaltered hle hi hkept hlocation howner
      exact directed_of_locate hu

end

/-- The button that the page of the sample declares twice. -/
def pairedButton : Element := ⟨.declared 1, .button, none, some "Pay", none, []⟩

/-- A session whose page declares a button twice, on a screen with two buttons. -/
def pairedRun : Session :=
  let button : Node := ⟨{ kind := .button, label := "Pay" }, none, none, []⟩
  start { defaultMonitors := false }
    { screens := [(none, ⟨{ kind := .application }, none, none, [button, button]⟩)] }
    [{ name := "Till", bodies := [⟨[pairedButton, pairedButton], []⟩] }] 2

theorem exists_resolve_pairedRun : ∃ c found t, pairedRun.resolve 0 = (.ok (c, found), t) ∧
    found.resolved.map Prod.fst = [.declared 1, .declared 1] ∧
    (found.location (.declared 1)).map Location.index = some 0 ∧
    ((t.cache.get? (.declared 1)).bind Cache.Entry.location).map Location.index = some 1 := by
  have hfound : (pairedRun.resolve 0).1.toOption.map (fun a => a.2.resolved.map Prod.fst)
      = some [.declared 1, .declared 1] := by decide +kernel
  have hfirst : ((pairedRun.resolve 0).1.toOption.bind fun a =>
      a.2.location (.declared 1)).map Location.index = some 0 := by decide +kernel
  have hlast : (((pairedRun.resolve 0).2.cache.get? (.declared 1)).bind
      Cache.Entry.location).map Location.index = some 1 := by decide +kernel
  generalize pairedRun.resolve 0 = r at hfound hfirst hlast ⊢
  obtain ⟨answer, t⟩ := r
  cases answer with
  | error f => cases hfound
  | ok a => exact ⟨a.1, a.2, t, rfl, Option.some_inj.mp hfound, hfirst, hlast⟩

/-- In the sample the cache has the place of the second button, and a tap goes to the first. -/
theorem resolve_recalled_paired :
    ∃ found t first last, Recalled pairedRun t 0 found (.declared 1) first last ∧
      first.index = 0 ∧ last.index = 1 ∧ Directed 2 pairedButton t none first := by
  obtain ⟨c, found, t, h, hfound, hfirst, hlast⟩ := exists_resolve_pairedRun
  have hsettled : pairedRun.Settled := by
    unfold pairedRun
    exact settled_startUntil (by decide) _ _ _
  obtain ⟨first, last, hrecalled⟩ :=
    resolve_recalled (i := .declared 1) hsettled h (by decide) (by rw [hfound]; decide)
  have ht : t = (pairedRun.resolve 0).2 := by rw [h]
  refine ⟨found, t, first, last, hrecalled, ?_, ?_, ?_⟩
  · rw [hrecalled.location] at hfirst
    exact Option.some_inj.mp hfirst
  · rw [hrecalled.cached] at hlast
    exact Option.some_inj.mp hlast
  · subst ht
    exact hrecalled.next 2 pairedButton rfl (by decide) ⟨rfl, rfl⟩ (by decide +kernel)

/-- **The place that is cached for an element is not always the one that a resolution answers
with**, and that the next interaction goes to. -/
theorem not_forall_cached_eq_location : ¬ ∀ (s t : Session) (n : Nat) (c : PageCheck)
    (found : Resolution) (i : Identity), s.resolve n = (.ok (c, found), t) → i ≠ .dynamic →
      i ∈ found.resolved.map Prod.fst →
      (t.cache.get? i).bind Cache.Entry.location = found.location i := by
  intro hall
  obtain ⟨c, found, t, h, hfound, hfirst, hlast⟩ := exists_resolve_pairedRun
  have hequal := hall pairedRun t 0 c found (.declared 1) h (by decide) (by rw [hfound]; decide)
  rw [hequal, hfirst] at hlast
  cases hlast

end Session

end ScreenPages
