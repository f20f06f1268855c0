import Mathlib.Data.List.Nodup
import ScreenPages.Proofs.Aim

/-!
# The freshness of the cache

Pages may share elements, so an identity changes its owner when another page that declares it
is looked for.  A pass over a page drops what the page owns, enters as pending all that the
page declares now, and then enters what it found.  Whatever a test does, the cache therefore
tells of each page what the last pass over it found: nothing is left of earlier passes, and
nothing of the last one is lost except to a later pass over another page, or to a test that
empties the cache.

## Main definitions

* `Cache.Proper` — no identity has two entries, and the dynamic one has none.
* `Cache.afterPass` — the cache after a pass over a page.
* `Session.Latest` — a pass is the last one over its page.
* `Session.Fresh` — each entry is from the last pass over the page that owns it.
* `Session.Complete` — the last pass over each page has its entries.

## Main results

* `Cache.get?_afterPass` — what a pass makes of each entry.
* `Session.Step.memory` — what a step can do to the cache and the history.
* `Session.cache_fresh_of_steps` — the cache of every state of every run is fresh and complete.
-/

namespace ScreenPages

/-! ### The cache as a map -/

namespace Cache

/-- No identity has two entries, and the dynamic one has none. -/
structure Proper (c : Cache) : Prop where
  distinct : (c.entries.map Prod.fst).Nodup
  declared : ∀ x ∈ c.entries, x.1 ≠ .dynamic

variable {c : Cache} {i j : Identity} {e : Entry}

/-- What is looked up is an entry. -/
theorem get?_eq_some_iff (h : c.Proper) : c.get? i = some e ↔ (i, e) ∈ c.entries := by
  rw [get?, Option.map_eq_some_iff]
  constructor
  · rintro ⟨x, hfind, rfl⟩
    have hidentity : x.1 = i := by simpa using List.find?_some hfind
    rw [← hidentity]
    exact List.mem_of_find?_eq_some hfind
  · intro hmem
    -- some entry of the identity is found, and there is only one
    have hsome : (c.entries.find? fun x => x.1 == i).isSome := by
      rw [List.find?_isSome]
      exact ⟨(i, e), hmem, beq_self_eq_true i⟩
    obtain ⟨x, hfind⟩ := Option.isSome_iff_exists.mp hsome
    have hidentity : x.1 = i := by simpa using List.find?_some hfind
    have hx : x = (i, e) :=
      List.inj_on_of_nodup_map h.distinct (List.mem_of_find?_eq_some hfind) hmem hidentity
    exact ⟨x, hfind, by rw [hx]⟩

/-- Entering an identity changes its own entry and no other. -/
theorem get?_put (c : Cache) (i j : Identity) (e : Entry) :
    (c.put i e).get? j = if j = i ∧ i ≠ .dynamic then some e else c.get? j := by
  by_cases hi : i = .dynamic
  · simp [put, hi]
  · by_cases hj : j = i
    · simp [put, get?, hi, hj]
    · have hij : i ≠ j := fun h => hj h.symm
      have hsame : (fun x : Identity × Entry => decide ((x.1 != i) = true ∧ (x.1 == j) = true))
          = fun x => x.1 == j := by
        funext x
        by_cases hx : x.1 = j
        · simp [hx, hj]
        · simp [hx]
      rw [if_neg fun h => hj h.1, put, if_neg hi, get?, get?,
        List.find?_cons_of_neg (by simpa using hij), List.find?_filter, hsame]

theorem Proper.empty : Proper {} := ⟨List.nodup_nil, fun x hx => by cases hx⟩

/-- Some of the entries of a proper cache make a proper cache. -/
theorem Proper.filter (h : c.Proper) (P : Identity × Entry → Bool) :
    Proper ⟨c.entries.filter P⟩ where
  distinct := h.distinct.sublist (List.filter_sublist.map Prod.fst)
  declared := fun x hx => h.declared x (List.mem_of_mem_filter hx)

theorem Proper.put (h : c.Proper) (i : Identity) (e : Entry) : (c.put i e).Proper := by
  rw [Cache.put]
  split
  · exact h
  · rename_i hi
    have hrest := h.filter fun x => x.1 != i
    refine ⟨?_, ?_⟩
    · rw [List.map_cons, List.nodup_cons]
      refine ⟨?_, hrest.distinct⟩
      intro hmem
      obtain ⟨x, hx, hxi⟩ := List.mem_map.mp hmem
      simp [hxi] at hx
    · intro x hx
      rcases List.mem_cons.mp hx with rfl | hx
      · exact hi
      · exact hrest.declared x hx

/-! ### The cache after a pass -/

/-- The entries of other pages than the given one. -/
def without (c : Cache) (page : Nat) : Cache := ⟨c.entries.filter fun e => e.2.page != page⟩

/-- The cache after a pass over a page that declares some identities and found others. -/
def afterPass (c : Cache) (page : Nat) (declared : List Identity)
    (found : List (Identity × Location)) : Cache :=
  found.foldl (fun c f => c.set f.1 page f.2) (c.register page declared)

theorem get?_without (h : c.Proper) (page : Nat) (i : Identity) :
    (c.without page).get? i = (c.get? i).filter fun e => e.page != page := by
  ext e
  rw [without, get?_eq_some_iff (h.filter _), Option.filter_eq_some_iff, get?_eq_some_iff h,
    List.mem_filter]

theorem get?_foldl_put (is : List Identity) (c : Cache) (e : Entry) (hj : j ≠ .dynamic) :
    (is.foldl (fun c i => c.put i e) c).get? j = if j ∈ is then some e else c.get? j := by
  induction is generalizing c with
  | nil => simp
  | cons i is ih =>
    rw [List.foldl_cons, ih, get?_put]
    by_cases hmem : j ∈ is
    · simp [hmem]
    · by_cases hji : j = i
      · simp [← hji, hj]
      · simp [hmem, hji]

/-- Registering a page makes pending what it declares now, and drops what it declared. -/
theorem get?_register (h : c.Proper) (page : Nat) (is : List Identity) (hi : i ≠ .dynamic) :
    (c.register page is).get? i =
      if i ∈ is then some ⟨page, none⟩ else (c.get? i).filter fun e => e.page != page := by
  rw [register, get?_foldl_put is _ _ hi]
  exact congrArg _ (get?_without h page i)

/-- Entering what was found gives one of the found locations to each identity that was found. -/
theorem get?_foldl_set (found : List (Identity × Location)) (c : Cache) (page : Nat)
    (hi : i ≠ .dynamic) :
    (∃ l, (i, l) ∈ found ∧
        (found.foldl (fun c f => c.set f.1 page f.2) c).get? i = some ⟨page, some l⟩) ∨
      ((∀ f ∈ found, f.1 ≠ i) ∧
        (found.foldl (fun c f => c.set f.1 page f.2) c).get? i = c.get? i) := by
  induction found generalizing c with
  | nil => exact .inr ⟨fun f hf => absurd hf List.not_mem_nil, rfl⟩
  | cons f found ih =>
    rw [List.foldl_cons]
    -- what is found later replaces what is found first
    rcases ih (c.set f.1 page f.2) with ⟨l, hl, hget⟩ | ⟨hnone, hget⟩
    · exact .inl ⟨l, List.mem_cons_of_mem _ hl, hget⟩
    · rw [set, get?_put] at hget
      by_cases hfi : i = f.1
      · rw [if_pos ⟨hfi, hfi ▸ hi⟩] at hget
        refine .inl ⟨f.2, ?_, hget⟩
        rw [hfi]
        exact List.mem_cons_self
      · rw [if_neg fun h => hfi h.1] at hget
        refine .inr ⟨?_, hget⟩
        intro g hg
        rcases List.mem_cons.mp hg with rfl | hg
        · exact fun h => hfi h.symm
        · exact hnone g hg

theorem Proper.register (h : c.Proper) (page : Nat) (is : List Identity) :
    (c.register page is).Proper := by
  have hall : ∀ (is : List Identity) (c : Cache), c.Proper →
      (is.foldl (fun c i => c.put i ⟨page, none⟩) c).Proper := by
    intro is
    induction is with
    | nil => exact fun c h => h
    | cons i is ih => exact fun c h => ih _ (h.put i _)
  exact hall is _ (h.filter _)

theorem Proper.afterPass (h : c.Proper) (page : Nat) (is : List Identity)
    (found : List (Identity × Location)) : (c.afterPass page is found).Proper := by
  have hall : ∀ (found : List (Identity × Location)) (c : Cache), c.Proper →
      (found.foldl (fun c f => c.set f.1 page f.2) c).Proper := by
    intro found
    induction found with
    | nil => exact fun c h => h
    | cons f found ih => exact fun c h => ih _ (h.put f.1 _)
  exact hall found _ (h.register page is)

/-- **What a pass makes of the entry of an identity**: it was found, or declared and not found,
or it is of no concern to the page and keeps its entry if another page owns it. -/
theorem get?_afterPass (h : c.Proper) (page : Nat) (is : List Identity)
    (found : List (Identity × Location)) (hi : i ≠ .dynamic) :
    (∃ l, (i, l) ∈ found ∧ (c.afterPass page is found).get? i = some ⟨page, some l⟩) ∨
      ((∀ f ∈ found, f.1 ≠ i) ∧ (c.afterPass page is found).get? i =
        if i ∈ is then some ⟨page, none⟩ else (c.get? i).filter fun e => e.page != page) := by
  rw [afterPass, ← get?_register h page is hi]
  exact get?_foldl_set found _ page hi

end Cache

namespace Session

variable {s t : Session} {v w : Survey} {event : Event} {events newer : List Event}

section

variable {engine : Template.Engine}

/-! ### What a step does to the memory of a session -/

/-- What is found was declared. -/
theorem Survey.Genuine.mem_identities (h : v.Genuine) {f : Identity × Location}
    (hf : f ∈ v.found.resolved) : f.1 ∈ Element.identities v.body := by
  obtain ⟨xs, hread, hfound⟩ := h
  rw [hfound] at hf
  cases hscreen : v.screen with
  | none =>
    rw [hscreen] at hf
    cases hf
  | some root =>
    rw [hscreen, Resolution.ofPage_some] at hf
    obtain ⟨x, hx, rfl⟩ := List.mem_map.mp hf
    obtain ⟨e, he, hidentity, -⟩ := Resolution.exists_shows_of_mem hread hx
    exact List.mem_map.mpr ⟨e, he, hidentity⟩

/-- What a step can do to the cache and to the record of what happened. -/
inductive Memory [Template.Engine] (s t : Session) : Prop
  | kept (cache : t.cache = s.cache) (history : t.history = s.history)
      (emptied : t.emptied = s.emptied) : Memory s t
  /-- A gesture. -/
  | touched (u : Touch) (cache : t.cache = s.cache) (history : t.history = .touch u :: s.history)
      (emptied : t.emptied = s.emptied) : Memory s t
  /-- A pass that could read the page. -/
  | surveyed (v : Survey) (genuine : v.Genuine)
      (cache : t.cache
        = s.cache.afterPass v.page (Element.identities v.body) v.found.resolved)
      (history : t.history = .survey v :: s.history) (emptied : t.emptied = s.emptied) :
      Memory s t
  /-- The test empties the cache. -/
  | cleared (cache : t.cache = {}) (history : t.history = s.history)
      (emptied : t.emptied = s.history) : Memory s t

/-- **What a step can do to the cache and to the record of what happened.** -/
theorem Step.memory (h : Step s t) : Memory s t := by
  cases h with
  | resolve _ n =>
    cases hread : Expectation.ofElements (s.lookAt n).1 with
    | error a =>
      rw [resolve_of_error hread]
      exact .kept rfl rfl rfl
    | ok xs =>
      rw [resolve_of_ok hread]
      exact .surveyed (s.surveyOf n xs) ⟨xs, hread, rfl⟩ rfl rfl rfl
  | touch _ h g => exact .touched _ rfl rfl rfl
  | frame => exact .kept rfl rfl rfl
  | isHittable => exact .kept rfl rfl rfl
  | sleep => exact .kept rfl rfl rfl
  | log => exact .kept rfl rfl rfl
  | setChecking => exact .kept rfl rfl rfl
  | setTrace => exact .kept rfl rfl rfl
  | panic => exact .kept rfl rfl rfl
  | direct _ clear c h =>
    have hdirect := untouched_run_of_isDirect clear s h
    rcases hdirect.cache with ⟨hcache, hemptied⟩ | ⟨hcache, hemptied⟩
    · exact .kept hcache hdirect.history hemptied
    · exact .cleared hcache hdirect.history hemptied

/-! ### The last pass over a page -/

/-- A pass is the last one over its page, and what happened since is known. -/
structure Latest (events newer : List Event) (v : Survey) : Prop where
  split : ∃ older, events = newer ++ .survey v :: older
  last : ∀ w, .survey w ∈ newer → w.page ≠ v.page

/-- The last pass of all is the last one over its page. -/
theorem Latest.first : Latest (.survey v :: events) [] v :=
  ⟨⟨events, rfl⟩, fun _ hw => absurd hw List.not_mem_nil⟩

/-- A pass remains the last one over its page unless there is another. -/
theorem Latest.cons (h : Latest events newer v)
    (hevent : ∀ w, event = .survey w → w.page ≠ v.page) :
    Latest (event :: events) (event :: newer) v := by
  obtain ⟨older, hsplit⟩ := h.split
  refine ⟨⟨older, by rw [hsplit, List.cons_append]⟩, ?_⟩
  intro w hw
  rcases List.mem_cons.mp hw with hw | hw
  · exact hevent w hw.symm
  · exact h.last w hw

/-- The last pass over a page is the one that just happened or was the last before. -/
theorem Latest.of_cons (h : Latest (event :: events) newer v) :
    (newer = [] ∧ event = .survey v) ∨ ∃ rest, newer = event :: rest ∧ Latest events rest v ∧
      ∀ w, event = .survey w → w.page ≠ v.page := by
  obtain ⟨older, hsplit⟩ := h.split
  cases newer with
  | nil =>
    cases hsplit
    exact .inl ⟨rfl, rfl⟩
  | cons e rest =>
    rw [List.cons_append, List.cons.injEq] at hsplit
    obtain ⟨rfl, hsplit⟩ := hsplit
    refine .inr ⟨rest, rfl, ⟨⟨older, hsplit⟩, ?_⟩, ?_⟩
    · intro w hw
      exact h.last w (List.mem_cons_of_mem _ hw)
    · rintro w rfl
      exact h.last w List.mem_cons_self

/-! ### Freshness -/

/-- Each entry of a cache is from the last pass over the page that owns it: the pass saw the
identity declared, and if there is a location, the pass recorded it for the identity. -/
structure Fresh (events : List Event) (cache : Cache) : Prop where
  /-- No identity has two entries, and the dynamic one has none. -/
  proper : cache.Proper
  recorded : ∀ x ∈ cache.entries, ∃ newer v, Latest events newer v ∧ v.page = x.2.page ∧
    x.1 ∈ Element.identities v.body ∧
      ∀ l, x.2.location = some l → (x.1, l) ∈ v.found.resolved

/-- A page owns the entry of an identity, which is pending exactly if the pass over the page
did not find the identity. -/
def Survey.Owns (v : Survey) (cache : Cache) (i : Identity) : Prop :=
  ∃ location, cache.get? i = some ⟨v.page, location⟩ ∧
    (location = none ↔ ∀ f ∈ v.found.resolved, f.1 ≠ i)

/-- The last pass over each page has the entries of all that it saw declared, but for those
that a later pass over another page took over. -/
def Complete (events : List Event) (cache : Cache) : Prop :=
  ∀ newer v, Latest events newer v → ∀ i ∈ Element.identities v.body, i ≠ .dynamic →
    v.Owns cache i ∨ ∃ w, .survey w ∈ newer ∧ i ∈ Element.identities w.body

/-- What is neither a pass nor an emptying keeps a cache fresh. -/
theorem Fresh.cons {cache : Cache} (h : Fresh events cache)
    (hevent : ∀ w, event ≠ .survey w) : Fresh (event :: events) cache := by
  refine ⟨h.proper, ?_⟩
  intro x hx
  obtain ⟨newer, v, hlatest, hv⟩ := h.recorded x hx
  exact ⟨_, v, hlatest.cons fun w hw => absurd hw (hevent w), hv⟩

/-- What is neither a pass nor an emptying keeps a cache complete. -/
theorem Complete.cons {cache : Cache} (h : Complete events cache)
    (hevent : ∀ w, event ≠ .survey w) : Complete (event :: events) cache := by
  intro newer v hlatest i hi hdeclared
  rcases hlatest.of_cons with ⟨-, hv⟩ | ⟨rest, rfl, hlatest, -⟩
  · exact absurd hv (hevent v)
  · rcases h rest v hlatest i hi hdeclared with howns | ⟨w, hw, hiw⟩
    · exact .inl howns
    · exact .inr ⟨w, List.mem_cons_of_mem _ hw, hiw⟩

/-- **A pass keeps a cache fresh.** -/
theorem Fresh.surveyed {cache : Cache} (h : Fresh events cache) (hv : v.Genuine) :
    Fresh (.survey v :: events)
      (cache.afterPass v.page (Element.identities v.body) v.found.resolved) := by
  have hproper := h.proper.afterPass v.page (Element.identities v.body) v.found.resolved
  refine ⟨hproper, ?_⟩
  rintro ⟨i, e⟩ hx
  have hget := (Cache.get?_eq_some_iff hproper).mpr hx
  rcases Cache.get?_afterPass h.proper v.page (Element.identities v.body) v.found.resolved
    (hproper.declared _ hx) with ⟨l, hl, hfound⟩ | ⟨-, hrest⟩
  · -- the pass found the identity
    rw [hfound] at hget
    cases hget
    refine ⟨[], v, .first, rfl, hv.mem_identities hl, ?_⟩
    rintro l' ⟨⟩
    exact hl
  · rw [hget] at hrest
    split at hrest
    · -- it saw the identity declared, but did not find it
      rename_i hi
      cases hrest
      refine ⟨[], v, .first, rfl, hi, ?_⟩
      rintro l ⟨⟩
    · -- the entry is an old one of another page
      rw [eq_comm, Option.filter_eq_some_iff, Cache.get?_eq_some_iff h.proper] at hrest
      obtain ⟨hold, hpage⟩ := hrest
      obtain ⟨newer, w, hlatest, hw, hrecorded⟩ := h.recorded _ hold
      refine ⟨_, w, hlatest.cons ?_, hw, hrecorded⟩
      rintro u ⟨⟩ hu
      rw [hu, hw] at hpage
      simp at hpage

/-- **A pass keeps a cache complete.** -/
theorem Complete.surveyed {cache : Cache} (h : Complete events cache) (hproper : cache.Proper)
    (hv : v.Genuine) :
    Complete (.survey v :: events)
      (cache.afterPass v.page (Element.identities v.body) v.found.resolved) := by
  intro newer w hlatest i hi hdeclared
  have hpass := Cache.get?_afterPass hproper v.page (Element.identities v.body)
    v.found.resolved hdeclared
  rcases hlatest.of_cons with ⟨-, hvw⟩ | ⟨rest, rfl, hlatest, hpage⟩
  · -- the page is the one that was just looked for
    cases hvw
    left
    rcases hpass with ⟨l, hl, hget⟩ | ⟨hnone, hget⟩
    · refine ⟨some l, hget, ?_⟩
      simp only [reduceCtorEq, false_iff]
      exact fun hall => hall _ hl rfl
    · rw [if_pos hi] at hget
      exact ⟨none, hget, iff_of_true rfl hnone⟩
  · rcases h rest w hlatest i hi hdeclared with ⟨location, hold, hpending⟩ | ⟨u, hu, hiu⟩
    · by_cases hiv : i ∈ Element.identities v.body
      · exact .inr ⟨v, List.mem_cons_self, hiv⟩
      · -- the pass has no concern with the identity
        left
        rcases hpass with ⟨l, hl, -⟩ | ⟨-, hget⟩
        · exact absurd (hv.mem_identities hl) hiv
        · refine ⟨location, ?_, hpending⟩
          rw [hget, if_neg hiv, hold, Option.filter_some_pos]
          simpa using (hpage v rfl).symm
    · exact .inr ⟨u, List.mem_cons_of_mem _ hu, hiu⟩

/-- The cache of a session is fresh, and complete as far as what happened since it was last
emptied is concerned. -/
structure Remembers (s : Session) : Prop where
  fresh : Fresh s.history s.cache
  complete : ∃ since, s.history = since ++ s.emptied ∧ Complete since s.cache

/-- An empty cache of which nothing is expected. -/
theorem Complete.nil (cache : Cache) : Complete [] cache := by
  intro newer v hlatest
  obtain ⟨older, hsplit⟩ := hlatest.split
  simp at hsplit

/-- An empty cache is fresh. -/
theorem Fresh.empty (events : List Event) : Fresh events {} :=
  ⟨.empty, fun _ hx => absurd hx List.not_mem_nil⟩

/-- **A step keeps the cache fresh and complete.** -/
theorem Step.remembers (h : Step s t) (hs : s.Remembers) : t.Remembers := by
  obtain ⟨hfresh, since, hsince, hcomplete⟩ := hs
  cases h.memory with
  | kept hcache hhistory hemptied =>
    refine ⟨?_, since, ?_, ?_⟩
    · rwa [hcache, hhistory]
    · rw [hhistory, hemptied, hsince]
    · rwa [hcache]
  | touched u hcache hhistory hemptied =>
    have hevent : ∀ w, Event.touch u ≠ .survey w := by
      rintro w ⟨⟩
    refine ⟨?_, .touch u :: since, ?_, ?_⟩
    · rw [hcache, hhistory]
      exact hfresh.cons hevent
    · rw [hhistory, hemptied, hsince, List.cons_append]
    · rw [hcache]
      exact hcomplete.cons hevent
  | surveyed v hv hcache hhistory hemptied =>
    refine ⟨?_, .survey v :: since, ?_, ?_⟩
    · rw [hcache, hhistory]
      exact hfresh.surveyed hv
    · rw [hhistory, hemptied, hsince, List.cons_append]
    · rw [hcache]
      exact hcomplete.surveyed hfresh.proper hv
  | cleared hcache hhistory hemptied =>
    refine ⟨?_, [], ?_, .nil _⟩
    · rw [hcache]
      exact .empty _
    · rw [hhistory, hemptied, List.nil_append]

/-- Nothing is remembered at the beginning. -/
theorem remembers_startUntil (last : Nat) (settings : Settings) (device : Device)
    (pages : List Page) (next : Nat) :
    (startUntil last settings device pages next).Remembers := by
  have hstart : (startUntil last settings device pages next).cache = {} ∧
      (startUntil last settings device pages next).emptied = [] := by
    rw [startUntil]
    split
    · exact ⟨rfl, rfl⟩
    · exact ⟨rfl, rfl⟩
  refine ⟨?_, [], ?_, .nil _⟩
  · rw [hstart.1]
    exact .empty _
  · rw [history_startUntil, hstart.2, List.nil_append]

/-- **The cache of every state that a run goes through is fresh**: each entry is from the last
pass over the page that owns it.  **And it is complete** as far as what happened since a test
last emptied it is concerned: all that the last pass over a page saw declared is there, unless
a later pass over another page took it over. -/
theorem cache_fresh_of_steps {settings : Settings} {device : Device} {pages : List Page}
    {last next : Nat} (h : Steps (startUntil last settings device pages next) t) :
    Fresh t.history t.cache ∧
      ∃ since, t.history = since ++ t.emptied ∧ Complete since t.cache := by
  have hkept := h.keep (fun s t hstep hs => hstep.remembers hs)
    (remembers_startUntil last settings device pages next)
  exact ⟨hkept.fresh, hkept.complete⟩

end

/-- A session that checks two pages which share a button, the second page in vain. -/
def sharedRun : Session :=
  let button : Element := ⟨.declared 2, .button, some "ok", some "OK", none, []⟩
  ((start { defaultMonitors := false } { screens := [(none, Resolution.sampleScreen)] }
      [ { name := "Checkout",
          bodies := [⟨[⟨.declared 1, .staticText, none, some "Total", none, []⟩, button], []⟩] },
        { name := "Question",
          bodies := [⟨[button, ⟨.declared 3, .button, none, some "No", none, []⟩], []⟩] } ]
      4).executeAll [.check 0, .check 1]).2

/-- In the sample run the second page takes the button over, and what it did not find is
pending. -/
theorem cache_fresh_of_steps_shared :
    (Fresh sharedRun.history sharedRun.cache ∧
      ∃ since, sharedRun.history = since ++ sharedRun.emptied ∧ Complete since sharedRun.cache) ∧
    (sharedRun.cache.get? (.declared 2)).map Cache.Entry.page = some 1 ∧
    sharedRun.cache.get? (.declared 3) = some ⟨1, none⟩ := by
  refine ⟨cache_fresh_of_steps (executeAll_steps _ _), ?_⟩
  decide +kernel

end Session

end ScreenPages
