import ScreenPages.Proofs.Freshness
import ScreenPages.Proofs.Renaming

/-!
# Identities are given once

A session counts the identities that it gives.  Those that its pages declare and those that it
remembers were all given before the next one to be given, so that no identity is given again:
not by a body that declares its elements anew, and not by a test that adds pages.

## Main definitions

* `Page.Body.kept` — the identities that are the same each time a body is looked at.
* `Session.Settled` — all identities of a session were given before the next one.

## Main results

* `Cache.before_afterPass` — a pass enters nothing but what was given.
* `Session.Step.settled` — a step keeps a session settled.
* `Session.settled_of_steps` — every state of every run is settled.
-/

namespace ScreenPages

variable {engine : Template.Engine}

/-! ### What a page declares -/

/-- The identities that are the same each time a body is looked at. -/
def Page.Body.kept (b : Page.Body) : List Identity :=
  (Element.identities b.elements).filter fun i => i ∉ b.renewed

/-- An identity that a body has when it is looked at is kept or is given now. -/
theorem Page.Body.mem_lookAt {b : Page.Body} {n : Nat} {i : Identity}
    (hi : i ∈ Element.identities (b.lookAt n)) :
    i ∈ b.kept ∨ ∃ k, i = .declared (n + k) := by
  rw [lookAt, Element.identities_mapIdentityList] at hi
  obtain ⟨j, hj, rfl⟩ := List.mem_map.mp hi
  rw [Identity.renew]
  cases hk : b.renewed.idxOf? j with
  | some k => exact .inr ⟨k, rfl⟩
  | none =>
    rw [List.idxOf?_eq_none_iff] at hk
    exact .inl (List.mem_filter.mpr ⟨hj, by simpa using hk⟩)

/-- What the page of an alert declares was given with the alert. -/
theorem SystemAlert.before_of_mem {name : String} {text deny : Option String} {next : Nat}
    {b : Page.Body} (hb : b ∈ (build name text deny next).page.bodies) {i : Identity}
    (hi : i ∈ Element.identities b.elements) : i.Before (next + identities) := by
  simp only [page, List.mem_singleton] at hb
  subst hb
  cases text with
  | none =>
    simp [Element.identities, build] at hi
    rcases hi with rfl | rfl | rfl <;> simp [Identity.Before, identities]
  | some s =>
    simp [Element.identities, build] at hi
    rcases hi with rfl | rfl | rfl | rfl <;> simp [Identity.Before, identities]

/-! ### What is cached -/

namespace Cache

variable {c : Cache} {next : Nat}

/-- The dynamic identity has no entry. -/
theorem get?_dynamic (hc : c.Proper) : c.get? .dynamic = none := by
  cases hget : c.get? .dynamic with
  | none => rfl
  | some e => exact absurd rfl (hc.declared _ ((get?_eq_some_iff hc).mp hget))

/-- What was not given yet has no entry. -/
theorem get?_eq_none_of_not_before (hc : c.Proper) (h : ∀ x ∈ c.entries, x.1.Before next)
    {i : Identity} (hi : ¬ i.Before next) : c.get? i = none := by
  cases hget : c.get? i with
  | none => rfl
  | some e => exact absurd (h _ ((get?_eq_some_iff hc).mp hget)) hi

/-- **A pass enters nothing but what was given.** -/
theorem before_afterPass (hc : c.Proper) (h : ∀ x ∈ c.entries, x.1.Before next) (page : Nat)
    {is : List Identity} (his : ∀ i ∈ is, i.Before next) {found : List (Identity × Location)}
    (hfound : ∀ f ∈ found, f.1 ∈ is) :
    ∀ x ∈ (c.afterPass page is found).entries, x.1.Before next := by
  rintro ⟨i, e⟩ hx
  have hproper := hc.afterPass page is found
  have hget := (get?_eq_some_iff hproper).mpr hx
  rcases get?_afterPass hc page is found (hproper.declared _ hx) with ⟨l, hl, -⟩ | ⟨-, hrest⟩
  · exact his i (hfound _ hl)
  · rw [hget] at hrest
    split at hrest
    · rename_i hi
      exact his i hi
    · -- the entry is an old one
      rw [eq_comm, Option.filter_eq_some_iff, get?_eq_some_iff hc] at hrest
      exact h _ hrest.1

end Cache

namespace Session

variable {s t : Session}

/-! ### Settled sessions -/

/-- All identities that the pages of a session declare or that it remembers were given before
the next one to be given. -/
structure Settled (s : Session) : Prop where
  /-- No identity has two entries in the cache. -/
  proper : s.cache.Proper
  cached : ∀ x ∈ s.cache.entries, x.1.Before s.nextIdentity
  bodies : ∀ p ∈ s.pages, ∀ b ∈ p.bodies, ∀ i ∈ Element.identities b.elements,
    i.Before s.nextIdentity

/-- What the current body of a page declares was given. -/
theorem Settled.body (h : s.Settled) (n : Nat) :
    ∀ i ∈ Element.identities (s.page n).body.elements, i.Before s.nextIdentity := by
  have hempty : Element.identities (⟨[], []⟩ : Page.Body).elements = [] := by
    rw [Element.identities, Element.flattenList_nil, List.map_nil]
  intro i hi
  rw [page, List.getD_eq_getElem?_getD] at hi
  cases hp : s.pages[n]? with
  | none =>
    rw [hp, Option.getD_none] at hi
    exact absurd (hempty ▸ hi) List.not_mem_nil
  | some p =>
    rw [hp, Option.getD_some, Page.body, List.getD_eq_getElem?_getD] at hi
    cases hb : p.bodies[p.current]? with
    | none =>
      rw [hb, Option.getD_none] at hi
      exact absurd (hempty ▸ hi) List.not_mem_nil
    | some b =>
      rw [hb, Option.getD_some] at hi
      exact h.bodies p (List.mem_of_getElem? hp) b (List.mem_of_getElem? hb) i hi

/-- All that a page declares when it is looked at was given before or is given now. -/
theorem Settled.before_of_mem_lookAt (h : s.Settled) {n : Nat} {i : Identity}
    (hi : i ∈ Element.identities (s.lookAt n).1) : i.Before (s.lookAt n).2.nextIdentity :=
  Page.Body.before_of_mem_lookAt (h.body n) (Nat.le_refl _) hi

/-- A session that gave more identities and remembers as much is settled. -/
theorem Settled.mono (h : s.Settled) (hcache : t.cache = s.cache) (hpages : t.pages = s.pages)
    (hle : s.nextIdentity ≤ t.nextIdentity) : t.Settled where
  proper := hcache ▸ h.proper
  cached := fun x hx => (h.cached x (hcache ▸ hx)).mono hle
  bodies := fun p hp b hb i hi => (h.bodies p (hpages ▸ hp) b hb i hi).mono hle

/-- **A pass keeps a session settled.** -/
theorem Settled.resolve [Template.Engine] (h : s.Settled) (n : Nat) : (s.resolve n).2.Settled := by
  have hle : s.nextIdentity ≤ (s.lookAt n).2.nextIdentity := Nat.le_add_right _ _
  cases hread : Expectation.ofElements (s.lookAt n).1 with
  | error a =>
    rw [resolve_of_error hread]
    exact h.mono rfl rfl hle
  | ok xs =>
    have hgenuine : (s.surveyOf n xs).Genuine := ⟨xs, hread, rfl⟩
    rw [resolve_of_ok hread]
    refine ⟨h.proper.afterPass n _ _, ?_, ?_⟩
    · exact Cache.before_afterPass h.proper (fun x hx => (h.cached x hx).mono hle) n
        (fun i hi => h.before_of_mem_lookAt hi) fun f hf => hgenuine.mem_identities hf
    · exact fun p hp b hb i hi => (h.bodies p hp b hb i hi).mono hle

/-- Adding the monitor of an alert keeps a session settled. -/
theorem Settled.addAlertMonitor (h : s.Settled) {build : Nat → SystemAlert}
    (hbuild : ∀ next, ∀ b ∈ (build next).page.bodies, ∀ i ∈ Element.identities b.elements,
      i.Before (next + SystemAlert.identities)) : (s.addAlertMonitor build).2.Settled where
  proper := h.proper
  cached := fun x hx => (h.cached x hx).mono (Nat.le_add_right _ _)
  bodies := by
    intro p hp b hb i hi
    rcases List.mem_append.mp hp with hp | hp
    · exact (h.bodies p hp b hb i hi).mono (Nat.le_add_right _ _)
    · rw [List.mem_singleton.mp hp] at hb
      exact hbuild _ b hb i hi

theorem Settled.installDefaultMonitors (h : s.Settled) (deny : String) :
    (s.installDefaultMonitors deny).2.Settled :=
  (h.addAlertMonitor fun _ _ hb _ hi => SystemAlert.before_of_mem hb hi).addAlertMonitor
    fun _ _ hb _ hi => SystemAlert.before_of_mem hb hi

/-- A command that needs neither a pass nor a gesture keeps a session settled. -/
theorem Settled.run_of_isDirect (h : s.Settled) (clear : InterruptionCheck) {c : Command}
    (hdirect : c.isDirect = true) : (s.run clear c).2.Settled := by
  cases c with
  | installDefaultMonitors deny => exact h.installDefaultMonitors deny
  | clearCache => exact ⟨.empty, fun _ hx => absurd hx List.not_mem_nil, h.bodies⟩
  | setBody n body =>
    refine ⟨h.proper, h.cached, ?_⟩
    intro p hp b hb i hi
    -- another body is the current one, but they are the same bodies
    obtain ⟨k, hk⟩ : ∃ k, (s.pages.modify n fun p => { p with current := body })[k]? = some p :=
      List.mem_iff_getElem?.mp hp
    rw [List.getElem?_modify, Option.map_eq_map, Option.map_eq_some_iff] at hk
    obtain ⟨q, hq, rfl⟩ := hk
    refine h.bodies q (List.mem_of_getElem? hq) b ?_ i hi
    split at hb
    · exact hb
    · exact hb
  | removeMonitor name =>
    rw [run]
    split
    · exact h.mono rfl rfl (Nat.le_refl _)
    · exact h.mono rfl rfl (Nat.le_refl _)
  | callDevice call =>
    obtain ⟨device, hcall⟩ := exists_callDevice_snd s call
    rw [run, hcall]
    exact h.mono rfl rfl (Nat.le_refl _)
  | _ => first | exact h.mono rfl rfl (Nat.le_refl _) | cases hdirect

/-- **A step keeps a session settled.** -/
theorem Step.settled (h : Step s t) (hs : s.Settled) : t.Settled := by
  cases h with
  | resolve _ n => exact hs.resolve n
  | touch => exact hs.mono rfl rfl (Nat.le_refl _)
  | frame => exact hs.mono rfl rfl (Nat.le_refl _)
  | isHittable => exact hs.mono rfl rfl (Nat.le_refl _)
  | sleep => exact hs.mono rfl rfl (Nat.le_refl _)
  | log => exact hs.mono rfl rfl (Nat.le_refl _)
  | setChecking => exact hs.mono rfl rfl (Nat.le_refl _)
  | setTrace => exact hs.mono rfl rfl (Nat.le_refl _)
  | panic => exact hs.mono rfl rfl (Nat.le_refl _)
  | direct _ clear c h => exact hs.run_of_isDirect clear h

/-- A session whose pages were declared before it began is settled. -/
theorem settled_startUntil {pages : List Page} {next : Nat}
    (hpages : ∀ p ∈ pages, ∀ b ∈ p.bodies, ∀ i ∈ Element.identities b.elements, i.Before next)
    (last : Nat) (settings : Settings) (device : Device) :
    (startUntil last settings device pages next).Settled := by
  have hplain : Settled { settings, device, pages, nextIdentity := next, lastInstant := last } :=
    ⟨.empty, fun _ hx => absurd hx List.not_mem_nil, hpages⟩
  rw [startUntil]
  split
  · exact hplain.installDefaultMonitors _
  · exact hplain

/-- **Every state of every run is settled** if the pages were declared before it began. -/
theorem settled_of_steps {settings : Settings} {device : Device} {pages : List Page}
    {last next : Nat}
    (hpages : ∀ p ∈ pages, ∀ b ∈ p.bodies, ∀ i ∈ Element.identities b.elements, i.Before next)
    (h : Steps (startUntil last settings device pages next) t) : t.Settled :=
  h.keep (fun _ _ hstep hs => hstep.settled hs) (settled_startUntil hpages last settings device)

end Session

end ScreenPages
