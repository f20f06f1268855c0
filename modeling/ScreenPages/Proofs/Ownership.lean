import ScreenPages.Proofs.Polling
import ScreenPages.Proofs.Settled

/-!
# The page that owns an element

The cache remembers for each element the page that it was last looked for with.  This page **owns**
the element: commands on the element make a pass over it.  A pass drops all that its page owns and
enters what the page declares now.  So an element that is declared by its owner goes on to have an
owner that declares it, whatever pages are looked for; and one whose owner has come to declare other
elements has no owner after the next pass over this page, unless another page takes it over.

## Main definitions

* `Session.owner` — the page that an identity was last looked for with.
* `Session.Declares`, `Session.Held` — a page declares an identity, and the owner does.
* `Session.OwnerReadable` — the owner can be read.

## Main results

* `Session.owner_resolve` — who owns an identity after a pass.
* `Session.Held.resolve` — a pass over any page keeps an identity held.
* `Session.Held.interruptions` — and so does a check for interruptions in which no handler runs.
* `Session.not_declares_of_not_held` — such a check takes hold of all that its pages declare.
-/

namespace ScreenPages

variable {engine : Template.Engine}

/-- What a body keeps it has each time it is looked at. -/
theorem Page.Body.mem_lookAt_of_kept {b : Page.Body} {n : Nat} {i : Identity} (hi : i ∈ b.kept) :
    i ∈ Element.identities (b.lookAt n) := by
  obtain ⟨hmem, hnew⟩ := List.mem_filter.mp hi
  rw [lookAt, Element.identities_mapIdentityList]
  exact List.mem_map.mpr ⟨i, hmem, Identity.renew_of_not_mem (by simpa using hnew)⟩

namespace Session

variable {s t : Session} {n level : Nat} {i : Identity} {ms : List Monitor}

/-! ### The page that owns an element -/

/-- The page that an identity was last looked for with. -/
def owner (s : Session) (i : Identity) : Option Nat := (s.cache.get? i).map Cache.Entry.page

/-- The templates of a page can be read. -/
def Readable [Template.Engine] (s : Session) (n : Nat) : Prop :=
  ∃ xs, Expectation.ofElements (s.page n).body.elements = .ok xs

/-- A page can be read, and it declares an identity, the same each time. -/
def Declares [Template.Engine] (s : Session) (n : Nat) (i : Identity) : Prop :=
  s.Readable n ∧ i ∈ (s.page n).body.kept

instance [Template.Engine] (s : Session) (n : Nat) : Decidable (s.Readable n) :=
  match h : Expectation.ofElements (s.page n).body.elements with
  | .ok xs => .isTrue ⟨xs, h⟩
  | .error _ => .isFalse fun ⟨_, hxs⟩ => by rw [h] at hxs; cases hxs

instance [Template.Engine] (s : Session) (n : Nat) (i : Identity) : Decidable (s.Declares n i) :=
  inferInstanceAs (Decidable (_ ∧ _))

/-- The page that owns an identity declares it. -/
def Held [Template.Engine] (s : Session) (i : Identity) :
    Prop := ∃ n, s.owner i = some n ∧ s.Declares n i

/-- An identity is that of an element that was declared. -/
structure Given (s : Session) (i : Identity) : Prop where
  declared : i ≠ .dynamic
  before : i.Before s.nextIdentity

theorem Steady.readable_iff (h : Steady s t) : t.Readable n ↔ s.Readable n := by
  rw [Readable, Readable, h.page n]

theorem Steady.declares_iff (h : Steady s t) : t.Declares n i ↔ s.Declares n i := by
  rw [Declares, Declares, h.readable_iff, h.page n]

theorem Given.of_steady (h : s.Given i) (hsteady : Steady s t) : t.Given i :=
  ⟨h.declared, h.before.mono hsteady.nextIdentity⟩

/-- What is owned was given. -/
theorem Settled.given (hs : s.Settled) (h : s.owner i = some n) : s.Given i := by
  obtain ⟨entry, hentry, -⟩ := Option.map_eq_some_iff.mp h
  have hmem := (Cache.get?_eq_some_iff hs.proper).mp hentry
  exact ⟨hs.proper.declared _ hmem, hs.cached _ hmem⟩

/-- A page declares an identity that was given if it keeps it. -/
theorem Given.mem_lookAt_iff (hi : s.Given i) (n : Nat) :
    i ∈ Element.identities (s.lookAt n).1 ↔ i ∈ (s.page n).body.kept := by
  refine ⟨fun hmem => ?_, Page.Body.mem_lookAt_of_kept⟩
  rcases Page.Body.mem_lookAt hmem with hkept | ⟨k, rfl⟩
  · exact hkept
  · -- the identity would be given only now
    have hbefore := hi.before
    simp only [Identity.Before] at hbefore
    omega

/-- **Who owns an identity after a pass**: the page if it declares the identity, and otherwise
the page that did before, unless it was this one. -/
theorem owner_resolve (hs : s.Settled) (hi : s.Given i) (hreads : s.Readable n) :
    (s.resolve n).2.owner i =
      if i ∈ (s.page n).body.kept then some n else (s.owner i).filter fun m => m != n := by
  obtain ⟨xs, hread⟩ := exists_ofElements_lookAt hreads
  have hgenuine : (s.surveyOf n xs).Genuine := ⟨xs, hread, rfl⟩
  have hmem := hi.mem_lookAt_iff n
  have hcache : (s.resolve n).2.cache
      = s.cache.afterPass n (Element.identities (s.lookAt n).1) (s.surveyOf n xs).found.resolved := by
    rw [resolve_of_ok hread]
    rfl
  rw [owner, owner, hcache]
  rcases Cache.get?_afterPass hs.proper n (Element.identities (s.lookAt n).1)
    (s.surveyOf n xs).found.resolved hi.declared with ⟨l, hl, hget⟩ | ⟨-, hget⟩
  · rw [hget, if_pos (hmem.mp (hgenuine.mem_identities hl))]
    rfl
  · rw [hget]
    by_cases hkept : i ∈ (s.page n).body.kept
    · rw [if_pos hkept, if_pos (hmem.mpr hkept)]
      rfl
    · rw [if_neg hkept, if_neg (mt hmem.mp hkept), Option.filter_map]
      rfl

/-- A pass over a page that cannot be read changes no owner. -/
theorem owner_resolve_of_not_readable (h : ¬ s.Readable n) (i : Identity) :
    (s.resolve n).2.owner i = s.owner i := by
  cases hread : Expectation.ofElements (s.lookAt n).1 with
  | error a =>
    rw [resolve_of_error hread]
    rfl
  | ok xs =>
    simp only [lookAt, Page.Body.lookAt, Expectation.ofElements_mapIdentityList] at hread
    cases hbody : Expectation.ofElements (s.page n).body.elements with
    | error a =>
      rw [hbody] at hread
      cases hread
    | ok ys => exact absurd ⟨ys, hbody⟩ h

/-! ### Passes that keep an element -/

/-- A pass over a page that declares an identity takes hold of it. -/
theorem Declares.held_resolve (h : s.Declares n i) (hs : s.Settled) (hi : s.Given i) :
    (s.resolve n).2.Held i :=
  ⟨n, by rw [owner_resolve hs hi h.1, if_pos h.2], (steady_resolve n s).declares_iff.mpr h⟩

/-- A pass over a page that does not declare an identity leaves it with any other owner, or with
none. -/
theorem owner_resolve_of_not_declares (hs : s.Settled) (hi : s.Given i) (h : ¬ s.Declares n i)
    (hother : s.owner i ≠ some n) : (s.resolve n).2.owner i = s.owner i := by
  by_cases hreads : s.Readable n
  · rw [owner_resolve hs hi hreads, if_neg fun hkept => h ⟨hreads, hkept⟩]
    cases howner : s.owner i with
    | none => rfl
    | some m =>
      have hne : m ≠ n := fun hm => hother (hm ▸ howner)
      simp [hne]
  · exact owner_resolve_of_not_readable hreads i

/-- **A pass over any page keeps an identity held.** -/
theorem Held.resolve [Template.Engine] (h : s.Held i) (hs : s.Settled) (n : Nat) :
    (s.resolve n).2.Held i := by
  obtain ⟨m, hm, hdeclares⟩ := h
  by_cases hn : s.Declares n i
  · exact hn.held_resolve hs (hs.given hm)
  · have hother : s.owner i ≠ some n := by
      rw [hm, ne_eq, Option.some.injEq]
      exact fun hmn => hn (hmn ▸ hdeclares)
    exact ⟨m, (owner_resolve_of_not_declares hs (hs.given hm) hn hother).trans hm,
      (steady_resolve n s).declares_iff.mpr hdeclares⟩

/-- The page that owns an identity can be read, if there is one. -/
def OwnerReadable [Template.Engine] (s : Session) (i : Identity) :
    Prop := ∀ n, s.owner i = some n → s.Readable n

/-- A pass over any page keeps the owner of an identity readable. -/
theorem OwnerReadable.resolve [Template.Engine] (h : s.OwnerReadable i) (hs : s.Settled)
    (hi : s.Given i) (n : Nat) :
    (s.resolve n).2.OwnerReadable i := by
  have hsteady := steady_resolve n s
  intro m hm
  by_cases hreads : s.Readable n
  · rw [owner_resolve hs hi hreads] at hm
    split at hm
    · cases hm
      exact hsteady.readable_iff.mpr hreads
    · exact hsteady.readable_iff.mpr (h m (Option.eq_some_of_filter_eq_some hm))
  · rw [owner_resolve_of_not_readable hreads] at hm
    exact hsteady.readable_iff.mpr (h m hm)

/-- What each pass keeps is kept when the pages of monitors are passed over. -/
theorem PassedOver.keep {P : Session → Prop} (h : PassedOver s ms t)
    (hpass : ∀ u n, P u → P (u.resolve n).2) (hs : P s) : P t := by
  induction h with
  | nil => exact hs
  | @cons s t m ms _ _ ih => exact ih (hpass s m.page hs)

/-- An identity that one of the pages declares is held when all are passed over. -/
theorem PassedOver.held_of_mem (h : PassedOver s ms t) (hs : s.Settled) (hi : s.Given i)
    {m : Monitor} (hm : m ∈ ms) (hdeclares : s.Declares m.page i) : t.Held i := by
  induction h with
  | nil => cases hm
  | @cons s t m' ms _ rest ih =>
    have hsteady := steady_resolve m'.page s
    have hs' := hs.resolve m'.page
    rcases List.mem_cons.mp hm with rfl | hm
    · have hkept := rest.keep (P := fun u => u.Settled ∧ u.Held i)
        (fun u n hu => ⟨hu.1.resolve n, hu.2.resolve hu.1 n⟩)
        ⟨hs', hdeclares.held_resolve hs hi⟩
      exact hkept.2
    · exact ih hs' (hi.of_steady hsteady) hm (hsteady.declares_iff.mpr hdeclares)

/-- An identity that has no owner has none after pages are passed over that do not declare it. -/
theorem PassedOver.owner_eq_none (h : PassedOver s ms t) (hs : s.Settled) (hi : s.Given i)
    (hnot : ∀ m ∈ ms, ¬ s.Declares m.page i) (hnone : s.owner i = none) : t.owner i = none := by
  induction h with
  | nil => exact hnone
  | @cons s t m ms _ _ ih =>
    have hsteady := steady_resolve m.page s
    refine ih (hs.resolve m.page) (hi.of_steady hsteady) ?_ ?_
    · intro m' hm' hdeclares
      exact hnot m' (List.mem_cons_of_mem m hm') (hsteady.declares_iff.mp hdeclares)
    · have hother : s.owner i ≠ some m.page := by rw [hnone]; nofun
      exact (owner_resolve_of_not_declares hs hi (hnot m List.mem_cons_self) hother).trans hnone

/-! ### Checks in which no handler runs -/

theorem Settled.interruptions [Template.Engine] (h : s.Settled) (level : Nat) :
    (Session.interruptions level s).2.Settled :=
  (interruptions_steps level s).keep (fun _ _ hstep hs => hstep.settled hs) h

/-- What each pass and the mark of a check keep is kept by a check in which no handler runs. -/
theorem keep_interruptions {P : Session → Prop} (hquiet : (interruptions level s).1 = none)
    (hpass : ∀ u n, P u → P (u.resolve n).2) (hmark : ∀ u b, P u → P { u with checking := b })
    (hs : P s) : P (interruptions level s).2 := by
  obtain ⟨t, hpassed, ht⟩ := exists_passedOver hquiet
  rw [ht]
  exact hmark t _ (hpassed.keep hpass (hmark s true hs))

theorem Held.interruptions [Template.Engine] (h : s.Held i) (hs : s.Settled)
    (hquiet : (interruptions level s).1 = none) : (Session.interruptions level s).2.Held i := by
  have hkept := keep_interruptions (P := fun u => u.Settled ∧ u.Held i) hquiet
    (fun _ n ⟨hs, h⟩ => ⟨hs.resolve n, h.resolve hs n⟩)
    (fun _ _ ⟨hs, h⟩ => ⟨hs.mono rfl rfl le_rfl, h⟩) ⟨hs, h⟩
  exact hkept.2

theorem OwnerReadable.interruptions [Template.Engine] (h : s.OwnerReadable i) (hs : s.Settled)
    (hi : s.Given i) (hquiet : (interruptions level s).1 = none) :
    (Session.interruptions level s).2.OwnerReadable i := by
  have hkept := keep_interruptions (P := fun u => u.Settled ∧ u.Given i ∧ u.OwnerReadable i) hquiet
    (fun u n ⟨hs, hi, h⟩ => ⟨hs.resolve n, hi.of_steady (steady_resolve n u), h.resolve hs hi n⟩)
    (fun _ _ ⟨hs, hi, h⟩ => ⟨hs.mono rfl rfl le_rfl, ⟨hi.declared, hi.before⟩, h⟩) ⟨hs, hi, h⟩
  exact hkept.2.2

/-- If an identity is not held after a check, none of the pages that the check looks for declares
it. -/
theorem not_declares_of_not_held (hs : s.Settled) (hi : s.Given i)
    (hquiet : (interruptions level s).1 = none) (h : ¬ (interruptions level s).2.Held i) :
    ∀ m ∈ s.lookedFor level, ¬ s.Declares m.page i := by
  obtain ⟨t, hpassed, ht⟩ := exists_passedOver hquiet
  rw [ht] at h
  intro m hm hdeclares
  exact h (hpassed.held_of_mem (hs.mono rfl rfl le_rfl) ⟨hi.declared, hi.before⟩ hm hdeclares)

/-- An identity without an owner has none after a check either, if none of the pages that the
check looks for declares it. -/
theorem owner_interruptions_eq_none (hs : s.Settled) (hi : s.Given i)
    (hquiet : (interruptions level s).1 = none)
    (hnot : ∀ m ∈ s.lookedFor level, ¬ s.Declares m.page i) (hnone : s.owner i = none) :
    (interruptions level s).2.owner i = none := by
  obtain ⟨t, hpassed, ht⟩ := exists_passedOver hquiet
  rw [ht]
  exact hpassed.owner_eq_none (hs.mono rfl rfl le_rfl) ⟨hi.declared, hi.before⟩ hnot hnone

end Session

end ScreenPages
