import Mathlib.Data.List.Nodup
import ScreenPages.Proofs.Numbering
import ScreenPages.Proofs.Preview

/-!
# What is missing of a page

An element that is missing leaves the search where it was, so the page can do without it: if
some of the missing elements are deleted, the others get the same places.

On a page of elements with nothing below them the search misses nothing that could be found.
Nodes for all of the elements, one behind the other, can be exchanged for those that the search
takes: it takes each time the first node that is left, and never gets behind the others.

## Main results

* `Assigned.of_sublist` — outcomes without those of some missing elements are still right.
* `Placed.exists_of_shows` — elements with nothing below them have places if there are nodes
  for them, one behind the other.
* `Resolution.ofPage_of_sublist`, `Resolution.ofPage_accepted` — missing elements can be deleted.
* `Resolution.ofPage_complete_iff_exists_shows` — when nothing is missing of a flat page.
-/

namespace ScreenPages

variable {s : Snapshot} {lo hi bound : Nat} {os os' : Outcomes}

section

variable {engine : Template.Engine}

/-! ### Deleting missing elements -/

namespace Outcomes

/-- Some of the outcomes have some of the findings. -/
theorem found_sublist (h : os'.Sublist os) : os'.found.Sublist os.found := h.filterMap Prod.snd

/-- The outcomes for the elements that were found. -/
def kept (os : Outcomes) : Outcomes := os.filter fun o => o.2.isSome

theorem kept_sublist (os : Outcomes) : os.kept.Sublist os := List.filter_sublist

/-- Nothing is missing of what was found. -/
@[simp] theorem missing_kept (os : Outcomes) : os.kept.missing = [] := by
  rw [missing, kept, List.filter_filter, List.map_eq_nil_iff, List.filter_eq_nil_iff]
  intro o _
  cases o.2 <;> simp

@[simp] theorem found_kept (os : Outcomes) : os.kept.found = os.found := by
  induction os with
  | nil => rfl
  | cons o os ih =>
    obtain ⟨e, outcome⟩ := o
    cases outcome with
    | none => exact ih
    | some f => exact congrArg (f :: ·) ih

/-- If elements are told apart by their identities, those that were found are those that are
not among the missing ones. -/
theorem accepted_eq_filter (h : (os.map fun o => o.1.identity).Nodup) :
    os.accepted = (os.map Prod.fst).filter
      fun e => e.identity ∉ os.missing.map Element.identity := by
  rw [accepted, List.filter_map]
  refine congrArg (List.map Prod.fst) (List.filter_congr fun o ho => ?_)
  -- an element with the identity of a missing one is that one
  have hmissing : o.1.identity ∈ os.missing.map Element.identity ↔ o.2.isNone = true := by
    constructor
    · intro hmem
      obtain ⟨e, he, hidentity⟩ := List.mem_map.mp hmem
      obtain ⟨o', ho', rfl⟩ := List.mem_map.mp he
      obtain ⟨hin, hnone⟩ := List.mem_filter.mp ho'
      rwa [List.inj_on_of_nodup_map h ho hin hidentity.symm]
    · intro hnone
      exact List.mem_map_of_mem (List.mem_map_of_mem (List.mem_filter.mpr ⟨ho, hnone⟩))
  rw [Bool.eq_iff_iff, Function.comp_apply, decide_eq_true_iff, hmissing,
    Option.isSome_iff_ne_none, Option.isNone_iff_eq_none]

end Outcomes

/-- **Outcomes without those of some missing elements are still right.** -/
theorem Assigned.of_sublist (h : Assigned s bound os) (hsub : os'.Sublist os)
    (hfound : os'.found = os.found) : Assigned s bound os' := by
  induction hsub generalizing bound with
  | slnil => exact .nil
  | @cons os' os o hsub ih =>
    obtain _ | ⟨found, missing, behind⟩ := h
    rename_i e outcome
    cases outcome with
    | none => exact ih behind hfound
    | some f =>
      -- a finding would be lost
      have hle := (Outcomes.found_sublist hsub).length_le
      rw [hfound, Outcomes.found_some, List.length_cons] at hle
      omega
  | @cons_cons os' os o hsub ih =>
    obtain _ | ⟨found, missing, behind⟩ := h
    rename_i e outcome
    refine .cons found missing (ih behind ?_)
    cases outcome with
    | none => exact hfound
    | some f => exact (List.cons.inj hfound).2

/-- If the elements of a page can be read, so can some of them. -/
theorem Expectation.exists_ofElements_of_sublist {es es' : List Element} {xs : List Expectation}
    (hread : ofElements es = .ok xs) (hsub : es'.Sublist es) : ∃ ys, ofElements es' = .ok ys := by
  induction hsub generalizing xs with
  | slnil => exact ⟨xs, hread⟩
  | cons e _ ih =>
    obtain ⟨_, _, -, -, hys⟩ := ofElements_cons_eq_ok hread
    exact ih hys
  | cons_cons e _ ih =>
    obtain ⟨y, _, -, hy, hys⟩ := ofElements_cons_eq_ok hread
    obtain ⟨ys, hys⟩ := ih hys
    exact ⟨y :: ys, by rw [ofElements, hy, hys]; rfl⟩

/-! ### Flat pages -/

/-- **Elements with nothing below them have places if there are nodes for them, one behind the
other**, and none of the places is behind such a node. -/
theorem Placed.exists_of_shows {es : List Element} {ps : List Nat}
    (hflat : ∀ e ∈ es, e.children = [])
    (hshows : List.Forall₂ (fun e p => ∃ c, s.Shows p e c) es ps)
    (hascending : ps.Pairwise (· < ·)) (hlo : ∀ p ∈ ps, lo ≤ p) (hhi : ∀ p ∈ ps, p < hi) :
    ∃ fs, Placed s lo hi es fs ∧ List.Forall₂ (fun f p => f.position ≤ p) fs ps := by
  induction hshows generalizing lo with
  | nil => exact ⟨[], .nil, .nil⟩
  | @cons e p es ps hp _ ih =>
    obtain ⟨c, hp⟩ := hp
    obtain ⟨hback, hascending⟩ := List.pairwise_cons.mp hascending
    obtain ⟨hnone, hflat⟩ := List.forall_mem_cons.mp hflat
    obtain ⟨hlop, -⟩ := List.forall_mem_cons.mp hlo
    obtain ⟨hhip, hhi⟩ := List.forall_mem_cons.mp hhi
    obtain ⟨q, c', hfirst, hle⟩ := hp.exists_first hlop hhip
    -- the nodes for the others are behind `p`, so they are behind the first node as well
    have hbehind : ∀ r ∈ ps, q + 1 ≤ r := fun r hr => by have := hback r hr; omega
    obtain ⟨fs, hrest, hstays⟩ := ih hflat hascending hbehind hhi
    refine ⟨⟨e.identity, q, c', []⟩ :: fs, .cons hfirst ?_ hrest, .cons hle hstays⟩
    rw [hnone]
    exact .nil

/-- Elements that have places have nodes. -/
theorem Placed.forall₂_shows {es : List Element} {fs : List Finding} (h : Placed s lo hi es fs) :
    List.Forall₂ (fun e p => ∃ c, s.Shows p e c) es (fs.map Finding.position) := by
  induction h with
  | nil => exact .nil
  | cons first _ _ _ ih => exact .cons ⟨_, first.shows⟩ ih

end

/-! ### The whole page -/

namespace Resolution

variable {page : List Element} {xs : List Expectation}

section

variable {engine : Template.Engine}

/-- **The resolution of a page without some of its missing elements** is the same but for what
is missing. -/
theorem ofPage_of_sublist (hread : Expectation.ofElements page = .ok xs) (root : Node)
    (hpage : os.map Prod.fst = page) (hassigned : Assigned (Snapshot.ofTree root) 0 os)
    (hsub : os'.Sublist os) (hfound : os'.found = os.found) :
    ∃ ys, Expectation.ofElements (os'.map Prod.fst) = .ok ys ∧
      ofPage ys (some root) = { ofPage xs (some root) with missing := os'.missing } := by
  have hsub' := hsub.map Prod.fst
  rw [hpage] at hsub'
  obtain ⟨ys, hread'⟩ := Expectation.exists_ofElements_of_sublist hread hsub'
  obtain ⟨os₁, hpage₁, hassigned₁, hsearch⟩ := exists_search_eq hread root
  obtain ⟨os₂, hpage₂, hassigned₂, hsearch'⟩ := exists_search_eq hread' root
  obtain rfl := hassigned₁.unique hassigned (hpage₁.trans hpage.symm)
  obtain rfl := hassigned₂.unique (hassigned.of_sublist hsub hfound) hpage₂
  exact ⟨ys, hread', by rw [ofPage_some, ofPage_some, hsearch, hsearch', hfound]⟩

/-- **Missing elements leave no trace.**  If all of them are deleted from a page, nothing is
missing any more, and everything else is found at the same locations and with the same captured
values.  If the elements are told apart by their identities, what is left are those whose
identities are not among the missing ones. -/
theorem ofPage_accepted (hread : Expectation.ofElements page = .ok xs) (root : Node) :
    ∃ os : Outcomes, Exact page root (ofPage xs (some root)) os ∧
      ((page.map Element.identity).Nodup → os.accepted = page.filter fun e =>
        e.identity ∉ (ofPage xs (some root)).missing.map Element.identity) ∧
      ∃ ys, Expectation.ofElements os.accepted = .ok ys ∧
        ofPage ys (some root) = { ofPage xs (some root) with missing := [] } := by
  obtain ⟨os, hexact⟩ := ofPage_exact hread root
  refine ⟨os, hexact, ?_, ?_⟩
  · intro hnodup
    rw [← hexact.page, List.map_map] at hnodup
    rw [hexact.missing, ← hexact.page]
    exact Outcomes.accepted_eq_filter hnodup
  · have hrest := ofPage_of_sublist hread root hexact.page hexact.assigned os.kept_sublist
      os.found_kept
    rwa [Outcomes.missing_kept] at hrest

end

/-- The search for the outer cell of the shelf page notes the cell and what is in it, and takes
all of this back.  Without the cell the text behind it is found at the same location. -/
theorem ofPage_accepted_shelf :
    ∃ ys, Expectation.ofElements (shelfPage.drop 1) = .ok ys ∧
      ofPage ys (some shelfScreen)
        = { ofPage shelfExpectations (some shelfScreen) with missing := [] } := by
  obtain ⟨os, -, haccepted, ys, hread, hpage⟩ :=
    ofPage_accepted ofElements_shelfPage shelfScreen
  have hmissing : (ofPage shelfExpectations (some shelfScreen)).missing.map Element.identity
      = [.declared 1] := by decide +kernel
  rw [haccepted (by decide), hmissing] at hread
  exact ⟨ys, hread, hpage⟩

section

variable {engine : Template.Engine}

/-- **The search misses nothing of a flat page.**  If no element of a page has others below it,
nothing is missing exactly if there are nodes for all of the elements, one behind the other, each
as its element asks. -/
theorem ofPage_complete_iff_exists_shows (hread : Expectation.ofElements page = .ok xs)
    (hflat : ∀ e ∈ page, e.children = []) (root : Node) :
    (ofPage xs (some root)).missing = [] ↔ ∃ ps : List Nat, ps.Pairwise (· < ·) ∧
      List.Forall₂ (fun e p => ∃ c, (Snapshot.ofTree root).Shows p e c) page ps := by
  obtain ⟨os, hpage, hassigned, hsearch⟩ := exists_search_eq hread root
  rw [ofPage_some, hsearch]
  constructor
  · intro hmissing
    have hplaced := hassigned.placed
    rw [Outcomes.accepted_eq hmissing, hpage] at hplaced
    exact ⟨_, hplaced.pairwise_lt, hplaced.forall₂_shows⟩
  · rintro ⟨ps, hascending, hshows⟩
    have hhi : ∀ p ∈ ps, p < (Snapshot.ofTree root).size := by
      intro p hp
      obtain ⟨e, -, c, hc⟩ := hshows.exists_of_mem_right p hp
      exact hc.lt_size
    obtain ⟨fs, hplaced, -⟩ :=
      Placed.exists_of_shows hflat hshows hascending (fun p _ => Nat.zero_le p) hhi
    obtain ⟨os', hassigned', hpage', hmissing⟩ := hplaced.exists_assigned
    rw [hassigned.unique hassigned' (hpage.trans hpage'.symm)]
    exact hmissing

end

/-- A page that asks for anything, for a button behind it, and for any text behind that. -/
def loosePage : List Element :=
  [ ⟨.declared 1, .any, none, none, none, []⟩,
    ⟨.declared 2, .button, none, none, none, []⟩,
    ⟨.declared 3, .staticText, none, none, none, []⟩ ]

/-- The loose page with its templates read. -/
def looseExpectations : List Expectation :=
  match Expectation.ofElements loosePage with
  | .ok xs => xs
  | .error _ => []

/-- On the sample screen there are the application, the first button and the text in the cell, so
nothing is missing of the loose page.  The text that the search takes is the one in front of the
cell. -/
theorem ofPage_complete_iff_exists_shows_loose :
    (ofPage looseExpectations (some sampleScreen)).missing = [] ∧
      (search looseExpectations sampleScreen).2.sightings.map Sighting.position = [0, 1, 2] := by
  have hread : Expectation.ofElements loosePage = .ok looseExpectations := rfl
  refine ⟨(ofPage_complete_iff_exists_shows hread (by decide) sampleScreen).mpr ?_, ?_⟩
  · refine ⟨[0, 1, 4], by decide, .cons ?_ (.cons ?_ (.cons ?_ .nil))⟩
    · exact ⟨_, (Matcher.bind_capture_eq_some_iff rfl).mp rfl⟩
    · exact ⟨_, (Matcher.bind_capture_eq_some_iff rfl).mp rfl⟩
    · exact ⟨_, (Matcher.bind_capture_eq_some_iff rfl).mp rfl⟩
  · decide +kernel

end Resolution

end ScreenPages
